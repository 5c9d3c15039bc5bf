import Corsaro.Report.Processing

/-! The processing threads and a tracker together. Nothing in the processing
thread sets the `msgtype` of the batches `corsaro_report_init_processing` took
from `calloc`, so every message it puts on a queue is a HALT or an INTERVAL
marker, and a tracker reading those queues never reaches its update branch:
its maps stay empty and every tally it publishes is empty. -/
namespace Corsaro.Report

/-- The message types of a processing thread: its batches are HALT messages, and so is every message
it put but its INTERVAL markers, which have no bodies. -/
structure MessageTypes (st : ProcState) : Prop where
  batches : ∀ i, (st.nextmsg i).msgtype = ipMessageHalt
  queued : ∀ i, ∀ m ∈ st.queues i,
    m.msgtype = ipMessageHalt ∨ (m.msgtype = ipMessageInterval ∧ m.update = [])

theorem init_messageTypes (threadid : Nat) : MessageTypes (ProcState.init threadid) :=
  ⟨fun _ => rfl, fun _ _ absent => absurd absent (List.not_mem_nil _)⟩

theorem updateMetricsForAddress_msgtype (trackerCount : Nat) (st : ProcState) (addr : Nat)
    (issrc : Bool) (iplen : UInt16) (tags : Option PacketTags) (i : Nat) :
    ((updateMetricsForAddress trackerCount st addr issrc iplen tags).nextmsg i).msgtype =
      (st.nextmsg i).msgtype := by
  simp only [updateMetricsForAddress]
  split <;> by_cases here : i = trackerHash trackerCount addr <;> simp [Function.update_apply, here]

theorem updateMetricsForAddress_messageTypes {st : ProcState} (inv : MessageTypes st)
    (trackerCount addr : Nat) (issrc : Bool) (iplen : UInt16) (tags : Option PacketTags) :
    MessageTypes (updateMetricsForAddress trackerCount st addr issrc iplen tags) := by
  refine ⟨fun i => by rw [updateMetricsForAddress_msgtype]; exact inv.batches i, fun i m mem => ?_⟩
  by_cases here : i = trackerHash trackerCount addr
  · subst here
    simp only [updateMetricsForAddress] at mem
    split at mem
    · exact inv.queued _ m mem
    · simp only [Function.update_same, List.mem_append, List.mem_singleton] at mem
      rcases mem with old | rfl
      · exact inv.queued _ m old
      · exact .inl (inv.batches _)
  · rw [(updateMetricsForAddress_frame st addr issrc iplen tags (Ne.symm here)).1] at mem
    exact inv.queued i m mem

theorem flushAndPut_messageTypes {st : ProcState} (inv : MessageTypes st) (trackerCount : Nat)
    (marker : IpMessage)
    (typed : marker.msgtype = ipMessageHalt ∨ (marker.msgtype = ipMessageInterval ∧ marker.update = [])) :
    MessageTypes (st.flushAndPut trackerCount marker) := by
  constructor
  · intro i
    simp only [ProcState.flushAndPut]
    split <;> simp [inv.batches i]
  · intro i m mem
    simp only [ProcState.flushAndPut] at mem
    split at mem
    · simp only [List.mem_append, List.mem_singleton] at mem
      rcases mem with old | batch | rfl
      · exact inv.queued i m old
      · split at batch
        · exact .inl ((List.mem_singleton.mp batch) ▸ inv.batches i)
        · exact absurd batch (List.not_mem_nil _)
      · exact typed
    · exact inv.queued i m mem

theorem step_messageTypes {st : ProcState} (inv : MessageTypes st) (trackerCount : Nat)
    (e : ProcEvent) : MessageTypes (st.step trackerCount e) := by
  cases e with
  | packet src dst iplen tags =>
    exact updateMetricsForAddress_messageTypes
      (updateMetricsForAddress_messageTypes inv trackerCount src true iplen tags) trackerCount dst
      false iplen tags
  | startInterval time => exact ⟨inv.batches, inv.queued⟩
  | endInterval => exact flushAndPut_messageTypes inv trackerCount _ (.inr ⟨rfl, rfl⟩)
  | halt => exact flushAndPut_messageTypes inv trackerCount _ (.inl rfl)

theorem runProcessing_messageTypes (trackerCount threadid : Nat) (evs : List ProcEvent) :
    MessageTypes (runProcessing trackerCount threadid evs) := by
  suffices from_any : ∀ st, MessageTypes st →
      MessageTypes (evs.foldl (ProcState.step trackerCount) st) from
    from_any _ (init_messageTypes threadid)
  induction evs with
  | nil => exact fun _ inv => inv
  | cons e rest ih => exact fun st inv => ih _ (step_messageTypes inv trackerCount e)

/-! ### A tracker reading the threads' queues -/

/-- The messages a tracker reads when it takes message `k` of the queue thread `j` filled, for each
`(j, k)`. -/
def readQueues (trackerCount t : Nat) (threads : List (Nat × List ProcEvent))
    (reads : List (Nat × Nat)) : List IpMessage :=
  reads.filterMap fun read => threads[read.1]?.bind fun thread =>
    ((runProcessing trackerCount thread.1 thread.2).queues t)[read.2]?

theorem readQueues_types (trackerCount t : Nat) (threads : List (Nat × List ProcEvent))
    (reads : List (Nat × Nat)) :
    ∀ m ∈ readQueues trackerCount t threads reads,
      m.msgtype = ipMessageHalt ∨ m.msgtype = ipMessageInterval := by
  intro m mem
  simp only [readQueues, List.mem_filterMap, Option.bind_eq_some] at mem
  obtain ⟨_, _, thread, _, found⟩ := mem
  rcases (runProcessing_messageTypes trackerCount thread.1 thread.2).queued t m
    (List.getElem?_mem found) with halt | ⟨interval, _⟩
  · exact .inl halt
  · exact .inr interval

/-- A tracker whose maps are empty and whose published tally, if any, is empty. -/
structure Untallied (t : Tracker) : Prop where
  curr : t.curr = .empty
  next : t.next = .empty
  published : ∀ tally, t.lastresult = some tally → tally = []

theorem init_untallied (sourcethreads : Nat) : Untallied (Tracker.init sourcethreads) :=
  ⟨rfl, rfl, fun _ none_yet => by cases none_yet⟩

theorem Untallied.collect {t : Tracker} (inv : Untallied t) : Untallied t.collect :=
  ⟨inv.curr, inv.next, fun _ none_left => by cases none_left⟩

theorem handleInterval_untallied {t t' : Tracker} (inv : Untallied t) {s ts : Nat}
    (accepted : handleInterval t s ts = .ok t') : Untallied t' := by
  unfold handleInterval at accepted
  split at accepted
  · cases accepted; exact inv
  split at accepted
  · cases accepted; exact inv
  split at accepted
  · cases accepted
  split at accepted
  · cases accepted; exact ⟨inv.curr, inv.next, inv.published⟩
  split at accepted
  · cases accepted
  cases accepted
  refine ⟨inv.next, rfl, fun tally published => ?_⟩
  simp only [Tracker.finishInterval, inv.curr, Option.some.injEq] at published
  exact published ▸ rfl

theorem trackerStep_untallied {t t' : Tracker} (inv : Untallied t) {m : IpMessage}
    (typed : m.msgtype = ipMessageHalt ∨ m.msgtype = ipMessageInterval)
    (accepted : trackerStep t m = .ok t') : Untallied t' := by
  unfold trackerStep handleMessage at accepted
  by_cases halted : t.haltphase = 2
  · rw [if_pos halted] at accepted; cases accepted; exact inv
  rw [if_neg halted] at accepted
  rcases typed with halt | interval
  · rw [if_pos halt] at accepted; cases accepted; exact ⟨inv.curr, inv.next, inv.published⟩
  · rw [if_neg (by simp [interval, ipMessageHalt, ipMessageInterval]), if_pos interval] at accepted
    exact handleInterval_untallied inv accepted

theorem runTracker_untallied (msgs : List IpMessage)
    (typed : ∀ m ∈ msgs, m.msgtype = ipMessageHalt ∨ m.msgtype = ipMessageInterval)
    {t t' : Tracker} (inv : Untallied t) (accepted : runTracker t msgs = .ok t') : Untallied t' := by
  induction msgs generalizing t with
  | nil => cases accepted; exact inv
  | cons m rest ih =>
    rw [runTracker, List.foldlM_cons] at accepted
    cases step : trackerStep t m with
    | error fault => rw [step] at accepted; cases accepted
    | ok t₁ =>
      rw [step] at accepted
      exact ih (fun m' mem => typed m' (List.mem_cons_of_mem m mem))
        (trackerStep_untallied inv (typed m (List.mem_cons_self m rest)) step) accepted

/-- For any processing threads, each with any run of packets, interval ends
and halt, and any order in which a tracker reads the messages they put on its
queue, the tracker never applies a body: its maps stay empty and every tally
it publishes is empty. -/
theorem tracker_never_applies_bodies (trackerCount N t : Nat)
    (threads : List (Nat × List ProcEvent)) (reads : List (Nat × Nat)) {tr : Tracker}
    (accepted : runTracker (Tracker.init N) (readQueues trackerCount t threads reads) = .ok tr) :
    Untallied tr :=
  runTracker_untallied _ (readQueues_types trackerCount t threads reads) (init_untallied N) accepted

theorem tracker_never_applies_bodies_sample :
    runTracker (Tracker.init 1) (readQueues 1 0 [(0, [.packet 5 6 40 none, .endInterval])] [(0, 0), (0, 1)]) =
        .ok ⟨0, 1, 2, .empty, .empty, none, []⟩ ∧
      Untallied ⟨0, 1, 2, .empty, .empty, none, []⟩ :=
  ⟨rfl, tracker_never_applies_bodies 1 1 0 [(0, [.packet 5 6 40 none, .endInterval])] [(0, 0), (0, 1)] rfl⟩

end Corsaro.Report
