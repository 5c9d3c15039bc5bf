import Corsaro.Report.Tracker

/-! One tracker inside the running system: the processing threads' message
streams, interleaved as the tracker reads them, and the merge thread reading
each published tally. Every processing thread ends the same intervals `ts` in
order, so its `k`-th interval end carries `ts.getD k 0`; the queues are FIFO, so
the tracker reads a sender's `k`-th interval end after its `k` earlier ones.
The runs stop before any HALT. -/
namespace Corsaro.Report

inductive Event
  | update (sender : Nat) (bodies : List MsgBody)
  | interval (sender : Nat)
  | collect

/-- The `msgtype` of an update message: any value other than HALT and INTERVAL takes the update
branch. -/
def ipMessageUpdate : Nat := 2

/-- The tracker, how many intervals each sender has ended, and the timestamps of the tallies the
tracker has published so far. -/
structure SysState where
  tracker : Tracker
  cnt : Nat → Nat
  published : List Nat

def SysState.init (N : Nat) : SysState := ⟨Tracker.init N, fun _ => 0, []⟩

def SysState.step (ts : List Nat) (st : SysState) : Event → Except Fault SysState
  | .update s bodies => do
    let t ← trackerStep st.tracker ⟨ipMessageUpdate, s, 0, bodies⟩
    pure { st with tracker := t }
  | .interval s => do
    let t ← trackerStep st.tracker ⟨ipMessageInterval, s, ts.getD (st.cnt s) 0, []⟩
    pure ⟨t, bump st.cnt s, if t.lastresultts = st.tracker.lastresultts then st.published
      else st.published ++ [t.lastresultts]⟩
  | .collect => pure { st with tracker := st.tracker.collect }

def runSystem (ts : List Nat) (N : Nat) (evs : List Event) : Except Fault SysState :=
  evs.foldlM (SysState.step ts) (SysState.init N)

def Event.advance (cnt : Nat → Nat) : Event → Nat → Nat
  | .interval s => bump cnt s
  | _ => cnt

def Event.Valid (ts : List Nat) (N : Nat) (cnt : Nat → Nat) : Event → Prop
  | .update s _ => s < N
  | .interval s => s < N ∧ cnt s < ts.length
  | .collect => True

/-- The events interleave the streams of the senders `0 .. N-1`. -/
def Interleaving (ts : List Nat) (N : Nat) : (Nat → Nat) → List Event → Prop
  | _, [] => True
  | cnt, e :: rest => e.Valid ts N cnt ∧ Interleaving ts N (e.advance cnt) rest

def lastFinished (ts : List Nat) (k : Nat) : Nat := if k = 0 then 0 else ts.getD (k - 1) 0

/-- The bookkeeping of a tracker that has read `cnt s` interval ends of each sender: the outstanding
list tracks the counts, and exactly the intervals every sender has ended are published. -/
structure BookInv (ts : List Nat) (N : Nat) (st : SysState) : Prop where
  threads : st.tracker.sourcethreads = N
  running : st.tracker.haltphase = 0
  tracks : Tracks ts st.cnt N st.tracker.outstanding
  bounded : ∀ s < N, st.cnt s ≤ ts.length
  lastresultts : st.tracker.lastresultts = lastFinished ts (lowest st.cnt N)
  published : st.published = ts.take (lowest st.cnt N)

/-! ### Update messages leave the bookkeeping alone -/

theorem BookInv.setMaps {ts : List Nat} {N : Nat} {st : SysState} (inv : BookInv ts N st)
    (curr next : IntervalMaps) :
    BookInv ts N { st with tracker := { st.tracker with curr := curr, next := next } } :=
  ⟨inv.threads, inv.running, inv.tracks, inv.bounded, inv.lastresultts, inv.published⟩

theorem BookInv.collect {ts : List Nat} {N : Nat} {st : SysState} (inv : BookInv ts N st) :
    BookInv ts N { st with tracker := st.tracker.collect } :=
  ⟨inv.threads, inv.running, inv.tracks, inv.bounded, inv.lastresultts, inv.published⟩

theorem trackerStep_update {t : Tracker} (running : t.haltphase = 0) (s : Nat)
    (bodies : List MsgBody) :
    trackerStep t ⟨ipMessageUpdate, s, 0, bodies⟩ =
      .ok (bodies.foldl (fun t body => processMsgBody t s body) t) := by
  simp [trackerStep, handleMessage, running, ipMessageUpdate, ipMessageHalt, ipMessageInterval]

theorem trackerStep_interval {t : Tracker} (running : t.haltphase = 0) (s ts : Nat) :
    trackerStep t ⟨ipMessageInterval, s, ts, []⟩ = handleInterval t s ts := by
  simp [trackerStep, handleMessage, running, ipMessageHalt, ipMessageInterval]

theorem lowest_zero (N : Nat) : lowest (fun _ => 0) N = 0 := by
  cases N with
  | zero => rfl
  | succ n =>
    exact Nat.eq_zero_of_not_pos fun pos =>
      Nat.not_lt_zero 0 (((lt_lowest_iff _ (Nat.succ_pos n) 0).mpr pos) 0 (Nat.succ_pos n))

theorem init_bookInv (ts : List Nat) {N : Nat} (pos : 0 < N) : BookInv ts N (SysState.init N) :=
  ⟨rfl, rfl, tracks_start ts pos, fun _ _ => Nat.zero_le _,
    by simp [SysState.init, Tracker.init, lowest_zero, lastFinished],
    by simp [SysState.init, lowest_zero]⟩

section Intervals

variable {ts : List Nat} {N : Nat} (sorted : ts.Pairwise (· < ·)) (positive : ∀ t ∈ ts, 0 < t)
include sorted positive

theorem lastFinished_lt {lo c : Nat} (le : lo ≤ c) (room : c < ts.length) :
    lastFinished ts lo < ts.getD c 0 := by
  unfold lastFinished
  split_ifs with zero
  · exact positive _ (getD_mem_of_lt room)
  · exact getD_lt_of_pairwise sorted (by omega) room

variable (two : 2 ≤ N) (small : N < 2 ^ 8)
include two small

theorem handleInterval_eq {t : Tracker} {cnt : Nat → Nat} {s : Nat} (threads : t.sourcethreads = N)
    (tracks : Tracks ts cnt N t.outstanding) (bounded : ∀ s < N, cnt s ≤ ts.length)
    (last : t.lastresultts = lastFinished ts (lowest cnt N)) (sender : s < N)
    (room : cnt s < ts.length) :
    ∃ outl', Tracks ts (bump cnt s) N outl' ∧
      handleInterval t s (ts.getD (cnt s) 0) =
        if reporters (bump cnt s) N (cnt s) = N then
          (if t.lastresult.isSome then .error .resultNotConsumed
            else .ok (t.finishInterval outl' (ts.getD (cnt s) 0)))
        else .ok { t with outstanding := outl' } := by
  obtain ⟨outl', recorded, tracks'⟩ :=
    updateOutstanding_step tracks sorted positive two small sender bounded room
  refine ⟨outl', tracks', ?_⟩
  have stamp := positive _ (getD_mem_of_lt room)
  have newer := lastFinished_lt sorted positive (lowest_le sender) room
  rw [handleInterval, if_neg (by omega), if_neg (by omega), threads, recorded]
  by_cases done : reporters (bump cnt s) N (cnt s) = N
  · simp only [if_pos done, Nat.pos_iff_ne_zero.mp stamp, if_false]
  · simp only [if_neg done, if_true]

theorem step_interval {st : SysState} (inv : BookInv ts N st) {s : Nat} (sender : s < N)
    (room : st.cnt s < ts.length) :
    (st.tracker.lastresult.isSome ∧ reporters (bump st.cnt s) N (st.cnt s) = N ∧
      SysState.step ts st (.interval s) = .error .resultNotConsumed) ∨
    (reporters (bump st.cnt s) N (st.cnt s) = N → st.tracker.lastresult.isSome = false) ∧
    ∃ st', SysState.step ts st (.interval s) = .ok st' ∧ st'.cnt = bump st.cnt s ∧
      BookInv ts N st' ∧ ∃ outl', st'.tracker =
        if reporters (bump st.cnt s) N (st.cnt s) = N then
          st.tracker.finishInterval outl' (ts.getD (st.cnt s) 0)
        else { st.tracker with outstanding := outl' } := by
  obtain ⟨outl', tracks', handled⟩ := handleInterval_eq sorted positive two small inv.threads
    inv.tracks inv.bounded inv.lastresultts sender room
  have newer := lastFinished_lt sorted positive (lowest_le sender) room
  have bounded' : ∀ s' < N, bump st.cnt s s' ≤ ts.length := fun s' h => by
    by_cases same : s' = s
    · subst same; simp; omega
    · simpa [same] using inv.bounded s' h
  simp only [SysState.step, trackerStep_interval inv.running, handled]
  by_cases done : reporters (bump st.cnt s) N (st.cnt s) = N
  · have at_lo := lowest_of_done sender done
    rw [if_pos done]
    cases unread : st.tracker.lastresult.isSome
    · rw [if_neg Bool.false_ne_true]
      refine .inr ⟨fun _ => rfl, _, rfl, rfl, ⟨inv.threads, by simp [Tracker.finishInterval, inv.running],
        tracks', bounded', ?_, ?_⟩, outl', by rw [if_pos done]⟩
      · simp [Tracker.finishInterval, lowest_bump sender, done, lastFinished]
      · have moved : ts.getD (st.cnt s) 0 ≠ st.tracker.lastresultts := by
          rw [inv.lastresultts]; omega
        simp only [Tracker.finishInterval, moved, if_false, inv.published, lowest_bump sender,
          done, if_true, at_lo]
        rw [List.take_succ, List.getElem?_eq_getElem room, List.getD_eq_getElem _ _ room]
        rfl
    · exact .inl ⟨rfl, done, by rw [if_pos rfl]; rfl⟩
  · rw [if_neg done]
    refine .inr ⟨fun finished => absurd finished done, _, rfl, rfl,
      ⟨inv.threads, inv.running, tracks', bounded', ?_, ?_⟩, outl', by rw [if_neg done]⟩
    · simp [lowest_bump sender, done, inv.lastresultts]
    · simp [lowest_bump sender, done, inv.published]

end Intervals

section Collect

variable {ts : List Nat} {N : Nat} (sorted : ts.Pairwise (· < ·)) (positive : ∀ t ∈ ts, 0 < t)
  (two : 2 ≤ N) (small : N < 2 ^ 8)
include sorted positive two small

end Collect

end Corsaro.Report
