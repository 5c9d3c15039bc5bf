import Corsaro.Report.Intervals
import Corsaro.Report.TallySpec

/-! Which interval a tracker charges an update body to. `process_msg_body`
sends the bodies of a sender that has ended an outstanding interval to the next
maps and all others to the current maps; a finished interval rotates next into
current. The tally published for an interval is compared with the bodies the
senders sent for that interval, when no sender is read more than one interval
ahead of the slowest. -/
namespace Corsaro.Report

/-- What the senders sent: each sender's interval ends, and for each interval the observations it
sent in it. -/
structure Sent where
  cnt : Nat → Nat
  input : Nat → List Update

def Sent.init : Sent := ⟨fun _ => 0, fun _ => []⟩

def Sent.step (a : Sent) : Event → Sent
  | .update s bodies =>
    let k := a.cnt s
    { a with input := Function.update a.input k (a.input k ++ bodies.flatMap MsgBody.updates) }
  | .interval s => { a with cnt := bump a.cnt s }
  | .collect => a

/-- The observations sent for interval `k` in the events `evs`. -/
def intervalInput (evs : List Event) (k : Nat) : List Update :=
  (evs.foldl Sent.step Sent.init).input k

/-- Every update message is read while its sender has ended at most one interval more than the
slowest sender. -/
def OneAhead (N : Nat) : (Nat → Nat) → List Event → Prop
  | _, [] => True
  | cnt, .update s _ :: rest => cnt s ≤ lowest cnt N + 1 ∧ OneAhead N cnt rest
  | cnt, .interval s :: rest => OneAhead N (bump cnt s) rest
  | cnt, .collect :: rest => OneAhead N cnt rest

theorem Sent.step_cnt (a : Sent) (e : Event) : (a.step e).cnt = e.advance a.cnt := by
  cases e <;> rfl

theorem input_length_le (evs : List Event) (a : Sent) (k : Nat) :
    (a.input k).length ≤ ((evs.foldl Sent.step a).input k).length := by
  induction evs generalizing a with
  | nil => exact le_refl _
  | cons e rest ih =>
    refine le_trans ?_ (ih (a.step e))
    cases e with
    | update s bodies =>
      by_cases same : k = a.cnt s
      · subst same; simp [Sent.step]
      · simp [Sent.step, same]
    | interval s => exact le_refl _
    | collect => exact le_refl _

/-! ### The bodies of one update message -/

section Bodies

variable {ts : List Nat} {cnt : Nat → Nat} {N s : Nat}

theorem processMsgBody_route {t : Tracker} (tracks : Tracks ts cnt N t.outstanding)
    (sender : s < N) (body : MsgBody) :
    processMsgBody t s body = if lowest cnt N < cnt s then { t with next := t.next.applyBody body }
      else { t with curr := t.curr.applyBody body } := by
  have pos : 0 < N := Nat.lt_of_le_of_lt (Nat.zero_le _) sender
  unfold processMsgBody
  by_cases empty : t.outstanding.length = 0
  · have level := (outstanding_eq_nil_iff tracks pos).mp (List.length_eq_zero.mp empty)
    have : cnt s ≤ highest cnt N := cnt_le_highest sender
    rw [if_pos empty, if_neg (by omega)]
  · have route : senderInOutstanding t.outstanding s = true ↔ lowest cnt N < cnt s :=
      (senderInOutstanding_iff tracks sender).trans (exists_behind_iff sender)
    rw [if_neg empty]
    by_cases ahead : lowest cnt N < cnt s
    · rw [if_pos (route.mpr ahead), if_pos ahead]
    · rw [if_neg (mt route.mp ahead), if_neg ahead]

theorem processMsgBodies_route {t : Tracker} (tracks : Tracks ts cnt N t.outstanding)
    (sender : s < N) (bodies : List MsgBody) :
    bodies.foldl (fun t body => processMsgBody t s body) t =
      if lowest cnt N < cnt s then
        { t with next := (bodies.flatMap MsgBody.updates).foldl applyUpdate t.next }
      else { t with curr := (bodies.flatMap MsgBody.updates).foldl applyUpdate t.curr } := by
  rw [← applyBodies_eq_updates, ← applyBodies_eq_updates]
  induction bodies generalizing t with
  | nil => split_ifs <;> rfl
  | cons b bodies ih =>
    rw [List.foldl_cons, processMsgBody_route tracks sender]
    split_ifs with ahead
    · refine (@ih { t with next := t.next.applyBody b } tracks).trans ?_
      rw [if_pos ahead]; rfl
    · refine (@ih { t with curr := t.curr.applyBody b } tracks).trans ?_
      rw [if_neg ahead]; rfl

end Bodies

/-- The tracker's maps against what was sent: the current maps hold the slowest sender's interval,
the next maps the one after it, and a published tally the one before. -/
structure RoutingInv (ts : List Nat) (N : Nat) (a : Sent) (st : SysState) : Prop where
  book : BookInv ts N st
  cnt : st.cnt = a.cnt
  curr : MapsCorrect st.tracker.curr (a.input (lowest a.cnt N))
  next : MapsCorrect st.tracker.next (a.input (lowest a.cnt N + 1))
  later : ∀ k, lowest a.cnt N + 2 ≤ k → a.input k = []
  result : ∀ tally, st.tracker.lastresult = some tally →
    0 < lowest a.cnt N ∧ TallyMatches (a.input (lowest a.cnt N - 1)) tally

theorem init_routingInv (ts : List Nat) {N : Nat} (pos : 0 < N) :
    RoutingInv ts N Sent.init (SysState.init N) :=
  ⟨init_bookInv ts pos, rfl, empty_correct, empty_correct, fun _ _ => rfl,
    fun _ none_yet => by simp [SysState.init, Tracker.init] at none_yet⟩

theorem step_update_routing {a : Sent} {st st' : SysState} (inv : RoutingInv ts N a st) {s : Nat}
    {bodies : List MsgBody} (sender : s < N) (ahead : a.cnt s ≤ lowest a.cnt N + 1)
    (fits : ((a.step (.update s bodies)).input (a.cnt s)).length < 2 ^ 32)
    (ok : SysState.step ts st (.update s bodies) = .ok st') :
    RoutingInv ts N (a.step (.update s bodies)) st' := by
  have tracks : Tracks ts a.cnt N st.tracker.outstanding := inv.cnt ▸ inv.book.tracks
  have low : lowest a.cnt N ≤ a.cnt s := lowest_le sender
  simp only [SysState.step, trackerStep_update inv.book.running,
    processMsgBodies_route tracks sender] at ok
  rw [← Except.ok.inj ok]
  have here : (a.step (.update s bodies)).input (a.cnt s) =
      a.input (a.cnt s) ++ bodies.flatMap MsgBody.updates := by simp [Sent.step]
  have other : ∀ k, k ≠ a.cnt s → (a.step (.update s bodies)).input k = a.input k := fun k ne => by
    simp [Sent.step, ne]
  have fits' : (a.input (a.cnt s)).length + (bodies.flatMap MsgBody.updates).length < 2 ^ 32 := by
    simpa [here] using fits
  have result : ∀ tally, st.tracker.lastresult = some tally →
      0 < lowest a.cnt N ∧ TallyMatches ((a.step (.update s bodies)).input (lowest a.cnt N - 1)) tally :=
    fun tally pub => by
      obtain ⟨pos, agrees⟩ := inv.result tally pub
      exact ⟨pos, by rw [other _ (by omega)]; exact agrees⟩
  have later : ∀ k, lowest a.cnt N + 2 ≤ k → (a.step (.update s bodies)).input k = [] :=
    fun k le => by rw [other _ (by omega)]; exact inv.later k le
  have same_cnt : (a.step (.update s bodies)).cnt = a.cnt := rfl
  by_cases next : lowest a.cnt N < a.cnt s
  · have at_next : a.cnt s = lowest a.cnt N + 1 := by omega
    rw [if_pos next]
    refine ⟨inv.book.setMaps _ _, inv.cnt, ?_, ?_, later, result⟩ <;> rw [same_cnt]
    · rw [other _ (by omega)]; exact inv.curr
    · rw [← at_next, here]
      exact applyUpdates_correct _ _ _ (at_next ▸ inv.next) fits'
  · have at_curr : a.cnt s = lowest a.cnt N := by omega
    rw [if_neg next]
    refine ⟨inv.book.setMaps _ _, inv.cnt, ?_, ?_, later, result⟩ <;> rw [same_cnt]
    · rw [← at_curr, here]
      exact applyUpdates_correct _ _ _ (at_curr ▸ inv.curr) fits'
    · rw [other _ (by omega)]; exact inv.next

theorem step_collect_routing {ts : List Nat} {N : Nat} {a : Sent} {st : SysState}
    (inv : RoutingInv ts N a st) :
    RoutingInv ts N (a.step .collect) { st with tracker := st.tracker.collect } :=
  ⟨inv.book.collect, inv.cnt, inv.curr, inv.next, inv.later,
    fun _ none_yet => by simp [Tracker.collect] at none_yet⟩

theorem OneAhead.tail {N : Nat} {cnt : Nat → Nat} {e : Event} {rest : List Event}
    (ahead : OneAhead N cnt (e :: rest)) : OneAhead N (e.advance cnt) rest := by
  cases e with
  | update s bodies => exact ahead.2
  | interval s => exact ahead
  | collect => exact ahead

section Routing

variable {ts : List Nat} {N : Nat} (sorted : ts.Pairwise (· < ·)) (positive : ∀ t ∈ ts, 0 < t)
  (two : 2 ≤ N) (small : N < 2 ^ 8)
include sorted positive two small

theorem step_interval_routing {a : Sent} {st st' : SysState} (inv : RoutingInv ts N a st) {s : Nat}
    (sender : s < N) (room : a.cnt s < ts.length)
    (ok : SysState.step ts st (.interval s) = .ok st') :
    RoutingInv ts N (a.step (.interval s)) st' := by
  rcases step_interval sorted positive two small inv.book sender (inv.cnt ▸ room) with
    ⟨-, -, fault⟩ | ⟨-, st1, ok1, cnt1, book1, outl', shape⟩
  · rw [fault] at ok; cases ok
  rw [ok1, Except.ok.injEq] at ok
  subst ok
  rw [inv.cnt] at shape cnt1
  have low := inv.later
  by_cases done : reporters (bump a.cnt s) N (a.cnt s) = N
  · rw [if_pos done] at shape
    have moved : lowest (bump a.cnt s) N = lowest a.cnt N + 1 := by
      rw [lowest_bump sender, if_pos done, lowest_of_done sender done]
    refine ⟨book1, cnt1, ?_, ?_, ?_, ?_⟩ <;> simp only [Sent.step, moved, shape]
    · exact inv.next
    · rw [inv.later _ (le_refl _)]; exact empty_correct
    · exact fun k le => inv.later k (by omega)
    · intro tally pub
      simp only [Tracker.finishInterval, Option.some.injEq] at pub
      exact ⟨Nat.succ_pos _, pub ▸ inv.curr.tallyMatches⟩
  · rw [if_neg done] at shape
    have same_lo : lowest (bump a.cnt s) N = lowest a.cnt N := by
      rw [lowest_bump sender, if_neg done]
    refine ⟨book1, cnt1, ?_, ?_, ?_, ?_⟩ <;> simp only [Sent.step, same_lo, shape]
    · exact inv.curr
    · exact inv.next
    · exact inv.later
    · exact inv.result

theorem run_routing (evs : List Event) {a : Sent} {st st' : SysState} (inv : RoutingInv ts N a st)
    (wf : Interleaving ts N a.cnt evs) (ahead : OneAhead N a.cnt evs)
    (fits : ∀ k, ((evs.foldl Sent.step a).input k).length < 2 ^ 32)
    (ok : evs.foldlM (SysState.step ts) st = .ok st') :
    RoutingInv ts N (evs.foldl Sent.step a) st' := by
  induction evs generalizing a st with
  | nil =>
    simp only [List.foldlM_nil, pure, Except.pure, Except.ok.injEq] at ok
    exact ok ▸ inv
  | cons e rest ih =>
    rw [List.foldlM_cons] at ok
    cases first : SysState.step ts st e with
    | error f => rw [first] at ok; cases ok
    | ok st1 =>
      rw [first] at ok
      have fits1 : ∀ k, ((a.step e).input k).length < 2 ^ 32 := fun k =>
        Nat.lt_of_le_of_lt (input_length_le rest _ k) (fits k)
      have inv1 : RoutingInv ts N (a.step e) st1 := by
        cases e with
        | update s bodies => exact step_update_routing inv wf.1 ahead.1 (fits1 _) first
        | interval s => exact step_interval_routing sorted positive two small inv wf.1.1 wf.1.2 first
        | collect =>
          simp only [SysState.step, pure, Except.pure, Except.ok.injEq] at first
          exact first ▸ step_collect_routing inv
      exact ih inv1 (by rw [Sent.step_cnt]; exact wf.2) (by rw [Sent.step_cnt]; exact ahead.tail)
        fits ok

/-- The tally a tracker publishes for an interval is the set-semantics tally of
exactly the bodies the senders sent for that interval: after their previous
interval end and before their interval end of this one. This holds when no
update message is read more than one interval ahead of the slowest sender and
no interval has 2^32 observations. -/
theorem published_tally_is_interval_input (evs : List Event)
    (wf : Interleaving ts N (fun _ => 0) evs) (ahead : OneAhead N (fun _ => 0) evs)
    (fits : ∀ k, (intervalInput evs k).length < 2 ^ 32) {st : SysState}
    (accepted : runSystem ts N evs = .ok st) {tally : TallyMap}
    (published : st.tracker.lastresult = some tally) :
    ∃ k, st.tracker.lastresultts = ts.getD k 0 ∧ TallyMatches (intervalInput evs k) tally := by
  have inv := run_routing sorted positive two small evs (init_routingInv ts (by omega)) wf ahead
    fits accepted
  obtain ⟨pos, agrees⟩ := inv.result tally published
  refine ⟨lowest (evs.foldl Sent.step Sent.init).cnt N - 1, ?_, agrees⟩
  rw [inv.book.lastresultts, inv.cnt, lastFinished, if_neg (by omega)]

end Routing

def sampleBody : MsgBody := ⟨5, true, [0], 40, by simp⟩

def oneAheadRun : List Event :=
  [.update 0 [sampleBody], .interval 0, .update 0 [sampleBody], .interval 1]

theorem published_tally_is_interval_input_sample :
    [10, 20].Pairwise (· < ·) ∧ (∀ t ∈ [10, 20], 0 < t) ∧ 2 ≤ 2 ∧ 2 < 2 ^ 8 ∧
      Interleaving [10, 20] 2 (fun _ => 0) oneAheadRun ∧ OneAhead 2 (fun _ => 0) oneAheadRun ∧
      (∀ k, (intervalInput oneAheadRun k).length < 2 ^ 32) ∧
      ∃ st tally, runSystem [10, 20] 2 oneAheadRun = .ok st ∧ st.tracker.lastresult = some tally ∧
        ∃ k, st.tracker.lastresultts = [10, 20].getD k 0 ∧
          TallyMatches (intervalInput oneAheadRun k) tally := by
  have wf : Interleaving [10, 20] 2 (fun _ => 0) oneAheadRun := by
    simp [Interleaving, Event.Valid, Event.advance, oneAheadRun, bump, Function.update_apply]
  have ahead : OneAhead 2 (fun _ => 0) oneAheadRun := by
    simp [OneAhead, oneAheadRun, lowest, bump, Function.update_apply]
  have fits : ∀ k, (intervalInput oneAheadRun k).length < 2 ^ 32 := by
    intro k
    simp only [intervalInput, oneAheadRun, List.foldl, Sent.step, Sent.init, bump]
    simp only [Function.update_apply]
    split_ifs <;> simp [sampleBody, MsgBody.updates]
  have computed : (runSystem [10, 20] 2 oneAheadRun).toOption.map
      (fun st => st.tracker.lastresult.isSome) = some true := by decide
  cases run : runSystem [10, 20] 2 oneAheadRun with
  | error e => rw [run] at computed; cases computed
  | ok st =>
    rw [run] at computed
    have set : st.tracker.lastresult.isSome = true := by
      simpa [Except.toOption] using computed
    obtain ⟨tally, pub⟩ := Option.isSome_iff_exists.mp set
    exact ⟨by decide, by decide, le_refl _, by decide, wf, ahead, fits, st, tally, rfl, pub,
      published_tally_is_interval_input (by decide) (by decide) (le_refl _) (by decide) _ wf ahead
        fits run pub⟩


/-- Sender 0 ends intervals 10 and 20 and sends a body for 30 before sender 1 ends 10. -/
def twoAheadRun : List Event :=
  [.interval 0, .interval 0, .update 0 [sampleBody], .interval 1, .collect, .interval 1]

/-- Two intervals ahead, a body sent for interval 30 goes to the next maps,
which become the maps of interval 20: the tally published for 20, which had no
input, counts it. -/
theorem body_two_ahead_counted_early :
    ∃ st tally, runSystem [10, 20, 30] 2 twoAheadRun = .ok st ∧
      st.tracker.lastresult = some tally ∧ st.tracker.lastresultts = 20 ∧
      tally.find? (fun t => t.metricid = 0) = some ⟨0, 1, 0, 1, 40⟩ ∧
      ¬∃ k, st.tracker.lastresultts = [10, 20, 30].getD k 0 ∧
        TallyMatches (intervalInput twoAheadRun k) tally := by
  have computed : (runSystem [10, 20, 30] 2 twoAheadRun).toOption.map (fun st =>
      (st.tracker.lastresultts, st.tracker.lastresult.map (fun t => t.find? (fun t => t.metricid = 0)))) =
      some (20, some (some ⟨0, 1, 0, 1, 40⟩)) := by decide
  have empty : intervalInput twoAheadRun 1 = [] := by decide
  cases run : runSystem [10, 20, 30] 2 twoAheadRun with
  | error e => rw [run] at computed; cases computed
  | ok st =>
    rw [run] at computed
    simp only [Except.toOption, Option.map_some', Option.some.injEq, Prod.mk.injEq] at computed
    obtain ⟨at20, found⟩ := computed
    cases pub : st.tracker.lastresult with
    | none => rw [pub] at found; cases found
    | some tally =>
      rw [pub, Option.map_some', Option.some.injEq] at found
      refine ⟨st, tally, rfl, pub, at20, found, ?_⟩
      rintro ⟨k, stamp, agrees⟩
      have one : k = 1 := by
        rw [at20] at stamp
        match k, stamp with
        | 0, h => simp at h
        | 1, _ => rfl
        | 2, h => simp at h
        | k + 3, h => simp at h
      have := agrees 0
      rw [one, empty, found] at this
      simp [metricIds] at this

end Corsaro.Report
