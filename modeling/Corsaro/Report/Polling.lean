import Corsaro.Report.Merge

/-! The polling loop of `corsaro_report_merge_interval_results`. The merge
thread visits the trackers it is not done with; under a tracker's mutex it
merges the tally the tracker published for the interval, or marks a halted
tracker done and the interval to be skipped, or leaves the tracker for the next
round. The trackers run concurrently, so a visit sees the tracker as it is at
that moment: a run of the loop is any list of visits, each with the tracker's
state then. A failed `pthread_mutex_trylock` and the `usleep` between rounds
change nothing and are left out. The loop tests `totaldone` after each round; a
visit to a tracker already done changes nothing, so testing it before each
visit is the same loop. -/
namespace Corsaro.Report

inductive MergeFault
  | laterResult
  | noResult
  deriving DecidableEq, Repr

structure MergeState where
  results : ResultMap
  trackersDone : Nat → Bool
  totaldone : Nat
  skipresult : Bool

def MergeState.init : MergeState := ⟨[], fun _ => false, 0, false⟩

/-- One visit of the loop to tracker `i`, as the tracker `tr` then is. -/
def pollTracker (ts : Nat) (m : MergeState) (i : Nat) (tr : Tracker) :
    Except MergeFault (MergeState × Tracker) :=
  if m.trackersDone i then .ok (m, tr)
  else if ts < tr.lastresultts then .error .laterResult
  else if tr.lastresultts = ts then
    match tr.lastresult with
    | none => .error .noResult
    | some tally => .ok (
        { m with
          results := updateTrackerResults m.results tally ts
          trackersDone := Function.update m.trackersDone i true
          totaldone := (m.totaldone + 1) % 2 ^ 8 },
        tr.collect)
  else if tr.haltphase = 2 then .ok (
      { m with
        trackersDone := Function.update m.trackersDone i true
        totaldone := (m.totaldone + 1) % 2 ^ 8
        skipresult := true },
      tr)
  else .ok (m, tr)

/-- The `do ... while (totaldone < tracker_count)` loop over its visits, in order. -/
def pollLoop (trackerCount ts : Nat) (m : MergeState) : List (Nat × Tracker) → Except MergeFault MergeState
  | [] => .ok m
  | v :: rest =>
    if m.totaldone < trackerCount then
      match pollTracker ts m v.1 v.2 with
      | .error fault => .error fault
      | .ok (m', _) => pollLoop trackerCount ts m' rest
    else .ok m

/-- A tracker the loop can be done with: it has published the interval, or it has halted. -/
def Settled (ts : Nat) (tr : Tracker) : Prop := tr.lastresultts = ts ∨ tr.haltphase = 2

instance (ts : Nat) (tr : Tracker) : Decidable (Settled ts tr) := inferInstanceAs (Decidable (_ ∨ _))

/-! ### What the loop has done after some visits -/

/-- The done flags and `totaldone` after the visits `seen`: the trackers seen settled, counted. -/
structure Counted (trackerCount ts : Nat) (seen : List (Nat × Tracker)) (done : Nat → Bool)
    (total : Nat) : Prop where
  count : total = ((Finset.range trackerCount).filter fun i => done i = true).card
  done_settled : ∀ i, done i = true → i < trackerCount ∧ ∃ tr, (i, tr) ∈ seen ∧ Settled ts tr
  settled_done : ∀ v ∈ seen, Settled ts v.2 → done v.1 = true

/-- The loop after the visits `seen`: `taken` lists the trackers it merged, in order, each once. -/
structure Polled (trackerCount ts : Nat) (seen : List (Nat × Tracker))
    (taken : List (Nat × TallyMap)) (m : MergeState) : Prop where
  counted : Counted trackerCount ts seen m.trackersDone m.totaldone
  results : m.results = mergeTrackers ts (taken.map Prod.snd)
  published : ∀ p ∈ taken, ∃ tr, (p.1, tr) ∈ seen ∧ tr.lastresultts = ts ∧ tr.lastresult = some p.2
  taken_done : ∀ p ∈ taken, m.trackersDone p.1 = true
  once : (taken.map Prod.fst).Nodup
  done_taken : m.skipresult = false → ∀ i, m.trackersDone i = true → i ∈ taken.map Prod.fst
  halted : m.skipresult = true → ∃ v ∈ seen, v.2.haltphase = 2 ∧ v.2.lastresultts < ts

section Loop

variable {trackerCount ts : Nat}

theorem init_polled : Polled trackerCount ts [] [] MergeState.init :=
  ⟨⟨by simp [MergeState.init], by simp [MergeState.init], by simp⟩, rfl, by simp, by simp,
    List.nodup_nil, by simp [MergeState.init], by simp [MergeState.init]⟩

theorem Counted.visit {seen : List (Nat × Tracker)} {done : Nat → Bool} {total : Nat}
    (inv : Counted trackerCount ts seen done total) (v : Nat × Tracker)
    (known : Settled ts v.2 → done v.1 = true) : Counted trackerCount ts (seen ++ [v]) done total := by
  refine ⟨inv.count, fun i finished => (inv.done_settled i finished).imp_right
    (Exists.imp fun _ found => ⟨List.mem_append_left _ found.1, found.2⟩), fun w mem => ?_⟩
  rcases List.mem_append.mp mem with old | now
  · exact inv.settled_done w old
  · rw [List.mem_singleton.mp now]; exact known

theorem Counted.mark (small : trackerCount < 2 ^ 8) {seen : List (Nat × Tracker)}
    {done : Nat → Bool} {total : Nat} (inv : Counted trackerCount ts seen done total) {i : Nat}
    {tr : Tracker} (below : i < trackerCount) (fresh : done i = false) (settled : Settled ts tr) :
    Counted trackerCount ts (seen ++ [(i, tr)]) (Function.update done i true) ((total + 1) % 2 ^ 8) := by
  have grown : (Finset.range trackerCount).filter (fun j => Function.update done i true j = true) =
      insert i ((Finset.range trackerCount).filter fun j => done j = true) := by
    ext j
    by_cases same : j = i <;> simp [Function.update_apply, same, below]
  have card : ((Finset.range trackerCount).filter fun j => Function.update done i true j = true).card =
      total + 1 := by
    rw [grown, Finset.card_insert_of_not_mem (by simp [fresh]), inv.count]
  have bound : total + 1 ≤ trackerCount := calc
    total + 1 = _ := card.symm
    _ ≤ (Finset.range trackerCount).card := Finset.card_filter_le _ _
    _ = trackerCount := Finset.card_range _
  refine ⟨by rw [card]; exact Nat.mod_eq_of_lt (by omega), fun j finished => ?_,
    fun w mem settled' => ?_⟩
  · by_cases same : j = i
    · subst same
      exact ⟨below, tr, List.mem_append_right _ (List.mem_singleton_self _), settled⟩
    · rw [Function.update_noteq same] at finished
      exact (inv.done_settled j finished).imp_right
        (Exists.imp fun _ found => ⟨List.mem_append_left _ found.1, found.2⟩)
  · rcases List.mem_append.mp mem with old | now
    · simp [Function.update_apply, inv.settled_done w old settled']
    · rw [List.mem_singleton.mp now, Function.update_same]

theorem Polled.visit {seen : List (Nat × Tracker)} {taken : List (Nat × TallyMap)} {m : MergeState}
    (inv : Polled trackerCount ts seen taken m) (v : Nat × Tracker)
    (known : Settled ts v.2 → m.trackersDone v.1 = true) :
    Polled trackerCount ts (seen ++ [v]) taken m :=
  ⟨inv.counted.visit v known, inv.results,
    fun p mem => (inv.published p mem).imp fun _ found => ⟨List.mem_append_left _ found.1, found.2⟩,
    inv.taken_done, inv.once, inv.done_taken,
    fun skipped => (inv.halted skipped).imp fun _ found => ⟨List.mem_append_left _ found.1, found.2⟩⟩

theorem Polled.take (small : trackerCount < 2 ^ 8) {seen : List (Nat × Tracker)}
    {taken : List (Nat × TallyMap)} {m : MergeState} (inv : Polled trackerCount ts seen taken m)
    {i : Nat} {tr : Tracker} (below : i < trackerCount) (fresh : m.trackersDone i = false)
    (now : tr.lastresultts = ts) {tally : TallyMap} (held : tr.lastresult = some tally) :
    Polled trackerCount ts (seen ++ [(i, tr)]) (taken ++ [(i, tally)])
      { m with
        results := updateTrackerResults m.results tally ts
        trackersDone := Function.update m.trackersDone i true
        totaldone := (m.totaldone + 1) % 2 ^ 8 } := by
  have unmerged : i ∉ taken.map Prod.fst := fun mem => by
    obtain ⟨p, taken_p, rfl⟩ := List.mem_map.mp mem
    simp [inv.taken_done p taken_p] at fresh
  refine ⟨inv.counted.mark small below fresh (.inl now), ?_, fun p mem => ?_, fun p mem => ?_,
    ?_, fun merged j finished => ?_, fun skipped => ?_⟩
  · simp [inv.results, mergeTrackers]
  · rcases List.mem_append.mp mem with old | added
    · exact (inv.published p old).imp fun _ found => ⟨List.mem_append_left _ found.1, found.2⟩
    · rw [List.mem_singleton.mp added]
      exact ⟨tr, List.mem_append_right _ (List.mem_singleton_self _), now, held⟩
  · rcases List.mem_append.mp mem with old | added
    · simp [Function.update_apply, inv.taken_done p old]
    · rw [List.mem_singleton.mp added]
      exact Function.update_same _ _ _
  · rw [List.map_append, List.map_singleton]
    exact inv.once.append (List.nodup_singleton i) fun j old added => unmerged (by
      rw [List.mem_singleton.mp added] at old; exact old)
  · dsimp only at merged finished
    by_cases same : j = i
    · simp [same]
    · rw [Function.update_noteq same] at finished
      simp [inv.done_taken merged j finished]
  · exact (inv.halted skipped).imp fun _ found => ⟨List.mem_append_left _ found.1, found.2⟩

theorem Polled.halt (small : trackerCount < 2 ^ 8) {seen : List (Nat × Tracker)}
    {taken : List (Nat × TallyMap)} {m : MergeState} (inv : Polled trackerCount ts seen taken m)
    {i : Nat} {tr : Tracker} (below : i < trackerCount) (fresh : m.trackersDone i = false)
    (earlier : tr.lastresultts < ts) (halted : tr.haltphase = 2) :
    Polled trackerCount ts (seen ++ [(i, tr)]) taken
      { m with
        trackersDone := Function.update m.trackersDone i true
        totaldone := (m.totaldone + 1) % 2 ^ 8
        skipresult := true } := by
  refine ⟨inv.counted.mark small below fresh (.inr halted), inv.results,
    fun p mem => (inv.published p mem).imp fun _ found => ⟨List.mem_append_left _ found.1, found.2⟩,
    fun p mem => ?_, inv.once, fun merged => absurd merged (by simp), fun _ =>
      ⟨(i, tr), List.mem_append_right _ (List.mem_singleton_self _), halted, earlier⟩⟩
  simp [Function.update_apply, inv.taken_done p mem]

theorem pollTracker_polled (small : trackerCount < 2 ^ 8) {seen : List (Nat × Tracker)}
    {taken : List (Nat × TallyMap)} {m : MergeState} (inv : Polled trackerCount ts seen taken m)
    {i : Nat} {tr : Tracker} (below : i < trackerCount) {m' : MergeState} {tr' : Tracker}
    (accepted : pollTracker ts m i tr = .ok (m', tr')) :
    ∃ taken', Polled trackerCount ts (seen ++ [(i, tr)]) taken' m' := by
  unfold pollTracker at accepted
  by_cases done : m.trackersDone i = true
  · rw [if_pos done] at accepted
    cases accepted
    exact ⟨taken, inv.visit (i, tr) fun _ => done⟩
  have fresh : m.trackersDone i = false := by simpa using done
  rw [if_neg done] at accepted
  by_cases later : ts < tr.lastresultts
  · rw [if_pos later] at accepted; cases accepted
  rw [if_neg later] at accepted
  by_cases now : tr.lastresultts = ts
  · rw [if_pos now] at accepted
    cases held : tr.lastresult with
    | none => rw [held] at accepted; cases accepted
    | some tally =>
      rw [held] at accepted
      cases accepted
      exact ⟨_, inv.take small below fresh now held⟩
  rw [if_neg now] at accepted
  by_cases halted : tr.haltphase = 2
  · rw [if_pos halted] at accepted
    cases accepted
    exact ⟨taken, inv.halt small below fresh (by omega) halted⟩
  · rw [if_neg halted] at accepted
    cases accepted
    exact ⟨taken, inv.visit (i, tr) fun settled => absurd settled (by simp [Settled, now, halted])⟩

theorem pollLoop_polled (small : trackerCount < 2 ^ 8) :
    ∀ (rest seen : List (Nat × Tracker)) {taken : List (Nat × TallyMap)} {m m' : MergeState},
      (∀ v ∈ rest, v.1 < trackerCount) → Polled trackerCount ts seen taken m →
      pollLoop trackerCount ts m rest = .ok m' →
      ∃ made taken', made <+: rest ∧ (made = rest ∨ trackerCount ≤ m'.totaldone) ∧
        Polled trackerCount ts (seen ++ made) taken' m'
  | [], seen, taken, m, m', _, inv, accepted => by
    cases accepted
    exact ⟨[], taken, List.nil_prefix, .inl rfl, by simpa using inv⟩
  | v :: rest, seen, taken, m, m', inRange, inv, accepted => by
    unfold pollLoop at accepted
    by_cases going : m.totaldone < trackerCount
    · rw [if_pos going] at accepted
      split at accepted
      · cases accepted
      · rename_i m₁ tr₁ step
        obtain ⟨taken₁, inv₁⟩ := pollTracker_polled small inv
          (inRange v (List.mem_cons_self v rest)) step
        obtain ⟨made, taken', pre, whole, inv'⟩ := pollLoop_polled small rest (seen ++ [v])
          (fun w mem => inRange w (List.mem_cons_of_mem v mem)) inv₁ accepted
        exact ⟨v :: made, taken', (List.prefix_cons_inj v).mpr pre,
          whole.imp (congrArg (v :: ·)) id, by simpa using inv'⟩
    · rw [if_neg going] at accepted
      cases accepted
      exact ⟨[], taken, List.nil_prefix, .inr (by omega), by simpa using inv⟩

theorem Counted.all_done {seen : List (Nat × Tracker)} {done : Nat → Bool} {total : Nat}
    (inv : Counted trackerCount ts seen done total) (finished : trackerCount ≤ total) :
    ∀ i < trackerCount, done i = true := by
  have full : ((Finset.range trackerCount).filter fun i => done i = true).card =
      (Finset.range trackerCount).card :=
    le_antisymm (Finset.card_filter_le _ _) (by rw [Finset.card_range, ← inv.count]; exact finished)
  exact fun i below => Finset.card_filter_eq_iff.mp full i (Finset.mem_range.mpr below)

theorem Counted.finished_of_settled {seen : List (Nat × Tracker)} {done : Nat → Bool} {total : Nat}
    (inv : Counted trackerCount ts seen done total)
    (settled : ∀ i < trackerCount, ∃ tr, (i, tr) ∈ seen ∧ Settled ts tr) : trackerCount ≤ total := by
  have all : ∀ i ∈ Finset.range trackerCount, done i = true := fun i mem =>
    let ⟨tr, visited, now⟩ := settled i (Finset.mem_range.mp mem)
    inv.settled_done (i, tr) visited now
  rw [inv.count, Finset.filter_true_of_mem all, Finset.card_range]

theorem Polled.taken_perm {seen : List (Nat × Tracker)} {taken : List (Nat × TallyMap)}
    {m : MergeState} (inv : Polled trackerCount ts seen taken m) (finished : trackerCount ≤ m.totaldone)
    (merged : m.skipresult = false) : (taken.map Prod.fst).Perm (List.range trackerCount) := by
  refine (List.perm_ext_iff_of_nodup inv.once (List.nodup_range _)).mpr fun i => ⟨fun mem => ?_,
    fun mem => inv.done_taken merged i (inv.counted.all_done finished i (List.mem_range.mp mem))⟩
  obtain ⟨p, taken_p, rfl⟩ := List.mem_map.mp mem
  exact List.mem_range.mpr (inv.counted.done_settled _ (inv.taken_done p taken_p)).1

end Loop

/-- However the trackers change between the merge thread's visits, a run of
the polling loop that reaches no assertion exits exactly when it has seen every
tracker below `tracker_count` with the interval published or halted. If it has
seen no halted tracker by then, it has merged the tally of every tracker exactly
once, in some order, each the tally a visit found published for the interval;
if it has seen one, that tracker halted before publishing the interval. -/
theorem merge_loop_takes_every_tally_once (trackerCount ts : Nat) (small : trackerCount < 2 ^ 8)
    (visits : List (Nat × Tracker)) (inRange : ∀ v ∈ visits, v.1 < trackerCount) {m : MergeState}
    (accepted : pollLoop trackerCount ts MergeState.init visits = .ok m) :
    (trackerCount ≤ m.totaldone ↔ ∀ i < trackerCount, ∃ tr, (i, tr) ∈ visits ∧ Settled ts tr) ∧
      (trackerCount ≤ m.totaldone → m.skipresult = false → ∃ taken : List (Nat × TallyMap),
        (taken.map Prod.fst).Perm (List.range trackerCount) ∧
        m.results = mergeTrackers ts (taken.map Prod.snd) ∧
        ∀ p ∈ taken, ∃ tr, (p.1, tr) ∈ visits ∧ tr.lastresultts = ts ∧ tr.lastresult = some p.2) ∧
      (m.skipresult = true → ∃ v ∈ visits, v.2.haltphase = 2 ∧ v.2.lastresultts < ts) := by
  obtain ⟨made, taken, pre, whole, inv⟩ :=
    pollLoop_polled small visits [] inRange init_polled accepted
  rw [List.nil_append] at inv
  have made_visits : ∀ v ∈ made, v ∈ visits := pre.subset
  refine ⟨⟨fun finished i below => ?_, fun settled => ?_⟩, fun finished merged =>
    ⟨taken, inv.taken_perm finished merged, inv.results, fun p mem => ?_⟩, fun skipped => ?_⟩
  · obtain ⟨-, tr, visited, now⟩ :=
      inv.counted.done_settled i (inv.counted.all_done finished i below)
    exact ⟨tr, made_visits _ visited, now⟩
  · rcases whole with rfl | finished
    · exact inv.counted.finished_of_settled settled
    · exact finished
  · exact (inv.published p mem).imp fun _ found => ⟨made_visits _ found.1, found.2⟩
  · exact (inv.halted skipped).imp fun _ found => ⟨made_visits _ found.1, found.2⟩

theorem merge_loop_takes_every_tally_once_sample :
    (2 : Nat) < 2 ^ 8 ∧
      (∀ v ∈ ([(1, ⟨4, 2, 0, .empty, .empty, none, []⟩),
          (0, ⟨5, 2, 0, .empty, .empty, some [⟨0, 1, 0, 1, 40⟩], []⟩),
          (1, ⟨5, 2, 0, .empty, .empty, some [⟨0, 0, 1, 0, 0⟩], []⟩)] : List (Nat × Tracker)), v.1 < 2) ∧
      pollLoop 2 5 MergeState.init [(1, ⟨4, 2, 0, .empty, .empty, none, []⟩),
          (0, ⟨5, 2, 0, .empty, .empty, some [⟨0, 1, 0, 1, 40⟩], []⟩),
          (1, ⟨5, 2, 0, .empty, .empty, some [⟨0, 0, 1, 0, 0⟩], []⟩)] =
        .ok ⟨[⟨0, 1, 40, 1, 1, 5⟩], Function.update (Function.update (fun _ => false) 0 true) 1 true,
          2, false⟩ ∧
      ((2 ≤ 2 ↔ ∀ i < 2, ∃ tr, (i, tr) ∈ ([(1, ⟨4, 2, 0, .empty, .empty, none, []⟩),
          (0, ⟨5, 2, 0, .empty, .empty, some [⟨0, 1, 0, 1, 40⟩], []⟩),
          (1, ⟨5, 2, 0, .empty, .empty, some [⟨0, 0, 1, 0, 0⟩], []⟩)] : List (Nat × Tracker)) ∧ Settled 5 tr) ∧
        (2 ≤ 2 → false = false → ∃ taken : List (Nat × TallyMap),
          (taken.map Prod.fst).Perm (List.range 2) ∧
          [⟨0, 1, 40, 1, 1, 5⟩] = mergeTrackers 5 (taken.map Prod.snd) ∧
          ∀ p ∈ taken, ∃ tr, (p.1, tr) ∈ ([(1, ⟨4, 2, 0, .empty, .empty, none, []⟩),
          (0, ⟨5, 2, 0, .empty, .empty, some [⟨0, 1, 0, 1, 40⟩], []⟩),
          (1, ⟨5, 2, 0, .empty, .empty, some [⟨0, 0, 1, 0, 0⟩], []⟩)] : List (Nat × Tracker)) ∧
            tr.lastresultts = 5 ∧ tr.lastresult = some p.2) ∧
        (false = true → ∃ v ∈ ([(1, ⟨4, 2, 0, .empty, .empty, none, []⟩),
          (0, ⟨5, 2, 0, .empty, .empty, some [⟨0, 1, 0, 1, 40⟩], []⟩),
          (1, ⟨5, 2, 0, .empty, .empty, some [⟨0, 0, 1, 0, 0⟩], []⟩)] : List (Nat × Tracker)),
          v.2.haltphase = 2 ∧ v.2.lastresultts < 5)) :=
  ⟨by decide, by decide, rfl, @merge_loop_takes_every_tally_once 2 5 (by decide) _ (by decide)
    ⟨[⟨0, 1, 40, 1, 1, 5⟩], Function.update (Function.update (fun _ => false) 0 true) 1 true, 2, false⟩
    rfl⟩

/-- If each tracker publishes for the interval the tally of the bodies the
processing threads route to it from the interval's packets, then however the
merge thread's visits fall, a run of the polling loop that exits without an
assertion and without a halted tracker holds, for every metric id, the
packet-level result: its packets, their bytes, and their distinct source and
destination addresses. -/
theorem merged_interval_matches_packets (trackerCount ts : Nat) (pos : 0 < trackerCount)
    (small : trackerCount < 2 ^ 8) (ps : List Packet) (sized : ∀ p ∈ ps, 0 < p.iplen.toNat)
    (fits : (ps.flatMap Packet.updates).length < 2 ^ 32) (visits : List (Nat × Tracker))
    (inRange : ∀ v ∈ visits, v.1 < trackerCount)
    (routed : ∀ v ∈ visits, v.2.lastresultts = ts → ∀ tally, v.2.lastresult = some tally →
      tally = trackerTally trackerCount v.1 ps)
    {m : MergeState} (accepted : pollLoop trackerCount ts MergeState.init visits = .ok m)
    (finished : trackerCount ≤ m.totaldone) (merged : m.skipresult = false) (metric : Nat) :
    m.results.find? (fun r => r.metricid = metric) = referenceResult ps ts metric := by
  obtain ⟨_, taken, pre, -, inv⟩ := pollLoop_polled small visits [] inRange init_polled accepted
  rw [List.nil_append] at inv
  have tallies : taken.map Prod.snd = (taken.map Prod.fst).map fun t => trackerTally trackerCount t ps := by
    rw [List.map_map]
    refine List.map_congr_left fun p mem => ?_
    obtain ⟨tr, visited, now, held⟩ := inv.published p mem
    exact routed (p.1, tr) (pre.subset visited) now p.2 held
  rw [inv.results, tallies]
  exact mergeTrackers_find?_reference trackerCount pos _ (inv.taken_perm finished merged) ps sized
    fits ts metric

theorem merged_interval_matches_packets_sample :
    0 < 2 ∧ (2 : Nat) < 2 ^ 8 ∧ (∀ p ∈ ([⟨5, 6, 40, none⟩, ⟨0x01000005, 5, 60, none⟩] : List Packet), 0 < p.iplen.toNat) ∧
      (([⟨5, 6, 40, none⟩, ⟨0x01000005, 5, 60, none⟩] : List Packet).flatMap Packet.updates).length < 2 ^ 32 ∧
      (∀ v ∈ ([(1, ⟨7, 1, 0, .empty, .empty, some (trackerTally 2 1 [⟨5, 6, 40, none⟩, ⟨0x01000005, 5, 60, none⟩]), []⟩),
          (0, ⟨7, 1, 0, .empty, .empty, some (trackerTally 2 0 [⟨5, 6, 40, none⟩, ⟨0x01000005, 5, 60, none⟩]), []⟩)] : List (Nat × Tracker)), v.1 < 2) ∧
      (∀ v ∈ ([(1, ⟨7, 1, 0, .empty, .empty, some (trackerTally 2 1 [⟨5, 6, 40, none⟩, ⟨0x01000005, 5, 60, none⟩]), []⟩),
          (0, ⟨7, 1, 0, .empty, .empty, some (trackerTally 2 0 [⟨5, 6, 40, none⟩, ⟨0x01000005, 5, 60, none⟩]), []⟩)] : List (Nat × Tracker)), v.2.lastresultts = 7 → ∀ tally,
        v.2.lastresult = some tally → tally = trackerTally 2 v.1 [⟨5, 6, 40, none⟩, ⟨0x01000005, 5, 60, none⟩]) ∧
      pollLoop 2 7 MergeState.init [(1, ⟨7, 1, 0, .empty, .empty, some (trackerTally 2 1 [⟨5, 6, 40, none⟩, ⟨0x01000005, 5, 60, none⟩]), []⟩),
          (0, ⟨7, 1, 0, .empty, .empty, some (trackerTally 2 0 [⟨5, 6, 40, none⟩, ⟨0x01000005, 5, 60, none⟩]), []⟩)] =
        .ok ⟨updateTrackerResults (updateTrackerResults [] (trackerTally 2 1 [⟨5, 6, 40, none⟩, ⟨0x01000005, 5, 60, none⟩]) 7)
          (trackerTally 2 0 [⟨5, 6, 40, none⟩, ⟨0x01000005, 5, 60, none⟩]) 7,
          Function.update (Function.update (fun _ => false) 1 true) 0 true, 2, false⟩ ∧
      2 ≤ 2 ∧ false = false ∧
      (updateTrackerResults (updateTrackerResults [] (trackerTally 2 1 [⟨5, 6, 40, none⟩, ⟨0x01000005, 5, 60, none⟩]) 7)
          (trackerTally 2 0 [⟨5, 6, 40, none⟩, ⟨0x01000005, 5, 60, none⟩]) 7).find? (fun r => r.metricid = 0) = referenceResult [⟨5, 6, 40, none⟩, ⟨0x01000005, 5, 60, none⟩] 7 0 := by
  have routed : ∀ v ∈ ([(1, ⟨7, 1, 0, .empty, .empty, some (trackerTally 2 1 [⟨5, 6, 40, none⟩, ⟨0x01000005, 5, 60, none⟩]), []⟩),
          (0, ⟨7, 1, 0, .empty, .empty, some (trackerTally 2 0 [⟨5, 6, 40, none⟩, ⟨0x01000005, 5, 60, none⟩]), []⟩)] : List (Nat × Tracker)), v.2.lastresultts = 7 → ∀ tally,
      v.2.lastresult = some tally → tally = trackerTally 2 v.1 [⟨5, 6, 40, none⟩, ⟨0x01000005, 5, 60, none⟩] := by
    intro v mem _ tally held
    simp only [List.mem_cons, List.mem_singleton, List.not_mem_nil, or_false] at mem
    rcases mem with rfl | rfl <;> exact (Option.some.inj held).symm
  exact ⟨by decide, by decide, by decide, by decide, by decide, routed, rfl, le_refl 2, rfl,
    merged_interval_matches_packets 2 7 (by decide) (by decide) _ (by decide) (by decide) _
      (by decide) routed rfl (le_refl 2) rfl 0⟩

end Corsaro.Report
