import Mathlib.Data.Finset.Card
import Mathlib.Data.List.GetD

/-! The outstanding-interval list of an IP tracker thread: one entry per
interval for which some processing threads, but not yet all, have sent an
interval end. `update_outstanding` records a report and says when an interval
is complete; `sender_in_outstanding` says whether a sender is ahead of the
interval the tracker is still counting. A C assertion that fails is `none`. -/
namespace Corsaro.Report

/-- `corsaro_report_out_interval_t`: a flag per sender id, and `reports_total` as a `uint8_t`. -/
structure OutInterval where
  intervalTs : Nat
  reportsRecvd : Nat → Bool
  reportsTotal : Nat

def senderInOutstanding (outl : List OutInterval) (sender : Nat) : Bool :=
  outl.any (fun o => o.reportsRecvd sender)

def OutInterval.record (o : OutInterval) (sender : Nat) : OutInterval :=
  if o.reportsRecvd sender then o
  else { o with reportsRecvd := Function.update o.reportsRecvd sender true
                reportsTotal := (o.reportsTotal + 1) % 2 ^ 8 }

/-- The scan loop of `update_outstanding`: record the report on the first entry for `ts`, `none` if
there is none. -/
def recordReport (ts limit sender : Nat) : List OutInterval → Option (List OutInterval × Bool)
  | [] => none
  | o :: rest =>
    if o.intervalTs = ts then some (o.record sender :: rest, (o.record sender).reportsTotal = limit)
    else (recordReport ts limit sender rest).map (fun r => (o :: r.1, r.2))

/-- The pop loop of `update_outstanding`: drop the entries up to and including the first one for
`ts`. -/
def popThrough (ts : Nat) : List OutInterval → List OutInterval
  | [] => []
  | o :: rest => if o.intervalTs = ts then rest else popThrough ts rest

def OutInterval.first (ts sender : Nat) : OutInterval := ⟨ts, fun s => s = sender, 1⟩

def pushInterval (outl : List OutInterval) (ts sender : Nat) : Option (List OutInterval) :=
  if outl.getLast?.all (fun o => o.intervalTs < ts) then some (outl ++ [OutInterval.first ts sender])
  else none

/-- `update_outstanding`: the new list and the timestamp of the interval the report completed, 0 if
none. -/
def updateOutstanding (outl : List OutInterval) (ts limit sender : Nat) :
    Option (List OutInterval × Nat) :=
  match recordReport ts limit sender outl with
  | some (outl, false) => some (outl, 0)
  | some (outl, true) =>
    if 0 < ts then some (popThrough ts outl, ts)
    else (pushInterval outl ts sender).map (fun l => (l, 0))
  | none => (pushInterval outl ts sender).map (fun l => (l, 0))

/-! ### What the list stands for

The tracker has processed `cnt s` interval ends of sender `s`. All senders end
the same intervals `ts`, so the `k`-th interval end of every sender carries
`ts.getD k 0`. -/

def bump (cnt : Nat → Nat) (s : Nat) : Nat → Nat := Function.update cnt s (cnt s + 1)

/-- The number of senders among `0 .. N-1` that have ended the `k`-th interval. -/
def reporters (cnt : Nat → Nat) (N k : Nat) : Nat :=
  ((Finset.range N).filter (fun s => k < cnt s)).card

def expectedEntry (ts : List Nat) (cnt : Nat → Nat) (N k : Nat) : OutInterval :=
  ⟨ts.getD k 0, fun s => decide (s < N ∧ k < cnt s), reporters cnt N k⟩

/-- `lo` is the first interval some sender has not ended and `hi` the first interval no sender has
ended. -/
structure Window (cnt : Nat → Nat) (N lo hi : Nat) : Prop where
  low : ∀ k, (∀ s < N, k < cnt s) ↔ k < lo
  high : ∀ k, (∃ s < N, k < cnt s) ↔ k < hi

/-- The list holds exactly the intervals `lo .. hi-1` some sender but not every sender has ended, in
order. -/
def Tracks (ts : List Nat) (cnt : Nat → Nat) (N : Nat) (outl : List OutInterval) : Prop :=
  ∃ lo hi, Window cnt N lo hi ∧ outl = (List.range' lo (hi - lo)).map (expectedEntry ts cnt N)

def lowest (cnt : Nat → Nat) : Nat → Nat
  | 0 => 0
  | 1 => cnt 0
  | n + 2 => min (lowest cnt (n + 1)) (cnt (n + 1))

def highest (cnt : Nat → Nat) : Nat → Nat
  | 0 => 0
  | n + 1 => max (highest cnt n) (cnt n)

theorem lt_lowest_iff (cnt : Nat → Nat) {N : Nat} (pos : 0 < N) (k : Nat) :
    (∀ s < N, k < cnt s) ↔ k < lowest cnt N := by
  induction N using lowest.induct cnt with
  | case1 => omega
  | case2 => simp [lowest, Nat.lt_one_iff]
  | case3 n ih =>
    simp only [lowest, Nat.lt_min, ← ih (by omega), Nat.lt_succ_iff_lt_or_eq, or_imp, forall_and,
      forall_eq]

theorem lt_highest_iff (cnt : Nat → Nat) (N k : Nat) :
    (∃ s < N, k < cnt s) ↔ k < highest cnt N := by
  induction N with
  | zero => simp [highest]
  | succ n ih => simp only [highest, lt_max_iff, ← ih, Nat.lt_succ_iff_lt_or_eq, or_and_right,
      exists_or, exists_eq_left]

theorem window_lowest (cnt : Nat → Nat) {N : Nat} (pos : 0 < N) :
    Window cnt N (lowest cnt N) (highest cnt N) :=
  ⟨lt_lowest_iff cnt pos, lt_highest_iff cnt N⟩

theorem Window.eq_lowest {cnt : Nat → Nat} {N lo hi : Nat} (w : Window cnt N lo hi) (pos : 0 < N) :
    lo = lowest cnt N ∧ hi = highest cnt N := by
  have w' := window_lowest cnt pos
  exact ⟨eq_of_forall_lt_iff fun k => (w.low k).symm.trans (w'.low k),
    eq_of_forall_lt_iff fun k => (w.high k).symm.trans (w'.high k)⟩

theorem tracks_start (ts : List Nat) {N : Nat} (pos : 0 < N) : Tracks ts (fun _ => 0) N [] :=
  ⟨0, 0, ⟨fun k => ⟨fun all => absurd (all 0 pos) (Nat.not_lt_zero k),
    fun h => absurd h (Nat.not_lt_zero k)⟩, fun k => by simp⟩, rfl⟩

section Counts

variable {cnt : Nat → Nat} {N s k : Nat}

@[simp] theorem bump_self (cnt : Nat → Nat) (s : Nat) : bump cnt s s = cnt s + 1 := by
  simp [bump]

@[simp] theorem bump_of_ne (cnt : Nat → Nat) {s s' : Nat} (other : s' ≠ s) :
    bump cnt s s' = cnt s' := by
  simp [bump, other]

theorem reporters_eq_iff : reporters cnt N k = N ↔ ∀ s < N, k < cnt s := by
  have h := (Finset.card_filter_eq_iff :
    ((Finset.range N).filter (fun s => k < cnt s)).card = (Finset.range N).card ↔ _)
  simpa [reporters] using h

theorem reporters_pos_iff : 0 < reporters cnt N k ↔ ∃ s < N, k < cnt s := by
  simp [reporters, Finset.card_pos, Finset.filter_nonempty_iff]

theorem reporters_le : reporters cnt N k ≤ N := by
  simpa using Finset.card_filter_le (Finset.range N) (fun s => k < cnt s)

theorem reporters_bump (sender : s < N) (k : Nat) :
    reporters (bump cnt s) N k = reporters cnt N k + if k = cnt s then 1 else 0 := by
  unfold reporters
  by_cases hk : k = cnt s
  · have grown : (Finset.range N).filter (fun s' => k < bump cnt s s') =
        insert s ((Finset.range N).filter (fun s' => k < cnt s')) := by
      ext s'
      by_cases same : s' = s
      · subst same; simp [hk, sender]
      · simp [same]
    rw [grown, Finset.card_insert_of_not_mem (by simp [hk]), if_pos hk]
  · have kept : (Finset.range N).filter (fun s' => k < bump cnt s s') =
        (Finset.range N).filter (fun s' => k < cnt s') := by
      refine Finset.filter_congr fun s' _ => ?_
      by_cases same : s' = s
      · subst same; simp only [bump_self]; omega
      · simp [same]
    rw [kept, if_neg hk, add_zero]

theorem forall_bump_iff (sender : s < N) :
    (∀ s' < N, k < bump cnt s s') ↔ (∀ s' < N, s' ≠ s → k < cnt s') ∧ k ≤ cnt s := by
  constructor
  · intro all
    exact ⟨fun s' h other => by simpa [other] using all s' h,
      Nat.lt_succ_iff.mp (by simpa using all s sender)⟩
  · rintro ⟨others, self⟩ s' h
    by_cases same : s' = s
    · subst same; simp only [bump_self]; omega
    · simpa [same] using others s' h same

theorem exists_bump_iff (sender : s < N) :
    (∃ s' < N, k < bump cnt s s') ↔ (∃ s' < N, k < cnt s') ∨ k = cnt s := by
  constructor
  · rintro ⟨s', h, past⟩
    by_cases same : s' = s
    · subst same
      simp only [bump_self] at past
      by_cases eq : k = cnt s'
      · exact .inr eq
      · exact .inl ⟨s', h, by omega⟩
    · exact .inl ⟨s', h, by simpa [same] using past⟩
  · rintro (⟨s', h, past⟩ | rfl)
    · by_cases same : s' = s
      · subst same; exact ⟨s', h, by simp only [bump_self]; omega⟩
      · exact ⟨s', h, by simpa [same] using past⟩
    · exact ⟨s, sender, by simp⟩

end Counts

section Entries

variable {ts : List Nat} {cnt : Nat → Nat} {N s : Nat}

theorem getD_lt_of_pairwise (sorted : ts.Pairwise (· < ·)) {i j : Nat} (lt : i < j)
    (hj : j < ts.length) : ts.getD i 0 < ts.getD j 0 := by
  rw [List.getD_eq_getElem _ _ (by omega), List.getD_eq_getElem _ _ hj]
  exact List.pairwise_iff_getElem.mp sorted i j (by omega) hj lt

theorem getD_inj_of_pairwise (sorted : ts.Pairwise (· < ·)) {i j : Nat} (hi : i < ts.length)
    (hj : j < ts.length) : ts.getD i 0 = ts.getD j 0 ↔ i = j := by
  refine ⟨fun same => ?_, fun h => h ▸ rfl⟩
  rcases Nat.lt_trichotomy i j with lt | eq | gt
  · exact absurd same (getD_lt_of_pairwise sorted lt hj).ne
  · exact eq
  · exact absurd same (getD_lt_of_pairwise sorted gt hi).ne'

theorem getD_mem_of_lt {c : Nat} (room : c < ts.length) : ts.getD c 0 ∈ ts := by
  rw [List.getD_eq_getElem _ _ room]; exact List.getElem_mem room

theorem expectedEntry_bump_of_ne (sender : s < N) {k : Nat} (other : k ≠ cnt s) :
    expectedEntry ts (bump cnt s) N k = expectedEntry ts cnt N k := by
  simp only [expectedEntry, reporters_bump sender, if_neg other, add_zero, OutInterval.mk.injEq,
    true_and, and_true]
  funext s'
  by_cases same : s' = s
  · subst same; simp only [bump_self]; congr 1; apply propext; omega
  · simp [same]

theorem record_expectedEntry (sender : s < N) (room : reporters cnt N (cnt s) + 1 < 2 ^ 8) :
    (expectedEntry ts cnt N (cnt s)).record s = expectedEntry ts (bump cnt s) N (cnt s) := by
  have fresh : ¬(expectedEntry ts cnt N (cnt s)).reportsRecvd s = true := by simp [expectedEntry]
  rw [OutInterval.record, if_neg fresh]
  simp only [expectedEntry, reporters_bump sender, if_pos rfl, Nat.mod_eq_of_lt room,
    OutInterval.mk.injEq, true_and, and_true, if_true]
  funext s'
  by_cases same : s' = s
  · subst same; simp [sender]
  · simp [same]

theorem recordReport_map (e e' : Nat → OutInterval) (t N s c : Nat) (l : List Nat)
    (nodup : l.Nodup) (stamp : ∀ k ∈ l, (e k).intervalTs = t ↔ k = c)
    (same : ∀ k ∈ l, k ≠ c → e' k = e k) (hit : (e c).record s = e' c) :
    recordReport t N s (l.map e) =
      if c ∈ l then some (l.map e', decide ((e' c).reportsTotal = N)) else none := by
  induction l with
  | nil => simp [recordReport]
  | cons k l ih =>
    obtain ⟨notin, nodup⟩ := List.nodup_cons.mp nodup
    by_cases at_c : k = c
    · subst at_c
      have rest : l.map e' = l.map e := List.map_congr_left fun k' mem =>
        same k' (List.mem_cons_of_mem _ mem) (fun h => notin (h ▸ mem))
      simp [recordReport, (stamp k (List.mem_cons_self _ _)).mpr rfl, hit, rest]
    · have miss : ¬(e k).intervalTs = t := fun h => at_c ((stamp k (List.mem_cons_self _ _)).mp h)
      rw [List.map_cons, recordReport, if_neg miss,
        ih nodup (fun k' mem => stamp k' (List.mem_cons_of_mem _ mem))
          (fun k' mem => same k' (List.mem_cons_of_mem _ mem))]
      by_cases mem : c ∈ l
      · simp [mem, same k (List.mem_cons_self _ _) at_c]
      · simp [mem, Ne.symm at_c]

end Entries

/-! ### One interval end -/

section Step

variable {ts : List Nat} {cnt : Nat → Nat} {N s lo hi : Nat}

theorem lowest_le (sender : s < N) : lowest cnt N ≤ cnt s :=
  Nat.le_of_not_lt fun lt =>
    Nat.lt_irrefl _ ((lt_lowest_iff cnt (Nat.lt_of_le_of_lt (Nat.zero_le _) sender) _).mpr lt s sender)

theorem cnt_le_highest (sender : s < N) : cnt s ≤ highest cnt N :=
  Nat.le_of_not_lt fun lt => Nat.lt_irrefl _ ((lt_highest_iff cnt N _).mp ⟨s, sender, lt⟩)

theorem exists_behind_iff (sender : s < N) : (∃ b < N, cnt b < cnt s) ↔ lowest cnt N < cnt s := by
  have pos : 0 < N := Nat.lt_of_le_of_lt (Nat.zero_le _) sender
  constructor
  · rintro ⟨b, hb, behind⟩; exact Nat.lt_of_le_of_lt (lowest_le hb) behind
  · intro ahead
    by_contra none_behind
    push_neg at none_behind
    have all : ∀ b < N, cnt s - 1 < cnt b := fun b hb => by have := none_behind b hb; omega
    have := (lt_lowest_iff cnt pos _).mp all
    omega

theorem Window.le_cnt (w : Window cnt N lo hi) (sender : s < N) : lo ≤ cnt s :=
  Nat.le_of_not_lt fun lt => Nat.lt_irrefl _ ((w.low (cnt s)).mpr lt s sender)

theorem Window.cnt_le (w : Window cnt N lo hi) (sender : s < N) : cnt s ≤ hi :=
  Nat.le_of_not_lt fun lt => Nat.lt_irrefl _ ((w.high hi).mp ⟨s, sender, lt⟩)

theorem Window.hi_le (w : Window cnt N lo hi) {len : Nat} (bounded : ∀ s < N, cnt s ≤ len) :
    hi ≤ len :=
  Nat.le_of_not_lt fun lt => by
    obtain ⟨s, sender, past⟩ := (w.high len).mpr lt
    exact absurd (bounded s sender) (by omega)

theorem exists_other_sender (two : 2 ≤ N) (s : Nat) : ∃ o < N, o ≠ s := by
  by_cases zero : s = 0
  · exact ⟨1, by omega, by omega⟩
  · exact ⟨0, by omega, Ne.symm zero⟩

theorem Window.push (w : Window cnt N lo hi) (two : 2 ≤ N) (sender : s < N) (top : cnt s = hi) :
    Window (bump cnt s) N lo (hi + 1) := by
  obtain ⟨o, other, ne⟩ := exists_other_sender two s
  refine ⟨fun k => ?_, fun k => ?_⟩
  · rw [forall_bump_iff sender, ← w.low k]
    constructor
    · rintro ⟨others, self⟩ s' h
      have below := w.cnt_le other
      by_cases same : s' = s
      · subst same; have := others o other ne; omega
      · exact others s' h same
    · exact fun all => ⟨fun s' h _ => all s' h, Nat.le_of_lt (all s sender)⟩
  · rw [exists_bump_iff sender, w.high k]
    omega

theorem Window.high_bump (w : Window cnt N lo hi) (sender : s < N) (below : cnt s < hi) (k : Nat) :
    (∃ s' < N, k < bump cnt s s') ↔ k < hi := by
  rw [exists_bump_iff sender, w.high k]
  omega

theorem Window.complete (w : Window cnt N lo hi) (sender : s < N) (below : cnt s < hi)
    (others : ∀ s' < N, s' ≠ s → cnt s < cnt s') :
    cnt s = lo ∧ Window (bump cnt s) N (lo + 1) hi := by
  have at_lo : cnt s = lo := by
    refine Nat.le_antisymm (Nat.le_of_not_lt fun lt => ?_) (w.le_cnt sender)
    have all : ∀ s' < N, lo < cnt s' := fun s' h => by
      by_cases same : s' = s
      · subst same; exact lt
      · have := others s' h same; omega
    exact Nat.lt_irrefl _ ((w.low lo).mp all)
  refine ⟨at_lo, fun k => ?_, w.high_bump sender below⟩
  rw [forall_bump_iff sender]
  constructor
  · rintro ⟨-, self⟩; omega
  · intro lt
    exact ⟨fun s' h ne => by have := others s' h ne; omega, by omega⟩

theorem Window.partial (w : Window cnt N lo hi) (sender : s < N) (below : cnt s < hi)
    (behind : ∃ b < N, b ≠ s ∧ cnt b ≤ cnt s) : Window (bump cnt s) N lo hi := by
  obtain ⟨b, hb, ne, le⟩ := behind
  refine ⟨fun k => ?_, w.high_bump sender below⟩
  rw [forall_bump_iff sender, ← w.low k]
  constructor
  · rintro ⟨others, -⟩ s' h
    by_cases same : s' = s
    · subst same; have := others b hb ne; omega
    · exact others s' h same
  · exact fun all => ⟨fun s' h _ => all s' h, Nat.le_of_lt (all s sender)⟩

theorem Window.reporters_top (w : Window cnt N lo hi) (top : cnt s = hi) :
    reporters cnt N (cnt s) = 0 :=
  Nat.eq_zero_of_not_pos fun pos => by
    obtain ⟨s', h, past⟩ := reporters_pos_iff.mp pos
    exact Nat.lt_irrefl _ ((w.high hi).mp ⟨s', h, top ▸ past⟩)

theorem exists_behind_of_not_done (sender : s < N)
    (open_ : reporters (bump cnt s) N (cnt s) ≠ N) : ∃ b < N, b ≠ s ∧ cnt b ≤ cnt s := by
  by_contra none_behind
  push_neg at none_behind
  exact open_ (reporters_eq_iff.mpr ((forall_bump_iff sender).mpr
    ⟨fun s' h ne => none_behind s' h ne, le_refl _⟩))

theorem lowest_bump (sender : s < N) :
    lowest (bump cnt s) N =
      if reporters (bump cnt s) N (cnt s) = N then cnt s + 1 else lowest cnt N := by
  have pos : 0 < N := Nat.lt_of_le_of_lt (Nat.zero_le _) sender
  refine eq_of_forall_lt_iff fun k => ?_
  rw [← lt_lowest_iff _ pos, forall_bump_iff sender]
  split_ifs with done
  · obtain ⟨others, -⟩ := (forall_bump_iff sender).mp (reporters_eq_iff.mp done)
    constructor
    · rintro ⟨-, le⟩; omega
    · intro lt; exact ⟨fun s' h ne => by have := others s' h ne; omega, by omega⟩
  · rw [← lt_lowest_iff _ pos]
    obtain ⟨b, hb, ne, behind⟩ := exists_behind_of_not_done sender done
    constructor
    · rintro ⟨others, -⟩ s' h
      by_cases same : s' = s
      · subst same; have := others b hb ne; omega
      · exact others s' h same
    · exact fun all => ⟨fun s' h _ => all s' h, Nat.le_of_lt (all s sender)⟩

theorem lowest_of_done (sender : s < N) (done : reporters (bump cnt s) N (cnt s) = N) :
    lowest cnt N = cnt s := by
  have pos : 0 < N := Nat.lt_of_le_of_lt (Nat.zero_le _) sender
  obtain ⟨others, -⟩ := (forall_bump_iff sender).mp (reporters_eq_iff.mp done)
  refine Nat.le_antisymm (Nat.le_of_not_lt fun lt =>
    Nat.lt_irrefl _ ((lt_lowest_iff cnt pos _).mpr lt s sender)) (Nat.le_of_not_lt fun lt => ?_)
  have all : ∀ s' < N, lowest cnt N < cnt s' := fun s' h => by
    by_cases same : s' = s
    · subst same; exact lt
    · have := others s' h same; omega
  exact Nat.lt_irrefl _ ((lt_lowest_iff cnt pos _).mp all)

theorem expectedEntry_bump_top (sender : s < N) (w : Window cnt N lo hi) (top : cnt s = hi) :
    expectedEntry ts (bump cnt s) N (cnt s) = OutInterval.first (ts.getD (cnt s) 0) s := by
  simp only [expectedEntry, OutInterval.first, reporters_bump sender, w.reporters_top top,
    if_pos rfl, if_true, zero_add, OutInterval.mk.injEq, true_and, and_true]
  funext s'
  by_cases same : s' = s
  · subst same; simp [sender]
  · by_cases h : s' < N
    · have ahead : ¬cnt s < cnt s' := fun past => Nat.lt_irrefl _ ((w.high hi).mp ⟨s', h, top ▸ past⟩)
      simp [same, h, ahead]
    · simp [same, h]

theorem pushInterval_of_lt {outl : List OutInterval} {t : Nat}
    (older : ∀ o ∈ outl, o.intervalTs < t) (sender : Nat) :
    pushInterval outl t sender = some (outl ++ [OutInterval.first t sender]) := by
  cases last : outl.getLast? with
  | none => simp [pushInterval, last]
  | some o => simp [pushInterval, last, older o (List.mem_of_getLast?_eq_some last)]

theorem updateOutstanding_step {outl : List OutInterval} (inv : Tracks ts cnt N outl)
    (sorted : ts.Pairwise (· < ·)) (positive : ∀ t ∈ ts, 0 < t) (two : 2 ≤ N)
    (small : N < 2 ^ 8) (sender : s < N) (bounded : ∀ s' < N, cnt s' ≤ ts.length)
    (room : cnt s < ts.length) :
    ∃ outl', updateOutstanding outl (ts.getD (cnt s) 0) N s =
      some (outl', if reporters (bump cnt s) N (cnt s) = N then ts.getD (cnt s) 0 else 0) ∧
      Tracks ts (bump cnt s) N outl' := by
  obtain ⟨lo, hi, w, rfl⟩ := inv
  have hi_le := w.hi_le bounded
  have lo_le := w.le_cnt sender
  have unreported : reporters cnt N (cnt s) < N :=
    Nat.lt_of_le_of_ne reporters_le fun all => Nat.lt_irrefl _ (reporters_eq_iff.mp all s sender)
  have scan := recordReport_map (expectedEntry ts cnt N) (expectedEntry ts (bump cnt s) N)
    (ts.getD (cnt s) 0) N s (cnt s) (List.range' lo (hi - lo)) (List.nodup_range' _ _)
    (fun k mem => getD_inj_of_pairwise sorted (by simp at mem; omega) room)
    (fun k _ ne => expectedEntry_bump_of_ne sender ne)
    (record_expectedEntry sender (by omega))
  rw [show (expectedEntry ts (bump cnt s) N (cnt s)).reportsTotal =
    reporters (bump cnt s) N (cnt s) from rfl] at scan
  rcases Nat.lt_or_eq_of_le (w.cnt_le sender) with below | top
  · rw [if_pos (List.mem_range'_1.mpr ⟨lo_le, by omega⟩)] at scan
    by_cases done : reporters (bump cnt s) N (cnt s) = N
    · obtain ⟨at_lo, w'⟩ := w.complete sender below fun s' h ne => by
        simpa [ne] using reporters_eq_iff.mp done s' h
      have split : List.range' lo (hi - lo) = lo :: List.range' (lo + 1) (hi - (lo + 1)) := by
        rw [show hi - lo = hi - (lo + 1) + 1 by omega, List.range'_succ]
      have stamp := getD_mem_of_lt room
      refine ⟨(List.range' (lo + 1) (hi - (lo + 1))).map (expectedEntry ts (bump cnt s) N),
        ?_, lo + 1, hi, w', rfl⟩
      simp only [updateOutstanding, scan, done, decide_True, if_pos (positive _ stamp), if_true]
      rw [split, List.map_cons]
      simp [popThrough, expectedEntry, at_lo]
    · refine ⟨(List.range' lo (hi - lo)).map (expectedEntry ts (bump cnt s) N), ?_, lo, hi,
        w.partial sender below (exists_behind_of_not_done sender done), rfl⟩
      rw [updateOutstanding, scan]
      simp [done]
  · rw [if_neg (by simp; omega)] at scan
    have older : ∀ o ∈ (List.range' lo (hi - lo)).map (expectedEntry ts cnt N),
        o.intervalTs < ts.getD (cnt s) 0 := by
      simp only [List.mem_map, List.mem_range'_1]
      rintro o ⟨k, ⟨-, lt⟩, rfl⟩
      exact getD_lt_of_pairwise sorted (by omega) room
    have opened : reporters (bump cnt s) N (cnt s) ≠ N := by
      rw [reporters_bump sender, if_pos rfl, w.reporters_top top]
      omega
    refine ⟨(List.range' lo (hi - lo)).map (expectedEntry ts cnt N) ++
      [OutInterval.first (ts.getD (cnt s) 0) s], ?_, lo, hi + 1, w.push two sender top, ?_⟩
    · rw [updateOutstanding, scan]
      simp only [pushInterval_of_lt older]
      simp [opened]
    · rw [show hi + 1 - lo = hi - lo + 1 by omega, List.range'_concat, List.map_append,
        show lo + 1 * (hi - lo) = cnt s by omega, List.map_singleton,
        expectedEntry_bump_top sender w top]
      congr 1
      exact List.map_congr_left fun k mem =>
        (expectedEntry_bump_of_ne sender (by simp at mem; omega)).symm

theorem senderInOutstanding_iff {outl : List OutInterval} (inv : Tracks ts cnt N outl)
    (sender : s < N) : senderInOutstanding outl s = true ↔ ∃ b < N, cnt b < cnt s := by
  obtain ⟨lo, hi, w, rfl⟩ := inv
  simp only [senderInOutstanding, List.any_eq_true, List.mem_map, List.mem_range'_1,
    exists_exists_and_eq_and, expectedEntry, sender, true_and, decide_eq_true_eq]
  constructor
  · rintro ⟨k, ⟨lo_le, -⟩, past⟩
    by_contra none_behind
    push_neg at none_behind
    exact Nat.lt_irrefl lo ((w.low lo).mp fun b hb => by have := none_behind b hb; omega)
  · rintro ⟨b, hb, behind⟩
    have := w.le_cnt hb
    have := w.cnt_le sender
    exact ⟨lo, ⟨le_refl _, by omega⟩, by omega⟩

theorem outstanding_eq_nil_iff {outl : List OutInterval} (inv : Tracks ts cnt N outl)
    (pos : 0 < N) : outl = [] ↔ lowest cnt N = highest cnt N := by
  obtain ⟨lo, hi, w, rfl⟩ := inv
  obtain ⟨rfl, rfl⟩ := w.eq_lowest pos
  have := w.le_cnt pos
  have := w.cnt_le pos
  simp only [List.map_eq_nil_iff, List.range'_eq_nil]
  omega

end Step

end Corsaro.Report
