import Mathlib.Algebra.Order.Ring.Nat
import Mathlib.Data.List.Basic

/-! `perform_distinct_merge`, the merge `corsaro_merge_plugin_outputs` runs for a
plugin of the distinct merge style: each interim file's results are complete,
so the merge writes them out one at a time, always the one that
`compare_results` puts first among the results the readers have at hand. Each
pass of the `do` loop visits every reader, reads a fresh result where its slot
in `results` is blank, closes the reader at its EOF or at a failed read, and
keeps as candidate the first result that no later one comes strictly before.
What a reader delivers is its stream: the DATA results it reads, then an EOF or
a failed read. Above the code, a stable k-way merge is stated over the lists of
results each reader has still to give, and the loop is shown to take its steps. -/
namespace Corsaro.Merge

variable {α : Type}

/-- `CORSARO_RESULT_TYPE_EOF` or `CORSARO_RESULT_TYPE_DATA`, as `corsaro_read_next_merge_result`
fills it in. -/
inductive ReadResult (α : Type)
  | eof
  | data (x : α)
  deriving DecidableEq, Repr

inductive ReadEnd
  | eof
  | fail
  deriving DecidableEq, Repr

structure ReadStream (α : Type) where
  results : List α
  ending : ReadEnd
  deriving DecidableEq, Repr

def ReadStream.read : ReadStream α → Option (ReadResult α × ReadStream α)
  | ⟨x :: rest, ending⟩ => some (.data x, ⟨rest, ending⟩)
  | ⟨[], .eof⟩ => some (.eof, ⟨[], .eof⟩)
  | ⟨[], .fail⟩ => none

structure MergeSource (α : Type) where
  reader : Option (ReadStream α)
  result : Option (ReadResult α)
  deriving DecidableEq, Repr

def pick (compare : α → α → Int) (cand : Option (Nat × α)) (i : Nat) (x : α) : Option (Nat × α) :=
  match cand with
  | none => some (i, x)
  | some (j, c) => if compare c x > 0 then some (i, x) else some (j, c)

/-- The body of the `for` loop on reader `i`: a blank slot is read first, and an EOF or a failed
read closes the reader. -/
def scanSource (compare : α → α → Int) (i : Nat) (cand : Option (Nat × α)) :
    MergeSource α → MergeSource α × Option (Nat × α)
  | ⟨none, result⟩ => (⟨none, result⟩, cand)
  | ⟨some r, result⟩ =>
    let fresh := match result with
      | none => r.read
      | some res => some (res, r)
    match fresh with
    | none => (⟨none, some .eof⟩, cand)
    | some (.eof, _) => (⟨none, some .eof⟩, cand)
    | some (.data x, r) => (⟨some r, some (.data x)⟩, pick compare cand i x)

def scanSources (compare : α → α → Int) :
    Nat → Option (Nat × α) → List (MergeSource α) → List (MergeSource α) × Option (Nat × α)
  | _, cand, [] => ([], cand)
  | i, cand, s :: rest =>
    let visited := scanSource compare i cand s
    let scanned := scanSources compare (i + 1) visited.2 rest
    (visited.1 :: scanned.1, scanned.2)

/-- The `do` loop, for at most `fuel` passes: the value returned and the results written, each with
its reader's index. -/
def distinctMergeLoop (compare : α → α → Int) (write : List α → α → Bool) :
    Nat → List (MergeSource α) → List (Nat × α) → Option (Int × List (Nat × α))
  | 0, _, _ => none
  | fuel + 1, sources, written =>
    match scanSources compare 0 none sources with
    | (_, none) => some (0, written)
    | (sources, some (i, x)) =>
      if write (written.map (·.2)) x then
        distinctMergeLoop compare write fuel (sources.modify (fun s => { s with result := none }) i)
          (written ++ [(i, x)])
      else some (-1, written)

def delivered (readers : List (Option (ReadStream α))) : List (List α) :=
  readers.map fun r => (r.map ReadStream.results).getD []

def pendingTotal (pending : List (List α)) : Nat := (pending.map List.length).sum

/-- `perform_distinct_merge` on `tcount` readers with blank slots, run for one pass more than there
are results. -/
def performDistinctMerge (compare : α → α → Int) (write : List α → α → Bool)
    (readers : List (Option (ReadStream α))) : Option (Int × List (Nat × α)) :=
  distinctMergeLoop compare write (pendingTotal (delivered readers) + 1)
    (readers.map fun r => ⟨r, none⟩) []

/-! ### A stable k-way merge -/

/-- `a` may be written before `b`: `compare_results` does not put it after `b`, and on a tie its
reader comes first. -/
def Precedes (compare : α → α → Int) (a b : Nat × α) : Prop :=
  compare a.2 b.2 ≤ 0 ∧ (compare b.2 a.2 ≤ 0 → a.1 ≤ b.1)

/-- What the merge asks of `compare_results`: `compare a b ≤ 0` is a total preorder. -/
structure ComparePreorder (compare : α → α → Int) : Prop where
  total : ∀ a b, compare a b ≤ 0 ∨ compare b a ≤ 0
  trans : ∀ {a b c}, compare a b ≤ 0 → compare b c ≤ 0 → compare a c ≤ 0

theorem ComparePreorder.refl {compare : α → α → Int} (order : ComparePreorder compare) (a : α) :
    compare a a ≤ 0 :=
  (order.total a a).elim id id

theorem ComparePreorder.precedes_of_le {compare : α → α → Int} (order : ComparePreorder compare)
    {a : Nat × α} {j : Nat} {y z : α} (first : Precedes compare a (j, y)) (le : compare y z ≤ 0) :
    Precedes compare a (j, z) :=
  ⟨order.trans first.1 le, fun after => first.2 (order.trans le after)⟩

def takenFrom (written : List (Nat × α)) (i : Nat) : List α :=
  (written.filter (·.1 = i)).map (·.2)

theorem takenFrom_snoc (written : List (Nat × α)) (i : Nat) (x : α) (j : Nat) :
    takenFrom (written ++ [(i, x)]) j = if j = i then takenFrom written j ++ [x] else takenFrom written j := by
  by_cases same : j = i
  · subst same
    simp [takenFrom]
  · simp [takenFrom, Ne.symm same, same]

/-- Every result of `written` was written by a call of `write` that succeeded, given the results
written before it. -/
def WritesAccepted (write : List α → α → Bool) (written : List (Nat × α)) : Prop :=
  ∀ pre a post, written = pre ++ a :: post → write (pre.map (·.2)) a.2 = true

theorem WritesAccepted.nil (write : List α → α → Bool) : WritesAccepted write [] :=
  fun _ _ _ split => absurd split.symm (by simp)

theorem WritesAccepted.snoc {write : List α → α → Bool} {written : List (Nat × α)}
    (accepted : WritesAccepted write written) {i : Nat} {x : α}
    (ok : write (written.map (·.2)) x = true) : WritesAccepted write (written ++ [(i, x)]) := by
  intro pre a post split
  rcases List.eq_nil_or_concat post with rfl | ⟨post, b, rfl⟩
  · obtain ⟨rfl, last⟩ := List.append_inj' split rfl
    cases List.singleton_inj.mp last
    exact ok
  · rw [List.concat_eq_append, ← List.cons_append, ← List.append_assoc] at split
    exact accepted pre a post (List.append_inj' split rfl).1

/-- The result a stable k-way merge writes next: the first of list `i`, which precedes every pending
result. -/
def NextResult (compare : α → α → Int) (pending : List (List α)) (i : Nat) (x : α) : Prop :=
  (∃ rest, pending.getD i [] = x :: rest) ∧ ∀ j, ∀ y ∈ pending.getD j [], Precedes compare (i, x) (j, y)

/-- What a merge keeps whatever the order: each reader's results are those written from it, then
those left. -/
structure MergeBase (given pending : List (List α)) (written : List (Nat × α)) : Prop where
  conserved : ∀ i, takenFrom written i ++ pending.getD i [] = given.getD i []
  perm : (written.map (·.2) ++ pending.flatten).Perm given.flatten

/-- A stable k-way merge: what is left of each list is sorted, and what was written is sorted and
precedes it. -/
structure MergeInv (compare : α → α → Int) (given pending : List (List α))
    (written : List (Nat × α)) extends MergeBase given pending written : Prop where
  sortedPending : ∀ i, (pending.getD i []).Pairwise (compare · · ≤ 0)
  sortedWritten : written.Pairwise (Precedes compare)
  frontier : ∀ a ∈ written, ∀ i, ∀ y ∈ pending.getD i [], Precedes compare a (i, y)

section SetPending

variable {pending : List (List α)} {i : Nat} {x : α} {rest : List α}

theorem getD_set_of_cons (hd : pending.getD i [] = x :: rest) (j : Nat) :
    (pending.set i rest).getD j [] = if j = i then rest else pending.getD j [] := by
  induction pending generalizing i j with
  | nil => cases hd
  | cons p pending ih =>
    cases i <;> cases j
    case zero.zero => rfl
    case zero.succ j => simp
    case succ.zero i => simp
    case succ.succ i j => simpa using ih hd j

theorem mem_of_mem_set (hd : pending.getD i [] = x :: rest) {j : Nat} {y : α}
    (mem : y ∈ (pending.set i rest).getD j []) : y ∈ pending.getD j [] := by
  rw [getD_set_of_cons hd] at mem
  split_ifs at mem with same
  · rw [same, hd]
    exact List.mem_cons_of_mem x mem
  · exact mem

theorem perm_flatten_set (hd : pending.getD i [] = x :: rest) :
    (x :: (pending.set i rest).flatten).Perm pending.flatten := by
  induction pending generalizing i with
  | nil => cases hd
  | cons p pending ih =>
    cases i with
    | zero =>
      cases (hd : p = x :: rest)
      rfl
    | succ i =>
      simp only [List.set_cons_succ, List.flatten_cons]
      exact List.perm_middle.symm.trans ((ih hd).append_left p)

theorem pendingTotal_set (hd : pending.getD i [] = x :: rest) :
    pendingTotal (pending.set i rest) + 1 = pendingTotal pending := by
  induction pending generalizing i with
  | nil => cases hd
  | cons p pending ih =>
    cases i with
    | zero =>
      cases (hd : p = x :: rest)
      simp only [pendingTotal, List.set_cons_zero, List.map_cons, List.sum_cons, List.length_cons]
      omega
    | succ i =>
      have := ih hd
      simp only [pendingTotal, List.set_cons_succ, List.map_cons, List.sum_cons] at this ⊢
      omega

end SetPending

theorem MergeBase.step {given pending : List (List α)} {written : List (Nat × α)} {i : Nat} {x : α}
    {rest : List α} (base : MergeBase given pending written) (hd : pending.getD i [] = x :: rest) :
    MergeBase given (pending.set i rest) (written ++ [(i, x)]) where
  conserved j := by
    rw [takenFrom_snoc, getD_set_of_cons hd]
    split_ifs with same
    · rw [List.append_assoc, List.singleton_append, ← hd, same]
      exact base.conserved i
    · exact base.conserved j
  perm := by
    rw [List.map_append, List.append_assoc]
    exact ((perm_flatten_set hd).append_left _).trans base.perm

theorem MergeBase.finish {given pending : List (List α)} {written : List (Nat × α)}
    (base : MergeBase given pending written) (empty : ∀ j, pending.getD j [] = []) :
    (∀ i, takenFrom written i = given.getD i []) ∧ (written.map (·.2)).Perm given.flatten := by
  have gone : pending.flatten = [] := List.flatten_eq_nil_iff.mpr fun l mem => by
    obtain ⟨j, at_j⟩ := List.mem_iff_getElem?.mp mem
    simpa [at_j] using empty j
  refine ⟨fun i => ?_, by simpa [gone] using base.perm⟩
  rw [← base.conserved i, empty i]
  exact (List.append_nil _).symm

theorem MergeInv.step {compare : α → α → Int} {given pending : List (List α)}
    {written : List (Nat × α)} {i : Nat} {x : α} {rest : List α}
    (inv : MergeInv compare given pending written) (next : NextResult compare pending i x)
    (hd : pending.getD i [] = x :: rest) :
    MergeInv compare given (pending.set i rest) (written ++ [(i, x)]) where
  toMergeBase := inv.toMergeBase.step hd
  sortedPending j := by
    rw [getD_set_of_cons hd]
    split_ifs
    · have sorted := inv.sortedPending i
      rw [hd] at sorted
      exact sorted.of_cons
    · exact inv.sortedPending j
  sortedWritten := List.pairwise_append.mpr ⟨inv.sortedWritten, List.pairwise_singleton _ _,
    fun a mem b new => List.mem_singleton.mp new ▸ inv.frontier a mem i x (hd ▸ List.mem_cons_self x rest)⟩
  frontier a mem j y left := by
    rcases List.mem_append.mp mem with old | new
    · exact inv.frontier a old j y (mem_of_mem_set hd left)
    · exact List.mem_singleton.mp new ▸ next.2 j y (mem_of_mem_set hd left)

theorem MergeBase.start (given : List (List α)) : MergeBase given given [] :=
  ⟨fun _ => rfl, List.Perm.refl _⟩

theorem MergeInv.start {compare : α → α → Int} {given : List (List α)}
    (sorted : ∀ i, (given.getD i []).Pairwise (compare · · ≤ 0)) : MergeInv compare given given [] where
  toMergeBase := MergeBase.start given
  sortedPending := sorted
  sortedWritten := List.Pairwise.nil
  frontier := nofun

/-! ### The candidate of a pass -/

def FirstMin (compare : α → α → Int) (candidates : List (Nat × α)) : Option (Nat × α) → Prop
  | none => candidates = []
  | some best => best ∈ candidates ∧ ∀ c ∈ candidates, Precedes compare best c

theorem FirstMin.pick {compare : α → α → Int} (order : ComparePreorder compare)
    {candidates : List (Nat × α)} {cand : Option (Nat × α)} (first : FirstMin compare candidates cand)
    {i : Nat} (before : ∀ c ∈ candidates, c.1 < i) (x : α) :
    FirstMin compare (candidates ++ [(i, x)]) (pick compare cand i x) := by
  have self : Precedes compare (i, x) (i, x) := ⟨order.refl x, fun _ => le_refl i⟩
  match cand, first with
  | none, (first : candidates = []) =>
    subst first
    exact ⟨List.mem_singleton_self _, fun c mem => List.mem_singleton.mp mem ▸ self⟩
  | some (j, c), ⟨mem, least⟩ =>
    dsimp only [Corsaro.Merge.pick]
    split_ifs with after
    · have xc : compare x c ≤ 0 := (order.total c x).resolve_left (Int.not_le.mpr after)
      refine ⟨List.mem_append_right _ (List.mem_singleton_self _), fun d dmem => ?_⟩
      rcases List.mem_append.mp dmem with old | new
      · have cd := (least d old).1
        exact ⟨order.trans xc cd, fun dx => absurd (order.trans cd dx) (Int.not_le.mpr after)⟩
      · exact List.mem_singleton.mp new ▸ self
    · refine ⟨List.mem_append_left _ mem, fun d dmem => ?_⟩
      rcases List.mem_append.mp dmem with old | new
      · exact least d old
      · exact List.mem_singleton.mp new ▸ ⟨Int.not_lt.mp after, fun _ => (before _ mem).le⟩

def SeenCandidate (candidates : List (Nat × α)) : Option (Nat × α) → Prop
  | none => candidates = []
  | some best => best ∈ candidates

theorem SeenCandidate.pick {candidates : List (Nat × α)} {cand : Option (Nat × α)}
    (seen : SeenCandidate candidates cand) (compare : α → α → Int) (i : Nat) (x : α) :
    SeenCandidate (candidates ++ [(i, x)]) (pick compare cand i x) := by
  match cand, seen with
  | none, _ => exact List.mem_append_right _ (List.mem_singleton_self _)
  | some (j, c), (seen : (j, c) ∈ candidates) =>
    dsimp only [Corsaro.Merge.pick]
    split_ifs
    · exact List.mem_append_right _ (List.mem_singleton_self _)
    · exact List.mem_append_left _ seen

def heads : Nat → List (List α) → List (Nat × α)
  | _, [] => []
  | k, [] :: pending => heads (k + 1) pending
  | k, (y :: _) :: pending => (k, y) :: heads (k + 1) pending

theorem mem_heads : ∀ (k : Nat) (pending : List (List α)) (j : Nat) (y : α),
    (j, y) ∈ heads k pending ↔ ∃ d rest, j = k + d ∧ pending.getD d [] = y :: rest
  | _, [], _, _ => by simp [heads]
  | k, [] :: pending, j, y => by
    rw [heads, mem_heads (k + 1) pending j y]
    constructor
    · rintro ⟨d, rest, rfl, at_d⟩
      exact ⟨d + 1, rest, by omega, at_d⟩
    · rintro ⟨_ | d, rest, rfl, at_d⟩
      · cases at_d
      · exact ⟨d, rest, by omega, at_d⟩
  | k, (z :: more) :: pending, j, y => by
    rw [heads, List.mem_cons, mem_heads (k + 1) pending j y, Prod.mk.injEq]
    constructor
    · rintro (⟨rfl, rfl⟩ | ⟨d, rest, rfl, at_d⟩)
      · exact ⟨0, more, rfl, rfl⟩
      · exact ⟨d + 1, rest, by omega, at_d⟩
    · rintro ⟨_ | d, rest, rfl, at_d⟩
      · cases at_d
        exact Or.inl ⟨rfl, rfl⟩
      · exact Or.inr ⟨d, rest, by omega, at_d⟩

theorem mem_heads_zero {pending : List (List α)} {j : Nat} {y : α} :
    (j, y) ∈ heads 0 pending ↔ ∃ rest, pending.getD j [] = y :: rest := by
  rw [mem_heads]
  constructor
  · rintro ⟨d, rest, rfl, at_d⟩
    exact ⟨rest, by rw [Nat.zero_add]; exact at_d⟩
  · rintro ⟨rest, at_j⟩
    exact ⟨j, rest, (Nat.zero_add j).symm, at_j⟩

theorem FirstMin.next {compare : α → α → Int} (order : ComparePreorder compare)
    {pending : List (List α)} (sorted : ∀ j, (pending.getD j []).Pairwise (compare · · ≤ 0))
    {i : Nat} {x : α} (first : FirstMin compare (heads 0 pending) (some (i, x))) :
    NextResult compare pending i x := by
  refine ⟨mem_heads_zero.mp first.1, fun j y mem => ?_⟩
  obtain ⟨h, more, at_j⟩ : ∃ h more, pending.getD j [] = h :: more := by
    cases at_j : pending.getD j [] with
    | nil => rw [at_j] at mem; cases mem
    | cons h more => exact ⟨h, more, rfl⟩
  have least := first.2 (j, h) (mem_heads_zero.mpr ⟨more, at_j⟩)
  have sorted_j := sorted j
  rw [at_j] at mem sorted_j
  rcases List.mem_cons.mp mem with rfl | later
  · exact least
  · exact order.precedes_of_le least (List.rel_of_pairwise_cons sorted_j later)

theorem getD_eq_nil_of_heads {pending : List (List α)} (none : heads 0 pending = []) (j : Nat) :
    pending.getD j [] = [] := by
  cases at_j : pending.getD j [] with
  | nil => rfl
  | cons h more =>
    have := mem_heads_zero.mpr ⟨more, at_j⟩
    rw [none] at this
    cases this

/-! ### The code takes the merge's steps -/

def MergeSource.pending : MergeSource α → List α
  | ⟨none, _⟩ => []
  | ⟨some r, some (.data x)⟩ => x :: r.results
  | ⟨some r, _⟩ => r.results

def MergeSource.Ready : MergeSource α → Prop
  | ⟨some _, some .eof⟩ => False
  | _ => True

def MergeSource.Settled : MergeSource α → Prop
  | ⟨none, _⟩ => True
  | ⟨some _, some (.data _)⟩ => True
  | _ => False

theorem scanSource_spec (compare : α → α → Int) (i : Nat) (cand : Option (Nat × α))
    {s : MergeSource α} (ready : s.Ready) :
    (scanSource compare i cand s).1.pending = s.pending ∧ (scanSource compare i cand s).1.Settled ∧
      (scanSource compare i cand s).2 = s.pending.head?.elim cand (pick compare cand i) := by
  rcases s with ⟨_ | ⟨_ | ⟨x, rest⟩, _ | _⟩, _ | _ | y⟩ <;> first | exact ⟨rfl, trivial, rfl⟩ | cases ready

theorem scanSources_settled (compare : α → α → Int) :
    ∀ (k : Nat) (cand : Option (Nat × α)) (sources : List (MergeSource α)), (∀ s ∈ sources, s.Ready) →
      (scanSources compare k cand sources).1.map MergeSource.pending = sources.map MergeSource.pending ∧
        ∀ s ∈ (scanSources compare k cand sources).1, s.Settled
  | _, _, [], _ => ⟨rfl, nofun⟩
  | k, cand, s :: rest, ready => by
    obtain ⟨visited, settled, _⟩ := scanSource_spec compare k cand (ready s (List.mem_cons_self s rest))
    obtain ⟨scanned, settleds⟩ := scanSources_settled compare (k + 1) (scanSource compare k cand s).2 rest
      fun s mem => ready s (List.mem_cons_of_mem _ mem)
    simp only [scanSources, List.map_cons, List.forall_mem_cons, visited, scanned, true_and]
    exact ⟨settled, settleds⟩

theorem scanSources_run (compare : α → α → Int) (R : List (Nat × α) → Option (Nat × α) → Prop)
    (picked : ∀ candidates cand i x, R candidates cand → (∀ c ∈ candidates, c.1 < i) →
      R (candidates ++ [(i, x)]) (pick compare cand i x)) :
    ∀ (k : Nat) (cand : Option (Nat × α)) (sources : List (MergeSource α)) (candidates : List (Nat × α)),
      (∀ s ∈ sources, s.Ready) → R candidates cand → (∀ c ∈ candidates, c.1 < k) →
      R (candidates ++ heads k (sources.map MergeSource.pending)) (scanSources compare k cand sources).2
  | _, _, [], candidates, _, first, _ => by simpa [heads] using first
  | k, cand, s :: rest, candidates, ready, first, before => by
    have readyRest := fun s mem => ready s (List.mem_cons_of_mem _ mem)
    obtain ⟨_, _, visited⟩ := scanSource_spec compare k cand (ready s (List.mem_cons_self s rest))
    simp only [scanSources, List.map_cons]
    cases at_s : s.pending with
    | nil =>
      simp only [at_s, List.head?_nil, Option.elim_none] at visited
      rw [heads, visited]
      exact scanSources_run compare R picked (k + 1) cand rest candidates readyRest first
        fun c mem => Nat.lt_succ_of_lt (before c mem)
    | cons x _ =>
      simp only [at_s, List.head?_cons, Option.elim_some] at visited
      rw [heads, visited, ← List.singleton_append, ← List.append_assoc]
      refine scanSources_run compare R picked (k + 1) _ rest _ readyRest (picked _ _ _ x first before)
        fun c mem => ?_
      rcases List.mem_append.mp mem with old | new
      · exact Nat.lt_succ_of_lt (before c old)
      · rw [List.mem_singleton.mp new]
        exact Nat.lt_succ_self k

theorem MergeSource.Settled.blank {s : MergeSource α} (settled : s.Settled) {x : α} {rest : List α}
    (hd : s.pending = x :: rest) : ({ s with result := none } : MergeSource α).pending = rest :=
  match s, settled, hd with
  | ⟨none, _⟩, _, hd => nomatch hd
  | ⟨some _, none⟩, settled, _ => nomatch settled
  | ⟨some _, some .eof⟩, settled, _ => nomatch settled
  | ⟨some _, some (.data _)⟩, _, hd => (List.cons.inj hd).2

theorem MergeSource.Settled.ready {s : MergeSource α} (settled : s.Settled) : s.Ready := by
  rcases s with ⟨_ | _, _ | _ | _⟩ <;> trivial

theorem pending_blank :
    ∀ (sources : List (MergeSource α)) (i : Nat) {x : α} {rest : List α}, (∀ s ∈ sources, s.Settled) →
      (sources.map MergeSource.pending).getD i [] = x :: rest →
      (sources.modify (fun s => { s with result := none }) i).map MergeSource.pending =
          (sources.map MergeSource.pending).set i rest ∧
        ∀ s ∈ sources.modify (fun s => { s with result := none }) i, s.Ready
  | [], _, _, _, _, hd => nomatch hd
  | s :: sources, 0, _, _, settled, hd => by
    simp only [List.modify_zero_cons, List.map_cons, List.set_cons_zero, List.forall_mem_cons]
    refine ⟨by rw [(settled s (List.mem_cons_self s sources)).blank hd], ?_,
      fun s mem => (settled s (List.mem_cons_of_mem _ mem)).ready⟩
    rcases s with ⟨_ | _, _⟩ <;> trivial
  | s :: sources, i + 1, _, _, settled, hd => by
    obtain ⟨blanked, ready⟩ := pending_blank sources i (fun s mem => settled s (List.mem_cons_of_mem _ mem)) hd
    simp only [List.modify_succ_cons, List.map_cons, List.set_cons_succ, List.forall_mem_cons, blanked, true_and]
    exact ⟨(settled s (List.mem_cons_self s sources)).ready, ready⟩

theorem scanSources_some {compare : α → α → Int} {sources : List (MergeSource α)} (ready : ∀ s ∈ sources, s.Ready)
    {i : Nat} {x : α} (scan : (scanSources compare 0 none sources).2 = some (i, x)) :
    ∃ rest, (sources.map MergeSource.pending).getD i [] = x :: rest := by
  have seen := scanSources_run compare SeenCandidate (fun _ _ _ x seen _ => seen.pick compare _ x)
    0 none sources [] ready rfl nofun
  rw [List.nil_append, scan] at seen
  exact mem_heads_zero.mp seen

theorem scanSources_none {compare : α → α → Int} {sources : List (MergeSource α)} (ready : ∀ s ∈ sources, s.Ready)
    (scan : (scanSources compare 0 none sources).2 = none) (j : Nat) :
    (sources.map MergeSource.pending).getD j [] = [] := by
  have seen := scanSources_run compare SeenCandidate (fun _ _ _ x seen _ => seen.pick compare _ x)
    0 none sources [] ready rfl nofun
  rw [List.nil_append, scan] at seen
  exact getD_eq_nil_of_heads seen j

theorem scanSources_next {compare : α → α → Int} (order : ComparePreorder compare)
    {sources : List (MergeSource α)} (ready : ∀ s ∈ sources, s.Ready)
    (sorted : ∀ j, ((sources.map MergeSource.pending).getD j []).Pairwise (compare · · ≤ 0))
    {i : Nat} {x : α} (scan : (scanSources compare 0 none sources).2 = some (i, x)) :
    NextResult compare (sources.map MergeSource.pending) i x := by
  have first := scanSources_run compare (FirstMin compare) (fun _ _ _ x first before => first.pick order before x)
    0 none sources [] ready rfl nofun
  rw [List.nil_append, scan] at first
  exact first.next order sorted

theorem distinctMergeLoop_steps {compare : α → α → Int} {write : List α → α → Bool}
    (Inv : List (List α) → List (Nat × α) → Prop)
    (step : ∀ (sources : List (MergeSource α)) written i x rest, (∀ s ∈ sources, s.Ready) →
      Inv (sources.map MergeSource.pending) written → (scanSources compare 0 none sources).2 = some (i, x) →
      (sources.map MergeSource.pending).getD i [] = x :: rest → write (written.map (·.2)) x = true →
      Inv ((sources.map MergeSource.pending).set i rest) (written ++ [(i, x)])) :
    ∀ (fuel : Nat) (sources : List (MergeSource α)) (written : List (Nat × α)), (∀ s ∈ sources, s.Ready) →
      Inv (sources.map MergeSource.pending) written → pendingTotal (sources.map MergeSource.pending) < fuel →
      ∃ code final pending, distinctMergeLoop compare write fuel sources written = some (code, final) ∧
        Inv pending final ∧ (code = 0 ∧ (∀ j, pending.getD j [] = []) ∨
          code = -1 ∧ ∃ i x rest, pending.getD i [] = x :: rest ∧ write (final.map (·.2)) x = false)
  | 0, _, _, _, _, bound => absurd bound (Nat.not_lt_zero _)
  | fuel + 1, sources, written, ready, inv, bound => by
    obtain ⟨scannedPending, settled⟩ := scanSources_settled compare 0 none sources ready
    rw [distinctMergeLoop]
    rcases scan : scanSources compare 0 none sources with ⟨scanned, _ | ⟨i, x⟩⟩
    · exact ⟨0, written, _, rfl, inv, Or.inl ⟨rfl, scanSources_none ready (by rw [scan])⟩⟩
    · obtain ⟨rest, hd⟩ := scanSources_some ready (by rw [scan] : (scanSources compare 0 none sources).2 = _)
      rw [scan] at scannedPending settled
      obtain ⟨blanked, readyNext⟩ := pending_blank scanned i settled (scannedPending ▸ hd)
      dsimp only
      by_cases written_ok : write (written.map (·.2)) x = true
      · rw [if_pos written_ok]
        refine distinctMergeLoop_steps Inv step fuel _ _ readyNext ?_ ?_
        · rw [blanked, scannedPending]
          exact step sources written i x rest ready inv (by rw [scan]) hd written_ok
        · have fewer := pendingTotal_set hd
          rw [blanked, scannedPending]
          omega
      · rw [if_neg written_ok]
        exact ⟨-1, written, _, rfl, inv, Or.inr ⟨rfl, i, x, rest, hd, Bool.eq_false_iff.mpr written_ok⟩⟩

theorem distinctMergeLoop_run {compare : α → α → Int} {write : List α → α → Bool}
    (Inv : List (List α) → List (Nat × α) → Prop)
    (step : ∀ (sources : List (MergeSource α)) written i x rest, (∀ s ∈ sources, s.Ready) →
      Inv (sources.map MergeSource.pending) written → (scanSources compare 0 none sources).2 = some (i, x) →
      (sources.map MergeSource.pending).getD i [] = x :: rest →
      Inv ((sources.map MergeSource.pending).set i rest) (written ++ [(i, x)])) :
    ∀ (fuel : Nat) (sources : List (MergeSource α)) (written : List (Nat × α)), (∀ s ∈ sources, s.Ready) →
      Inv (sources.map MergeSource.pending) written → pendingTotal (sources.map MergeSource.pending) < fuel →
      ∃ code final pending, distinctMergeLoop compare write fuel sources written = some (code, final) ∧
        Inv pending final ∧ (code = 0 ∧ (∀ j, pending.getD j [] = []) ∨
          code = -1 ∧ ∃ x, write (final.map (·.2)) x = false) := by
  intro fuel sources written ready inv bound
  obtain ⟨code, final, pending, ran, inv', ended⟩ := distinctMergeLoop_steps Inv
    (fun sources written i x rest ready inv scan hd _ => step sources written i x rest ready inv scan hd)
    fuel sources written ready inv bound
  exact ⟨code, final, pending, ran, inv', ended.imp id fun ⟨failed, _, x, _, _, rejected⟩ =>
    ⟨failed, x, rejected⟩⟩

theorem pending_start (readers : List (Option (ReadStream α))) :
    (readers.map fun r => (⟨r, none⟩ : MergeSource α)).map MergeSource.pending = delivered readers := by
  rw [List.map_map, delivered]
  congr 1
  funext r
  cases r <;> rfl

theorem ready_start (readers : List (Option (ReadStream α))) :
    ∀ s ∈ readers.map fun r => (⟨r, none⟩ : MergeSource α), s.Ready := by
  intro s mem
  obtain ⟨r, _, rfl⟩ := List.mem_map.mp mem
  cases r <;> trivial

theorem pairwise_getD_delivered {compare : α → α → Int} {readers : List (Option (ReadStream α))}
    (sorted : ∀ r ∈ readers, ∀ s ∈ r, s.results.Pairwise (compare · · ≤ 0)) (i : Nat) :
    ((delivered readers).getD i []).Pairwise (compare · · ≤ 0) := by
  rw [List.getD_eq_getElem?_getD]
  cases at_i : (delivered readers)[i]? with
  | none => exact List.Pairwise.nil
  | some l =>
    obtain ⟨r, mem, rfl⟩ := List.mem_map.mp (List.mem_iff_getElem?.mpr ⟨i, at_i⟩)
    cases r with
    | none => exact List.Pairwise.nil
    | some s => exact sorted _ mem s rfl

/-- Whatever number of readers, each delivering its results in
`compare_results` order before an EOF or a failed read, and with a writer that
never fails, `perform_distinct_merge` ends and returns 0. It writes each result
every reader delivered exactly once: from each reader, the results it
delivered before its end, in order, and all of them together a permutation of
all that was delivered. It writes them in `compare_results` order, results
that compare equal in the order of their readers' indices. -/
theorem distinct_merge_writes_stable_merge (compare : α → α → Int) (write : List α → α → Bool)
    (readers : List (Option (ReadStream α))) (order : ComparePreorder compare)
    (sorted : ∀ r ∈ readers, ∀ s ∈ r, s.results.Pairwise (compare · · ≤ 0))
    (writes : ∀ done x, write done x = true) :
    ∃ written, performDistinctMerge compare write readers = some (0, written) ∧
      (written.map (·.2)).Perm (delivered readers).flatten ∧
      (∀ i, takenFrom written i = (delivered readers).getD i []) ∧
      written.Pairwise (Precedes compare) := by
  obtain ⟨code, written, pending, ran, inv, ended⟩ := @distinctMergeLoop_run _ compare write
    (MergeInv compare (delivered readers))
    (fun _ _ _ _ _ ready inv scan hd => inv.step (scanSources_next order ready inv.sortedPending scan) hd)
    (pendingTotal (delivered readers) + 1) _ [] (ready_start readers)
    (by rw [pending_start]; exact MergeInv.start (pairwise_getD_delivered sorted))
    (by rw [pending_start]; omega)
  rcases ended with ⟨rfl, empty⟩ | ⟨_, x, failed⟩
  · obtain ⟨taken, perm⟩ := inv.finish empty
    exact ⟨written, ran, perm, taken, inv.sortedWritten⟩
  · rw [writes] at failed
    cases failed

theorem distinct_merge_writes_stable_merge_sample :
    ComparePreorder (fun a b : Nat => (a : Int) - b) ∧
      (∀ r ∈ [some ⟨[1, 3], .eof⟩, none, some ⟨[1, 2], .fail⟩], ∀ s ∈ r,
        (ReadStream.results s).Pairwise fun a b : Nat => (a : Int) - b ≤ 0) ∧
      (∀ (done : List Nat) (x : Nat), (fun _ _ => true : List Nat → Nat → Bool) done x = true) ∧
      ∃ written, performDistinctMerge (fun a b : Nat => (a : Int) - b) (fun _ _ => true)
          [some ⟨[1, 3], .eof⟩, none, some ⟨[1, 2], .fail⟩] = some (0, written) ∧
        (written.map (·.2)).Perm (delivered [some ⟨[1, 3], .eof⟩, none, some ⟨[1, 2], .fail⟩]).flatten ∧
        (∀ i, takenFrom written i = (delivered [some ⟨[1, 3], .eof⟩, none, some ⟨[1, 2], .fail⟩]).getD i []) ∧
        written.Pairwise (Precedes fun a b : Nat => (a : Int) - b) := by
  have order : ComparePreorder (fun a b : Nat => (a : Int) - b) :=
    ⟨fun a b => by omega, fun ab bc => by omega⟩
  have sorted : ∀ r ∈ [some ⟨[1, 3], .eof⟩, none, some ⟨[1, 2], .fail⟩], ∀ s ∈ r,
      (ReadStream.results s).Pairwise fun a b : Nat => (a : Int) - b ≤ 0 := by
    intro r mem s at_r
    simp only [List.mem_cons, List.mem_singleton, List.not_mem_nil, or_false] at mem
    rcases mem with rfl | rfl | rfl <;> cases at_r <;> decide
  exact ⟨order, sorted, fun _ _ => rfl,
    distinct_merge_writes_stable_merge _ _ _ order sorted fun _ _ => rfl⟩

/-- Whatever `compare_results` answers and whatever the writer does,
`perform_distinct_merge` ends, within one pass more than there are results, and
returns 0 or -1. From each reader it writes a prefix of the results the reader
delivered, each by a write that succeeded. It returns 0 having written every
result, and -1 when the write of the next result of some reader failed. -/
theorem distinct_merge_ends_with_reader_prefixes (compare : α → α → Int) (write : List α → α → Bool)
    (readers : List (Option (ReadStream α))) :
    ∃ code written, performDistinctMerge compare write readers = some (code, written) ∧
      (∀ i, takenFrom written i <+: (delivered readers).getD i []) ∧
      WritesAccepted write written ∧
      (code = 0 ∧ (∀ i, takenFrom written i = (delivered readers).getD i []) ∨
        code = -1 ∧ ∃ i x, takenFrom written i ++ [x] <+: (delivered readers).getD i [] ∧
          write (written.map (·.2)) x = false) := by
  obtain ⟨code, written, pending, ran, ⟨base, accepted⟩, ended⟩ := @distinctMergeLoop_steps _ compare
    write (fun pending written => MergeBase (delivered readers) pending written ∧ WritesAccepted write written)
    (fun _ _ _ _ _ _ inv _ hd ok => ⟨inv.1.step hd, inv.2.snoc ok⟩)
    (pendingTotal (delivered readers) + 1) _ [] (ready_start readers)
    (by rw [pending_start]; exact ⟨MergeBase.start _, WritesAccepted.nil write⟩)
    (by rw [pending_start]; omega)
  refine ⟨code, written, ran, fun i => ⟨_, base.conserved i⟩, accepted, ?_⟩
  rcases ended with ⟨rfl, empty⟩ | ⟨rfl, i, x, rest, hd, failed⟩
  · exact Or.inl ⟨rfl, (base.finish empty).1⟩
  · refine Or.inr ⟨rfl, i, x, ⟨rest, ?_⟩, failed⟩
    rw [List.append_assoc, List.singleton_append, ← hd]
    exact base.conserved i

end Corsaro.Merge
