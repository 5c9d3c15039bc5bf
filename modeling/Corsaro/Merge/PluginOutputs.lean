import Mathlib.Data.List.Basic

/-! `corsaro_merge_plugin_outputs`: for each plugin of the list it derives the
merged output's name, creates the merge writer, opens one reader per
processing thread's interim file and merges them. `corsaro_start_reader_plugins`
fills `pset->plugin_state[k]` with the reading state of the plugin at position
`k`, and the loop walks the list with `p` and the states with `index`. When
`derive_output_name` fails, `p` moves on and `index` does not; when
`corsaro_create_merge_writer` fails, both move on and the iteration goes on
with the next plugin and no writer. What the plugin's calls give is a
parameter, as a function of the plugin's position and the state index it is
called with. -/
namespace Corsaro.Merge

inductive MergeStyle
  | overlapping | distinct
  deriving DecidableEq, Repr

structure MergePlugin where
  mergestyle : MergeStyle
  deriving DecidableEq, Repr

structure MergeOutcomes where
  outname : Nat → Nat → Bool
  writer : Nat → Nat → Bool
  reader : Nat → Nat → Nat → Bool
  distinct : Nat → Nat → Bool → Bool

/-- The calls an iteration makes on a plugin, with its position and state index:
`derive_output_name(p, state, ts, -1)`, `corsaro_create_merge_writer`, and the reader loop, with
`derive_output_name(p, state, ts, i)` and `corsaro_create_merge_reader` for each thread `i`, then
the merge. -/
inductive PluginCall
  | deriveOutputName (plugin state : Nat)
  | createMergeWriter (plugin state : Nat)
  | mergeSources (plugin state : Nat) (hasWriter : Bool)
  deriving DecidableEq, Repr

def PluginCall.plugin : PluginCall → Nat
  | .deriveOutputName k _ | .createMergeWriter k _ | .mergeSources k _ _ => k

def PluginCall.state : PluginCall → Nat
  | .deriveOutputName _ j | .createMergeWriter _ j | .mergeSources _ j _ => j

/-- What stops the merge: `assert(index < count)` in `corsaro_start_reader_plugins`, or `p`
dereferenced when it is `NULL`. -/
inductive MergeFault
  | tooManyPlugins
  | nullPlugin
  deriving DecidableEq, Repr

/-- `corsaro_start_reader_plugins`: `pset->plugin_state[k]` is the state of the plugin at position
`k`, for a list of at most `count` plugins. -/
def corsaroStartReaderPlugins (count : Nat) (plugins : List MergePlugin) :
    Except MergeFault (List Nat) :=
  if plugins.length ≤ count then .ok (List.range plugins.length) else .error .tooManyPlugins

/-- The errors counted from the readers on: one per interim file that does not open, and one when
the merge returns -1; `perform_overlap_merge` returns 0. -/
def sourceErrors (o : MergeOutcomes) (threads k j : Nat) (plugin : MergePlugin) (hasWriter : Bool) :
    Nat :=
  ((List.range threads).filter fun i => !o.reader k j i).length +
    match plugin.mergestyle with
    | .overlapping => 0
    | .distinct => if o.distinct k j hasWriter then 0 else 1

/-- The `while (p != NULL)` loop of `corsaro_merge_plugin_outputs` from the plugin at `pos`, with
state index `index`. -/
def mergePluginsLoop (o : MergeOutcomes) (threads : Nat) :
    Nat → Nat → Nat → List MergePlugin → List PluginCall → Except MergeFault (Nat × List PluginCall)
  | _, _, errors, [], calls => .ok (errors, calls)
  | pos, index, errors, p :: rest, calls =>
    let calls := calls ++ [.deriveOutputName pos index]
    if o.outname pos index then
      let calls := calls ++ [.createMergeWriter pos index]
      if o.writer pos index then
        mergePluginsLoop o threads (pos + 1) (index + 1) (errors + sourceErrors o threads pos index p true)
          rest (calls ++ [.mergeSources pos index true])
      else
        match rest with
        | [] => .error .nullPlugin
        | q :: rest =>
          mergePluginsLoop o threads (pos + 2) (index + 2)
            (errors + 1 + sourceErrors o threads (pos + 1) (index + 1) q false) rest
            (calls ++ [.mergeSources (pos + 1) (index + 1) false])
    else mergePluginsLoop o threads (pos + 1) index (errors + 1) rest calls

/-- `corsaro_merge_plugin_outputs`: the number of errors it returns, and the calls it made. -/
def corsaroMergePluginOutputs (o : MergeOutcomes) (threads count : Nat) (plugins : List MergePlugin) :
    Except MergeFault (Nat × List PluginCall) :=
  match corsaroStartReaderPlugins count plugins with
  | .error fault => .error fault
  | .ok _ => mergePluginsLoop o threads 0 0 0 plugins []

/-! ### Which state each call uses -/

def PluginCall.failedName (o : MergeOutcomes) : PluginCall → Bool
  | .deriveOutputName k j => !o.outname k j
  | _ => false

def failedBefore (o : MergeOutcomes) (calls : List PluginCall) (m : Nat) : Nat :=
  (calls.filter fun c => c.failedName o && decide (c.plugin < m)).length

@[simp] theorem failedBefore_nil (o : MergeOutcomes) (m : Nat) : failedBefore o [] m = 0 := rfl

@[simp] theorem failedBefore_cons (o : MergeOutcomes) (c : PluginCall) (calls : List PluginCall) (m : Nat) :
    failedBefore o (c :: calls) m =
      (if c.failedName o && decide (c.plugin < m) then 1 else 0) + failedBefore o calls m := by
  unfold failedBefore
  rw [List.filter_cons]
  split <;> simp only [List.length_cons, Nat.add_comm, Nat.zero_add]

theorem failedBefore_append (o : MergeOutcomes) (calls more : List PluginCall) (m : Nat) :
    failedBefore o (calls ++ more) m = failedBefore o calls m + failedBefore o more m := by
  simp only [failedBefore, List.filter_append, List.length_append]

theorem failedBefore_of_below {o : MergeOutcomes} {calls : List PluginCall} {pos : Nat}
    (below : ∀ c ∈ calls, c.plugin < pos) {m : Nat} (past : pos ≤ m) :
    failedBefore o calls m = failedBefore o calls pos := by
  unfold failedBefore
  congr 1
  refine List.filter_congr fun c mem => ?_
  have := below c mem
  simp only [decide_eq_decide.mpr (show c.plugin < m ↔ c.plugin < pos by omega)]

/-- The loop's bookkeeping before the plugin at `pos`: `index` lags `pos` by every failed name so
far. -/
structure Lagged (o : MergeOutcomes) (pos index : Nat) (calls : List PluginCall) : Prop where
  below : ∀ c ∈ calls, c.plugin < pos
  lag : ∀ c ∈ calls, c.plugin = c.state + failedBefore o calls c.plugin
  now : pos = index + failedBefore o calls pos

theorem Lagged.extend {o : MergeOutcomes} {pos index : Nat} {calls : List PluginCall}
    (inv : Lagged o pos index calls) (more : List PluginCall) {pos' index' : Nat}
    (after : ∀ c ∈ more, pos ≤ c.plugin ∧ c.plugin < pos')
    (moreLag : ∀ c ∈ more, c.plugin = c.state + failedBefore o calls pos + failedBefore o more c.plugin)
    (next : pos' = index' + failedBefore o calls pos + failedBefore o more pos') (grow : pos ≤ pos') :
    Lagged o pos' index' (calls ++ more) := by
  have early : ∀ c ∈ calls, failedBefore o more c.plugin = 0 := fun c old => by
    unfold failedBefore
    rw [List.length_eq_zero, List.filter_eq_nil_iff]
    intro d mem
    have := inv.below c old
    have := (after d mem).1
    simp only [Bool.and_eq_true, decide_eq_true_eq, not_and]
    exact fun _ => by omega
  refine ⟨fun c mem => ?_, fun c mem => ?_, ?_⟩
  · rcases List.mem_append.mp mem with old | new
    · exact (inv.below c old).trans_le grow
    · exact (after c new).2
  · rw [failedBefore_append]
    rcases List.mem_append.mp mem with old | new
    · rw [early c old, Nat.add_zero]
      exact inv.lag c old
    · rw [failedBefore_of_below inv.below (after c new).1, ← Nat.add_assoc]
      exact moreLag c new
  · rw [failedBefore_append, failedBefore_of_below inv.below grow, ← Nat.add_assoc]
    exact next

theorem derived_calls_between {pos index shift : Nat} {hasWriter : Bool} :
    ∀ c ∈ [PluginCall.deriveOutputName pos index, .createMergeWriter pos index,
      .mergeSources (pos + shift) (index + shift) hasWriter], pos ≤ c.plugin ∧ c.plugin < pos + shift + 1 := by
  intro c mem
  simp only [List.mem_cons, List.mem_singleton, List.not_mem_nil, or_false] at mem
  rcases mem with rfl | rfl | rfl <;> simp only [PluginCall.plugin] <;> omega

theorem failedBefore_derived {o : MergeOutcomes} {pos index : Nat} (named : o.outname pos index = true)
    (k j : Nat) (hasWriter : Bool) (m : Nat) :
    failedBefore o [.deriveOutputName pos index, .createMergeWriter pos index,
      .mergeSources k j hasWriter] m = 0 := by
  simp only [failedBefore_cons, failedBefore_nil, PluginCall.failedName, named, Bool.not_true,
    Bool.false_and, Bool.false_eq_true, if_false]

theorem Lagged.derived {o : MergeOutcomes} {pos index : Nat} {calls : List PluginCall}
    (inv : Lagged o pos index calls) (named : o.outname pos index = true) (shift : Nat)
    (hasWriter : Bool) :
    Lagged o (pos + shift + 1) (index + shift + 1) (calls ++ [.deriveOutputName pos index,
      .createMergeWriter pos index, .mergeSources (pos + shift) (index + shift) hasWriter]) := by
  have now := inv.now
  refine inv.extend _ derived_calls_between (fun c mem => ?_) ?_ (by omega)
  · rw [failedBefore_derived named]
    simp only [List.mem_cons, List.mem_singleton, List.not_mem_nil, or_false] at mem
    rcases mem with rfl | rfl | rfl <;> simp only [PluginCall.plugin, PluginCall.state] <;> omega
  · rw [failedBefore_derived named]
    omega

theorem Lagged.unnamed {o : MergeOutcomes} {pos index : Nat} {calls : List PluginCall}
    (inv : Lagged o pos index calls) (failed : o.outname pos index = false) :
    Lagged o (pos + 1) index (calls ++ [.deriveOutputName pos index]) := by
  have now := inv.now
  refine inv.extend _ (fun c mem => ?_) (fun c mem => ?_) ?_ (Nat.le_succ pos)
  · simp only [List.mem_singleton] at mem
    subst mem
    simp [PluginCall.plugin]
  · simp only [List.mem_singleton] at mem
    subst mem
    simp [PluginCall.failedName, PluginCall.plugin, PluginCall.state, failed]
    omega
  · simp [PluginCall.failedName, PluginCall.plugin, failed]
    omega

/-! ### Runs of the loop -/

theorem mergePluginsLoop_run (o : MergeOutcomes) (threads : Nat)
    (Inv : Nat → Nat → List PluginCall → Prop)
    (merged : ∀ pos index calls, Inv pos index calls → o.outname pos index = true →
      o.writer pos index = true → Inv (pos + 1) (index + 1) (calls ++
        [.deriveOutputName pos index, .createMergeWriter pos index, .mergeSources pos index true]))
    (fellThrough : ∀ pos index calls, Inv pos index calls → o.outname pos index = true →
      o.writer pos index = false → Inv (pos + 2) (index + 2) (calls ++ [.deriveOutputName pos index,
        .createMergeWriter pos index, .mergeSources (pos + 1) (index + 1) false]))
    (unnamed : ∀ pos index calls, Inv pos index calls → o.outname pos index = false →
      Inv (pos + 1) index (calls ++ [.deriveOutputName pos index])) :
    ∀ (pos index errors : Nat) (plugins : List MergePlugin) (calls : List PluginCall)
      {result : Nat × List PluginCall}, Inv pos index calls →
      mergePluginsLoop o threads pos index errors plugins calls = .ok result →
      ∃ pos' index', Inv pos' index' result.2 := by
  intro pos index errors plugins calls
  induction pos, index, errors, plugins, calls using mergePluginsLoop.induct o threads with
  | case1 pos index errors calls =>
    intro result inv ran
    cases ran
    exact ⟨pos, index, inv⟩
  | case2 pos index errors p rest calls =>
    rename_i calls₁ named calls₂ written ih
    intro result inv ran
    simp only [mergePluginsLoop, named, written, if_true] at ran
    simp only [calls₁, calls₂, List.append_assoc, List.singleton_append, List.cons_append,
      List.nil_append] at ran ih
    exact ih (merged pos index calls inv named written) ran
  | case3 pos index errors p calls named failed =>
    intro result _ ran
    simp only [mergePluginsLoop, named, failed, if_true, if_false] at ran
    cases ran
  | case4 pos index errors p calls =>
    rename_i calls₁ named calls₂ failed q rest ih
    intro result inv ran
    simp only [mergePluginsLoop, named, failed, if_true, if_false] at ran
    simp only [calls₁, calls₂, List.append_assoc, List.singleton_append, List.cons_append,
      List.nil_append] at ran ih
    exact ih (fellThrough pos index calls inv named (Bool.eq_false_iff.mpr failed)) ran
  | case5 pos index errors p rest calls =>
    rename_i calls₁ failed ih
    intro result inv ran
    simp only [mergePluginsLoop, failed, if_false] at ran
    exact ih (unnamed pos index calls inv (Bool.eq_false_iff.mpr failed)) ran

/-- The calls `corsaro_merge_plugin_outputs` makes on the plugin at position `k`
pass the state index `k` less the number of earlier plugins whose
`derive_output_name` failed: from the first name that is not derived on, every
plugin is handled with the state of another one. -/
theorem merge_state_lags_failed_names (o : MergeOutcomes) (threads count : Nat)
    (plugins : List MergePlugin) {errors : Nat} {calls : List PluginCall}
    (ran : corsaroMergePluginOutputs o threads count plugins = .ok (errors, calls)) :
    ∀ c ∈ calls, c.plugin = c.state + failedBefore o calls c.plugin := by
  unfold corsaroMergePluginOutputs at ran
  split at ran
  · cases ran
  · obtain ⟨_, _, inv⟩ := mergePluginsLoop_run o threads (Lagged o)
      (fun _ _ _ inv named _ => inv.derived named 0 true)
      (fun _ _ _ inv named _ => inv.derived named 1 false) (fun _ _ _ inv failed => inv.unnamed failed)
      0 0 0 plugins [] ⟨nofun, nofun, rfl⟩ ran
    exact inv.lag

theorem merge_state_lags_failed_names_sample :
    corsaroMergePluginOutputs ⟨fun k _ => k != 0, fun _ _ => true, fun _ _ _ => true, fun _ _ _ => true⟩
        1 2 [⟨.distinct⟩, ⟨.distinct⟩] =
      .ok (1, [.deriveOutputName 0 0, .deriveOutputName 1 0, .createMergeWriter 1 0,
        .mergeSources 1 0 true]) ∧
    ∀ c ∈ [PluginCall.deriveOutputName 0 0, .deriveOutputName 1 0, .createMergeWriter 1 0,
        .mergeSources 1 0 true],
      c.plugin = c.state + failedBefore ⟨fun k _ => k != 0, fun _ _ => true, fun _ _ _ => true,
        fun _ _ _ => true⟩ [.deriveOutputName 0 0, .deriveOutputName 1 0, .createMergeWriter 1 0,
          .mergeSources 1 0 true] c.plugin :=
  ⟨rfl, merge_state_lags_failed_names _ 1 2 [⟨.distinct⟩, ⟨.distinct⟩] rfl⟩

/-! ### After a writer is not created -/

def callsOn (calls : List PluginCall) (m : Nat) : List PluginCall := calls.filter (·.plugin = m)

theorem callsOn_append (calls more : List PluginCall) (m : Nat) :
    callsOn (calls ++ more) m = callsOn calls m ++ callsOn more m :=
  List.filter_append _ _

theorem callsOn_eq_nil {calls : List PluginCall} {m : Nat} (other : ∀ c ∈ calls, c.plugin ≠ m) :
    callsOn calls m = [] :=
  List.filter_eq_nil_iff.mpr fun c mem same => other c mem (of_decide_eq_true same)

/-- The loop's bookkeeping of failed writers: after each, the only call on the next plugin is its
merge without a writer. -/
structure FellThrough (o : MergeOutcomes) (pos : Nat) (calls : List PluginCall) : Prop where
  below : ∀ c ∈ calls, c.plugin < pos
  next : ∀ k j, .createMergeWriter k j ∈ calls → o.writer k j = false →
    callsOn calls (k + 1) = [.mergeSources (k + 1) (j + 1) false]

theorem FellThrough.extend {o : MergeOutcomes} {pos : Nat} {calls : List PluginCall}
    (inv : FellThrough o pos calls) (more : List PluginCall) {pos' : Nat}
    (after : ∀ c ∈ more, pos ≤ c.plugin ∧ c.plugin < pos') (grow : pos ≤ pos')
    (fresh : ∀ k j, .createMergeWriter k j ∈ more → o.writer k j = false →
      callsOn more (k + 1) = [.mergeSources (k + 1) (j + 1) false]) :
    FellThrough o pos' (calls ++ more) := by
  refine ⟨fun c mem => ?_, fun k j mem failed => ?_⟩
  · rcases List.mem_append.mp mem with old | new
    · exact (inv.below c old).trans_le grow
    · exact (after c new).2
  · rw [callsOn_append]
    rcases List.mem_append.mp mem with old | new
    · have merged := inv.next k j old failed
      have early : k + 1 < pos :=
        inv.below (.mergeSources (k + 1) (j + 1) false) (List.mem_of_mem_filter (merged ▸ List.mem_singleton_self _))
      rw [merged, callsOn_eq_nil fun c mem => by have := (after c mem).1; omega]
      rfl
    · have late := (after _ new).1
      rw [callsOn_eq_nil fun c mem => by have := inv.below c mem; simp only [PluginCall.plugin] at late; omega,
        fresh k j new failed]
      rfl

theorem FellThrough.merged {o : MergeOutcomes} {pos index : Nat} {calls : List PluginCall}
    (inv : FellThrough o pos calls) (written : o.writer pos index = true) :
    FellThrough o (pos + 1) (calls ++
      [.deriveOutputName pos index, .createMergeWriter pos index, .mergeSources pos index true]) := by
  refine inv.extend _ (@derived_calls_between pos index 0 true) (Nat.le_succ pos) fun k j mem failed => ?_
  simp at mem
  rw [mem.1, mem.2, written] at failed
  cases failed

theorem FellThrough.fellThrough {o : MergeOutcomes} {pos index : Nat} {calls : List PluginCall}
    (inv : FellThrough o pos calls) :
    FellThrough o (pos + 2) (calls ++ [.deriveOutputName pos index, .createMergeWriter pos index,
      .mergeSources (pos + 1) (index + 1) false]) := by
  refine inv.extend _ (@derived_calls_between pos index 1 false) (by omega) fun k j mem _ => ?_
  simp at mem
  obtain ⟨rfl, rfl⟩ := mem
  simp [callsOn, PluginCall.plugin]

theorem FellThrough.unnamed {o : MergeOutcomes} {pos index : Nat} {calls : List PluginCall}
    (inv : FellThrough o pos calls) :
    FellThrough o (pos + 1) (calls ++ [.deriveOutputName pos index]) := by
  refine inv.extend _ (fun c mem => ?_) (Nat.le_succ pos) (fun k j mem _ => ?_)
  · simp only [List.mem_singleton] at mem
    subst mem
    simp [PluginCall.plugin]
  · simp at mem

/-- When `corsaro_create_merge_writer` fails for the plugin at position `k`, the
iteration goes on with the next plugin: the only step made on it is the reader
loop and merge, without a writer and with the next state index. Its merged
output's name is not derived and no writer is created for it. -/
theorem writer_failure_skips_next_plugin (o : MergeOutcomes) (threads count : Nat)
    (plugins : List MergePlugin) {errors : Nat} {calls : List PluginCall}
    (ran : corsaroMergePluginOutputs o threads count plugins = .ok (errors, calls)) {k j : Nat}
    (tried : .createMergeWriter k j ∈ calls) (failed : o.writer k j = false) :
    callsOn calls (k + 1) = [.mergeSources (k + 1) (j + 1) false] := by
  unfold corsaroMergePluginOutputs at ran
  split at ran
  · cases ran
  · obtain ⟨_, _, inv⟩ := mergePluginsLoop_run o threads (fun pos _ calls => FellThrough o pos calls)
      (fun _ _ _ inv _ written => inv.merged written) (fun _ _ _ inv _ _ => inv.fellThrough)
      (fun _ _ _ inv _ => inv.unnamed) 0 0 0 plugins [] ⟨nofun, nofun⟩ ran
    exact inv.next k j tried failed

theorem writer_failure_skips_next_plugin_sample :
    corsaroMergePluginOutputs ⟨fun _ _ => true, fun k _ => k != 0, fun _ _ _ => true, fun _ _ _ => true⟩
        1 3 [⟨.overlapping⟩, ⟨.overlapping⟩, ⟨.overlapping⟩] =
      .ok (1, [.deriveOutputName 0 0, .createMergeWriter 0 0, .mergeSources 1 1 false,
        .deriveOutputName 2 2, .createMergeWriter 2 2, .mergeSources 2 2 true]) ∧
    PluginCall.createMergeWriter 0 0 ∈ [PluginCall.deriveOutputName 0 0, .createMergeWriter 0 0,
      .mergeSources 1 1 false, .deriveOutputName 2 2, .createMergeWriter 2 2, .mergeSources 2 2 true] ∧
    callsOn [.deriveOutputName 0 0, .createMergeWriter 0 0, .mergeSources 1 1 false,
      .deriveOutputName 2 2, .createMergeWriter 2 2, .mergeSources 2 2 true] (0 + 1) =
      [.mergeSources (0 + 1) (0 + 1) false] :=
  ⟨rfl, by simp, @writer_failure_skips_next_plugin
    ⟨fun _ _ => true, fun k _ => k != 0, fun _ _ _ => true, fun _ _ _ => true⟩ 1 3
    [⟨.overlapping⟩, ⟨.overlapping⟩, ⟨.overlapping⟩] 1 [.deriveOutputName 0 0, .createMergeWriter 0 0,
      .mergeSources 1 1 false, .deriveOutputName 2 2, .createMergeWriter 2 2, .mergeSources 2 2 true]
    rfl 0 0 (by simp) rfl⟩

theorem mergePluginsLoop_clean (o : MergeOutcomes) (threads : Nat) (rest : List MergePlugin) :
    ∀ (pre : List MergePlugin) (pos errors : Nat) (calls : List PluginCall),
      (∀ k, pos ≤ k → k < pos + pre.length → o.outname k k = true ∧ o.writer k k = true) →
      ∃ errors' calls', mergePluginsLoop o threads pos pos errors (pre ++ rest) calls =
        mergePluginsLoop o threads (pos + pre.length) (pos + pre.length) errors' rest calls'
  | [], pos, errors, calls, _ => ⟨errors, calls, rfl⟩
  | p :: pre, pos, errors, calls, clean => by
    obtain ⟨named, written⟩ := clean pos (le_refl pos) (by simp)
    obtain ⟨errors', calls', eq⟩ := mergePluginsLoop_clean o threads rest pre (pos + 1) _ _
      fun k lo hi => clean k (by omega) (by simp only [List.length_cons]; omega)
    refine ⟨errors', calls', ?_⟩
    simp only [List.cons_append, mergePluginsLoop, named, written, if_true]
    rw [eq, List.length_cons, ← Nat.add_assoc, Nat.add_right_comm]

/-- When every plugin before the last has its name derived and its writer
created, and the last plugin's name is derived but its writer is not, the loop
goes on with `p` at `NULL` and dereferences it. -/
theorem last_writer_failure_derefs_null (o : MergeOutcomes) (threads count : Nat)
    (pre : List MergePlugin) (last : MergePlugin) (fits : pre.length + 1 ≤ count)
    (clean : ∀ k < pre.length, o.outname k k = true ∧ o.writer k k = true)
    (named : o.outname pre.length pre.length = true) (failed : o.writer pre.length pre.length = false) :
    corsaroMergePluginOutputs o threads count (pre ++ [last]) = .error .nullPlugin := by
  obtain ⟨errors, calls, eq⟩ := mergePluginsLoop_clean o threads [last] pre 0 0 []
    fun k _ hi => clean k (by omega)
  rw [Nat.zero_add] at eq
  simp only [corsaroMergePluginOutputs, corsaroStartReaderPlugins, List.length_append,
    List.length_singleton, if_pos fits, eq, mergePluginsLoop, named, failed, if_true]
  rfl

theorem last_writer_failure_derefs_null_sample :
    [(⟨.overlapping⟩ : MergePlugin)].length + 1 ≤ 2 ∧
      (∀ k < [(⟨.overlapping⟩ : MergePlugin)].length, true = true ∧ (k != 1) = true) ∧
      corsaroMergePluginOutputs ⟨fun _ _ => true, fun k _ => k != 1, fun _ _ _ => true, fun _ _ _ => true⟩
        1 2 ([⟨.overlapping⟩] ++ [⟨.distinct⟩]) = .error .nullPlugin :=
  ⟨by decide, by decide, last_writer_failure_derefs_null _ 1 2 [⟨.overlapping⟩] ⟨.distinct⟩ (by decide)
    (by decide) rfl rfl⟩

end Corsaro.Merge
