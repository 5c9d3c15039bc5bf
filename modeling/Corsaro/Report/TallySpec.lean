import Corsaro.Report.Tally
import Mathlib.Data.Finset.Card

/-! What one interval's maps mean: the set semantics of the tally map and the
plain per-IP map that the 20-slot array with its khash promotion stands for.
The abstraction is proved by an invariant over the sequence of updates. -/
namespace Corsaro.Report

def roleIps (us : List Update) (m : Nat) (issrc : Bool) : Finset Nat :=
  ((us.filter (fun u => u.metricid = m ∧ u.issrc = issrc)).map Update.ipaddr).toFinset

def packetCount (us : List Update) (m : Nat) : Nat :=
  us.countP (fun u => u.metricid = m ∧ 0 < u.iplen.toNat)

def byteCount (us : List Update) (m : Nat) : Nat :=
  ((us.filter (fun u => u.metricid = m)).map (fun u => u.iplen.toNat)).sum

/-- The set-semantics tally of `m`. -/
def specTally (us : List Update) (m : Nat) : MetricIpHash :=
  ⟨m, (roleIps us m true).card, (roleIps us m false).card, packetCount us m, byteCount us m⟩

@[simp] theorem specTally_metricid (us : List Update) (m : Nat) : (specTally us m).metricid = m :=
  rfl

def ipMetrics (us : List Update) (ip : Nat) : Finset Nat :=
  ((us.filter (fun u => u.ipaddr = ip)).map Update.metricid).toFinset

/-- A `metval` with bit 0x01 for "seen as source" and 0x02 for "seen as destination". -/
def roleBits (src dst : Bool) : UInt8 :=
  (if src then 0x01 else 0) ||| (if dst then 0x02 else 0)

/-- The plain per-IP map from metric id to the roles the IP was seen in. -/
def seenBits (us : List Update) (ip m : Nat) : Option UInt8 :=
  if m ∈ ipMetrics us ip then
    some (roleBits (decide (ip ∈ roleIps us m true)) (decide (ip ∈ roleIps us m false)))
  else none

section Snoc

variable (us : List Update) (u : Update)

@[simp] theorem roleIps_snoc (m : Nat) (r : Bool) :
    roleIps (us ++ [u]) m r =
      if u.metricid = m ∧ u.issrc = r then insert u.ipaddr (roleIps us m r) else roleIps us m r := by
  by_cases hit : u.metricid = m ∧ u.issrc = r
  · simp [roleIps, hit, List.filter_append, Finset.insert_eq, Finset.union_comm]
  · simp only [roleIps, List.filter_append, List.map_append, List.toFinset_append, if_neg hit]
    simp [List.filter_cons, hit]

@[simp] theorem ipMetrics_snoc (ip : Nat) :
    ipMetrics (us ++ [u]) ip =
      if u.ipaddr = ip then insert u.metricid (ipMetrics us ip) else ipMetrics us ip := by
  by_cases hit : u.ipaddr = ip
  · simp [ipMetrics, hit, List.filter_append, Finset.insert_eq, Finset.union_comm]
  · simp [ipMetrics, hit, List.filter_append]

@[simp] theorem packetCount_snoc (m : Nat) :
    packetCount (us ++ [u]) m =
      packetCount us m + if u.metricid = m ∧ 0 < u.iplen.toNat then 1 else 0 := by
  simp only [packetCount, List.countP_append, List.countP_singleton]
  simp

@[simp] theorem byteCount_snoc (m : Nat) :
    byteCount (us ++ [u]) m = byteCount us m + if u.metricid = m then u.iplen.toNat else 0 := by
  by_cases hit : u.metricid = m <;> simp [byteCount, hit, List.filter_append]

end Snoc

theorem mem_ipMetrics_of_mem_roleIps {us : List Update} {ip m : Nat} {r : Bool}
    (seen : ip ∈ roleIps us m r) : m ∈ ipMetrics us ip := by
  simp only [roleIps, ipMetrics, List.mem_toFinset, List.mem_map, List.mem_filter,
    decide_eq_true_eq] at seen ⊢
  obtain ⟨v, ⟨hv, hm, _⟩, rfl⟩ := seen
  exact ⟨v, ⟨hv, rfl⟩, hm⟩

theorem seenBits_getD (us : List Update) (ip m : Nat) :
    (seenBits us ip m).getD 0 =
      roleBits (decide (ip ∈ roleIps us m true)) (decide (ip ∈ roleIps us m false)) := by
  unfold seenBits
  split
  · rfl
  · rename_i absent
    have hs : ip ∉ roleIps us m true := fun h => absent (mem_ipMetrics_of_mem_roleIps h)
    have hd : ip ∉ roleIps us m false := fun h => absent (mem_ipMetrics_of_mem_roleIps h)
    simp only [hs, hd, decide_False, roleBits]
    rfl

theorem markSeen_roleBits (s d issrc : Bool) (m : MetricIpHash) :
    markSeen (roleBits s d) issrc m =
      (roleBits (s || issrc) (d || !issrc),
        { m with
          srcips := if issrc ∧ ¬s then (m.srcips + 1) % 2 ^ 32 else m.srcips
          destips := if ¬issrc ∧ ¬d then (m.destips + 1) % 2 ^ 32 else m.destips }) := by
  cases s <;> cases d <;> cases issrc <;> rfl

/-! ### The array and its khash as one map -/

def arrayLookup (entries : List StandaloneMetric) (m : Nat) : Option UInt8 :=
  (entries.find? (fun e => e.metricid = m)).map StandaloneMetric.metval

/-- What an IP entry records for `m`: its array slot up to `METRIC_ARRAY_SIZE` metrics, then its
khash entry. -/
def IpHash.lookup (h : IpHash) (m : Nat) : Option UInt8 :=
  if h.metriccount ≤ metricArraySize then arrayLookup (h.firstmetrics.take h.metriccount) m
  else h.metricsseen m

/-- The shape an entry keeps: twenty slots, distinct ids, and a khash empty until the promotion. -/
structure IpHash.Shaped (h : IpHash) : Prop where
  slots : h.firstmetrics.length = metricArraySize
  distinct : h.metriccount ≤ metricArraySize →
    ((h.firstmetrics.take h.metriccount).map StandaloneMetric.metricid).Nodup
  unpromoted : h.metriccount ≤ metricArraySize → ∀ m, h.metricsseen m = none

theorem newIphash_shaped (ip : Nat) : (newIphash ip).Shaped :=
  ⟨by simp [newIphash], by simp [newIphash], fun _ _ => rfl⟩

@[simp] theorem newIphash_lookup (ip m : Nat) : (newIphash ip).lookup m = none := by
  simp [newIphash, IpHash.lookup, arrayLookup, metricArraySize]

theorem findIdx?_split {l : List StandaloneMetric} {m i : Nat}
    (found : l.findIdx? (fun e => e.metricid = m) = some i) :
    ∃ as x bs, l = as ++ x :: bs ∧ as.length = i ∧ x.metricid = m ∧
      ∀ a ∈ as, a.metricid ≠ m := by
  induction l generalizing i with
  | nil => simp at found
  | cons y l ih =>
    by_cases hy : y.metricid = m
    · simp only [List.findIdx?_cons, hy, decide_True, if_true, Option.some.injEq] at found
      exact ⟨[], y, l, rfl, found, hy, by simp⟩
    · simp only [List.findIdx?_cons, hy, decide_False, if_false] at found
      rw [List.findIdx?_succ] at found
      obtain ⟨j, hj, rfl⟩ := Option.map_eq_some'.mp found
      obtain ⟨as, x, bs, rfl, len, hx, ha⟩ := ih hj
      refine ⟨y :: as, x, bs, rfl, by simp [len], hx, ?_⟩
      intro a ha'
      rcases List.mem_cons.mp ha' with rfl | ha'
      · exact hy
      · exact ha a ha'

theorem arrayLookup_split (as bs : List StandaloneMetric) (x : StandaloneMetric) (m m' : Nat)
    (hx : x.metricid = m) (ha : ∀ a ∈ as, a.metricid ≠ m) :
    arrayLookup (as ++ x :: bs) m' =
      if m' = m then some x.metval else arrayLookup (as ++ bs) m' := by
  have none_in_as : as.find? (fun e => e.metricid = m) = none := by simpa using ha
  by_cases same : m' = m
  · subst same; simp [arrayLookup, List.find?_append, none_in_as, hx]
  · have hx' : ¬x.metricid = m' := fun h => same (h ▸ hx)
    simp [arrayLookup, List.find?_append, same, hx']

theorem promoteMetrics_apply (entries : List StandaloneMetric) (seen : Nat → Option UInt8)
    (distinct : (entries.map StandaloneMetric.metricid).Nodup) (m : Nat) :
    promoteMetrics entries seen m = (arrayLookup entries m).or (seen m) := by
  induction entries generalizing seen with
  | nil => simp [promoteMetrics, arrayLookup]
  | cons e entries ih =>
    simp only [List.map_cons, List.nodup_cons, List.mem_map, not_exists, not_and] at distinct
    simp only [promoteMetrics, List.foldl_cons] at ih ⊢
    rw [ih _ distinct.2]
    by_cases hit : e.metricid = m
    · subst hit
      have absent : entries.find? (fun x => x.metricid = e.metricid) = none := by
        simpa using distinct.1
      simp [absent, arrayLookup]
    · simp [arrayLookup, hit, Ne.symm hit]

/-- What one update of an entry does, read as a plain map. -/
structure EntryStep (h : IpHash) (m : Nat) (issrc : Bool) (t : MetricIpHash)
    (r : IpHash × MetricIpHash) : Prop where
  shaped : r.1.Shaped
  ipaddr : r.1.ipaddr = h.ipaddr
  lookup : r.1.lookup = Function.update h.lookup m (some (markSeen ((h.lookup m).getD 0) issrc t).1)
  count : r.1.metriccount = h.metriccount + if h.lookup m = none then 1 else 0
  tally : r.2 = (markSeen ((h.lookup m).getD 0) issrc t).2

theorem IpHash.lookup_of_le {h : IpHash} (small : h.metriccount ≤ metricArraySize) :
    h.lookup = arrayLookup (h.firstmetrics.take h.metriccount) :=
  funext fun _ => if_pos small

theorem IpHash.lookup_of_lt {h : IpHash} (big : metricArraySize < h.metriccount) :
    h.lookup = h.metricsseen :=
  funext fun _ => if_neg (Nat.not_le.mpr big)

section EntryPaths

variable {h : IpHash} {m : Nat} {issrc : Bool} {t : MetricIpHash}

theorem updateMetricMap_step (shaped : h.Shaped) (big : metricArraySize < h.metriccount)
    (room : h.metriccount + 1 < 2 ^ 32) :
    EntryStep h m issrc t (updateMetricMap h m issrc t) := by
  have old := IpHash.lookup_of_lt big
  cases hm : h.metricsseen m with
  | some v =>
    have big' : ¬h.metriccount ≤ metricArraySize := Nat.not_le.mpr big
    have r : updateMetricMap h m issrc t = ({ h with
        metricsseen := Function.update h.metricsseen m (some (markSeen v issrc t).1) },
        (markSeen v issrc t).2) := by simp [updateMetricMap, hm]
    rw [r]
    refine ⟨⟨shaped.slots, fun small => absurd small big', fun small => absurd small big'⟩,
      rfl, ?_, by simp [old, hm], by simp [old, hm]⟩
    funext x
    simp only [IpHash.lookup, if_neg big', hm, Option.getD_some, Function.update_apply]
  | none =>
    have wrap : (h.metriccount + 1) % 2 ^ 32 = h.metriccount + 1 := Nat.mod_eq_of_lt room
    have big' : ¬h.metriccount + 1 ≤ metricArraySize := by omega
    have r : updateMetricMap h m issrc t = ({ h with
        metriccount := h.metriccount + 1
        metricsseen := Function.update h.metricsseen m (some (markSeen 0 issrc t).1) },
        (markSeen 0 issrc t).2) := by simp only [updateMetricMap, hm, wrap]
    rw [r]
    refine ⟨⟨shaped.slots, fun small => absurd small big', fun small => absurd small big'⟩,
      rfl, ?_, by simp [old, hm], by simp [old, hm]⟩
    funext x
    simp only [IpHash.lookup, if_neg big', if_neg (Nat.not_le.mpr big), hm, Option.getD_none,
      Function.update_apply]

theorem updateMetricArray_found_step (shaped : h.Shaped)
    (small : h.metriccount ≤ metricArraySize) {i : Nat}
    (found : (h.firstmetrics.take h.metriccount).findIdx? (fun e => e.metricid = m) = some i) :
    EntryStep h m issrc t (updateMetricArray h m issrc t) := by
  obtain ⟨as, x, bs, split, len, hx, ha⟩ := findIdx?_split found
  have at_i : ((h.firstmetrics.take h.metriccount)[i]?).getD ⟨0, 0⟩ = x := by
    rw [split, ← len, List.getElem?_append_right (Nat.le_refl _), Nat.sub_self]
    simp
  have old : h.lookup m = some x.metval := by
    rw [IpHash.lookup_of_le small, split, arrayLookup_split as bs x m m hx ha, if_pos rfl]
  have set_used : ∀ e : StandaloneMetric,
      (h.firstmetrics.set i e).take h.metriccount = as ++ e :: bs := by
    intro e; rw [List.set_take, split, ← len]; simp
  have r : updateMetricArray h m issrc t = ({ h with
      firstmetrics := h.firstmetrics.set i ⟨m, (markSeen x.metval issrc t).1⟩ },
      (markSeen x.metval issrc t).2) := by simp [updateMetricArray, found, at_i]
  rw [r]
  refine ⟨⟨by simp [shaped.slots], fun _ => ?_, shaped.unpromoted⟩, rfl, ?_, by simp [old],
    by simp [old]⟩
  · have d := shaped.distinct small
    rw [split] at d
    simpa [set_used, hx] using d
  · funext m'
    have new_m' := arrayLookup_split as bs ⟨m, (markSeen x.metval issrc t).1⟩ m m' rfl ha
    have old_m := arrayLookup_split as bs x m m hx ha
    have old_m' := arrayLookup_split as bs x m m' hx ha
    simp only [IpHash.lookup, if_pos small, set_used, split, Function.update_apply, new_m',
      old_m, old_m', if_pos rfl, if_true, Option.getD_some]
    by_cases e : m' = m <;> simp [e]

theorem arrayLookup_snoc (l : List StandaloneMetric) (e : StandaloneMetric) (m' : Nat) :
    arrayLookup (l ++ [e]) m' =
      (arrayLookup l m').or (if e.metricid = m' then some e.metval else none) := by
  by_cases hit : e.metricid = m' <;> cases hl : l.find? (fun x => x.metricid = m') <;>
    simp [arrayLookup, List.find?_append, hit, hl]

theorem updateMetricArray_append_step (shaped : h.Shaped) (lt : h.metriccount < metricArraySize)
    (missing : (h.firstmetrics.take h.metriccount).findIdx? (fun e => e.metricid = m) = none) :
    EntryStep h m issrc t (updateMetricArray h m issrc t) := by
  have small : h.metriccount ≤ metricArraySize := Nat.le_of_lt lt
  have none_in : ∀ x ∈ h.firstmetrics.take h.metriccount, ¬x.metricid = m := by
    intro x hx; simpa using List.findIdx?_eq_none_iff.mp missing x hx
  have absent : arrayLookup (h.firstmetrics.take h.metriccount) m = none := by
    simpa [arrayLookup] using none_in
  have old : h.lookup m = none := by rw [IpHash.lookup_of_le small, absent]
  have fits : h.metriccount + 1 < 4294967296 := by simp only [metricArraySize] at lt; omega
  have set_used : ∀ e : StandaloneMetric, (h.firstmetrics.set h.metriccount e).take
      (h.metriccount + 1) = h.firstmetrics.take h.metriccount ++ [e] := by
    intro e
    have within : h.metriccount < h.firstmetrics.length := by rw [shaped.slots]; exact lt
    rw [List.set_take, List.take_succ, List.getElem?_eq_getElem within, Option.toList_some,
      List.set_append_right _ _ (by simp [Nat.le_of_lt within])]
    simp [Nat.le_of_lt within]
  have r : updateMetricArray h m issrc t = ({ h with
      firstmetrics := h.firstmetrics.set h.metriccount ⟨m, (markSeen 0 issrc t).1⟩
      metriccount := h.metriccount + 1 }, (markSeen 0 issrc t).2) := by
    simp [updateMetricArray, missing, Nat.ne_of_lt lt, Nat.mod_eq_of_lt fits]
  rw [r]
  have room : h.metriccount + 1 ≤ metricArraySize := lt
  refine ⟨⟨by simp [shaped.slots], fun _ => ?_, fun _ => shaped.unpromoted small⟩, rfl, ?_,
    by simp [old], by simp [old]⟩
  · have d := shaped.distinct small
    simp only [set_used, List.map_append, List.map_cons, List.map_nil, List.nodup_append,
      List.nodup_singleton, List.disjoint_singleton, List.mem_map, not_exists, not_and]
    exact ⟨d, trivial, fun x hx same => none_in x hx same⟩
  · funext m'
    simp only [IpHash.lookup, if_pos room, if_pos small, set_used, arrayLookup_snoc,
      Function.update_apply, absent, old, Option.getD_none]
    by_cases e : m' = m
    · subst e; simp [absent]
    · simp [e, Ne.symm e]

theorem updateMetricArray_promote_step (shaped : h.Shaped) (full : h.metriccount = metricArraySize)
    (missing : (h.firstmetrics.take h.metriccount).findIdx? (fun e => e.metricid = m) = none) :
    EntryStep h m issrc t (updateMetricArray h m issrc t) := by
  have small : h.metriccount ≤ metricArraySize := Nat.le_of_eq full
  have none_in : ∀ x ∈ h.firstmetrics.take h.metriccount, ¬x.metricid = m := by
    intro x hx; simpa using List.findIdx?_eq_none_iff.mp missing x hx
  have absent : arrayLookup (h.firstmetrics.take h.metriccount) m = none := by
    simpa [arrayLookup] using none_in
  have old : h.lookup m = none := by rw [IpHash.lookup_of_le small, absent]
  have seen : ∀ m', promoteMetrics (h.firstmetrics.take h.metriccount) h.metricsseen m' =
      h.lookup m' := by
    intro m'
    rw [promoteMetrics_apply _ _ (shaped.distinct small), shaped.unpromoted small,
      IpHash.lookup_of_le small, Option.or_none]
  have fits : h.metriccount + 1 < 2 ^ 32 := by rw [full]; decide
  have big : ¬h.metriccount + 1 ≤ metricArraySize := by omega
  have r : updateMetricArray h m issrc t = ({ h with
      metriccount := h.metriccount + 1
      metricsseen := Function.update (promoteMetrics (h.firstmetrics.take h.metriccount)
        h.metricsseen) m (some (markSeen 0 issrc t).1) }, (markSeen 0 issrc t).2) := by
    simp only [updateMetricArray, missing, if_pos full, updateMetricMap, seen, old,
      Nat.mod_eq_of_lt fits]
  rw [r]
  refine ⟨⟨shaped.slots, fun small' => absurd small' big, fun small' => absurd small' big⟩, rfl,
    ?_, by simp [old], by simp [old]⟩
  funext m'
  simp only [IpHash.lookup, if_neg big, if_pos small, Function.update_apply, seen, absent,
    Option.getD_none]

end EntryPaths

theorem entry_step {h : IpHash} (shaped : h.Shaped) (m : Nat) (issrc : Bool) (t : MetricIpHash)
    (room : h.metriccount + 1 < 2 ^ 32) :
    EntryStep h m issrc t (if h.metriccount ≤ metricArraySize
      then updateMetricArray h m issrc t else updateMetricMap h m issrc t) := by
  by_cases small : h.metriccount ≤ metricArraySize
  · rw [if_pos small]
    cases found : (h.firstmetrics.take h.metriccount).findIdx? (fun e => e.metricid = m) with
    | some i => exact updateMetricArray_found_step shaped small found
    | none =>
      rcases Nat.lt_or_eq_of_le small with lt | full
      · exact updateMetricArray_append_step shaped lt found
      · exact updateMetricArray_promote_step shaped full found
  · rw [if_neg small]
    exact updateMetricMap_step shaped (Nat.lt_of_not_le small) room

/-! ### The tally map -/

theorem find?_upsert {α : Type} (key : α → Nat) (l : List α) (k : Nat) (g : α → α) (fresh : α)
    (keeps : ∀ a, key a = k → key (g a) = k) (fresh_key : key (g fresh) = k) (m : Nat) :
    (if l.any (fun a => key a = k) then l.map (fun a => if key a = k then g a else a)
      else l ++ [g fresh]).find? (fun a => key a = m) =
      if k = m then some (g ((l.find? (fun a => key a = k)).getD fresh))
      else l.find? (fun a => key a = m) := by
  split
  · rename_i present
    rw [List.find?_map]
    have same : ((fun a => decide (key a = m)) ∘ fun a => if key a = k then g a else a) =
        fun a => decide (key a = m) := by
      funext a
      by_cases ha : key a = k <;> simp [ha, keeps a]
    rw [same]
    by_cases hk : k = m
    · subst hk
      obtain ⟨y, hy⟩ : ∃ y, l.find? (fun a => key a = k) = some y :=
        Option.isSome_iff_exists.mp (List.find?_isSome.mpr (by simpa using present))
      simp [hy, (by simpa using List.find?_some hy : key y = k)]
    · cases hy : l.find? (fun a => key a = m) with
      | none => simp [hk]
      | some y =>
        have hym : key y = m := by simpa using List.find?_some hy
        simp [hk, hym, Ne.symm hk]
  · rename_i absent
    by_cases hk : k = m
    · subst hk
      have none_k : l.find? (fun a => key a = k) = none := by simpa using absent
      simp [List.find?_append, none_k, fresh_key]
    · simp [List.find?_append, hk, fresh_key]

theorem find?_storeTally (tally : TallyMap) (m : MetricIpHash) (k : Nat) :
    (storeTally tally m).find? (fun t => t.metricid = k) =
      if m.metricid = k then some m else tally.find? (fun t => t.metricid = k) :=
  find?_upsert MetricIpHash.metricid tally m.metricid (fun _ => m) m (fun _ _ => rfl) rfl k

theorem storeTally_keys (tally : TallyMap) (m : MetricIpHash)
    (keys : (tally.map MetricIpHash.metricid).Nodup) :
    ((storeTally tally m).map MetricIpHash.metricid).Nodup := by
  unfold storeTally
  split
  · have same : (tally.map fun t => if t.metricid = m.metricid then m else t).map
        MetricIpHash.metricid = tally.map MetricIpHash.metricid := by
      rw [List.map_map]
      congr 1
      funext t
      by_cases ht : t.metricid = m.metricid <;> simp [ht]
    rwa [same]
  · rename_i absent
    simp only [List.map_append, List.map_cons, List.map_nil, List.nodup_append, keys,
      List.nodup_singleton, List.disjoint_singleton, true_and]
    simpa using absent

/-! ### The maps against the updates -/

def metricIds (us : List Update) : Finset Nat := (us.map Update.metricid).toFinset

theorem card_roleIps_le (us : List Update) (m : Nat) (r : Bool) :
    (roleIps us m r).card ≤ us.length :=
  (List.toFinset_card_le _).trans (by simpa using List.length_filter_le _ us)

theorem card_ipMetrics_le (us : List Update) (ip : Nat) : (ipMetrics us ip).card ≤ us.length :=
  (List.toFinset_card_le _).trans (by simpa using List.length_filter_le _ us)

theorem byteCount_le (us : List Update) (m : Nat) : byteCount us m ≤ us.length * 65535 := by
  induction us with
  | nil => simp [byteCount]
  | cons u us ih =>
    have hl := u.iplen.toNat_lt_size
    change u.iplen.toNat < 65536 at hl
    by_cases hit : u.metricid = m <;> simp [byteCount, List.filter_cons, hit] at ih ⊢ <;> omega

theorem specTally_of_not_mem {us : List Update} {m : Nat} (absent : m ∉ metricIds us) :
    specTally us m = newTally m := by
  simp only [metricIds, List.mem_toFinset, List.mem_map, not_exists, not_and] at absent
  have role : ∀ r : Bool, us.filter (fun u => decide (u.metricid = m ∧ u.issrc = r)) = [] :=
    fun r => List.filter_eq_nil_iff.mpr fun u hu => by simp [absent u hu]
  have onm : us.filter (fun u => decide (u.metricid = m)) = [] :=
    List.filter_eq_nil_iff.mpr fun u hu => by simp [absent u hu]
  have packets : packetCount us m = 0 :=
    List.countP_eq_zero.mpr fun u hu => by simp [absent u hu]
  simp only [specTally, newTally, roleIps, byteCount, role, onm, packets, List.map_nil,
    List.toFinset_nil, Finset.card_empty, List.sum_nil]

theorem tally_step (us : List Update) (u : Update) (fits : us.length + 1 < 2 ^ 32) :
    (markSeen ((seenBits us u.ipaddr u.metricid).getD 0) u.issrc
      (countPacket (specTally us u.metricid) u.iplen)).2 = specTally (us ++ [u]) u.metricid := by
  have hs := card_roleIps_le us u.metricid true
  have hd := card_roleIps_le us u.metricid false
  have hp : packetCount us u.metricid ≤ us.length := List.countP_le_length _
  have hb := byteCount_le us u.metricid
  have hl := u.iplen.toNat_lt_size
  change u.iplen.toNat < 65536 at hl
  rw [seenBits_getD, markSeen_roleBits]
  unfold countPacket specTally
  simp only [roleIps_snoc, packetCount_snoc, byteCount_snoc, true_and, if_true]
  by_cases src : u.ipaddr ∈ roleIps us u.metricid true <;>
    by_cases dst : u.ipaddr ∈ roleIps us u.metricid false <;>
    by_cases len : 0 < u.iplen.toNat <;> cases hi : u.issrc <;>
    simp only [src, dst, len, hi, decide_True, decide_False, if_true, if_false, and_true,
      and_false, true_and, false_and, not_true, not_false_eq_true, Finset.card_insert_of_mem,
      Finset.card_insert_of_not_mem, MetricIpHash.mk.injEq, Bool.false_eq_true,
      Bool.true_eq_false] <;>
    omega

theorem specTally_snoc_other (us : List Update) (u : Update) {m : Nat} (other : u.metricid ≠ m) :
    specTally (us ++ [u]) m = specTally us m := by
  simp [specTally, other]

theorem seenBits_snoc_other (us : List Update) (u : Update) {ip : Nat} (other : u.ipaddr ≠ ip) :
    seenBits (us ++ [u]) ip = seenBits us ip := by
  funext m
  simp only [seenBits, roleIps_snoc, ipMetrics_snoc, if_neg other]
  split_ifs <;> simp [Finset.mem_insert, Ne.symm other]

theorem seenBits_snoc_self (us : List Update) (u : Update) (t : MetricIpHash) :
    Function.update (seenBits us u.ipaddr) u.metricid
      (some (markSeen ((seenBits us u.ipaddr u.metricid).getD 0) u.issrc t).1) =
      seenBits (us ++ [u]) u.ipaddr := by
  funext m
  rw [seenBits_getD, markSeen_roleBits]
  by_cases same : m = u.metricid
  · subst same
    cases hi : u.issrc <;> simp [seenBits, hi]
  · have other : u.metricid ≠ m := Ne.symm same
    simp [seenBits, same, other]

/-- The maps agree with the updates `us`: the set-semantics tallies, and each IP entry the plain
map. -/
structure MapsCorrect (s : IntervalMaps) (us : List Update) : Prop where
  tally : ∀ m, s.tally.find? (fun t => t.metricid = m) =
    if m ∈ metricIds us then some (specTally us m) else none
  keys : (s.tally.map MetricIpHash.metricid).Nodup
  unseen : ∀ ip, s.knownips ip = none → ipMetrics us ip = ∅
  entry : ∀ ip h, s.knownips ip = some h → h.ipaddr = ip ∧ h.Shaped ∧
    h.metriccount = (ipMetrics us ip).card ∧ h.lookup = seenBits us ip

/-- The tally map holds the set-semantics tally of every metric the updates `us` touch, and no
other. -/
def TallyMatches (us : List Update) (tally : TallyMap) : Prop :=
  ∀ m, tally.find? (fun t => t.metricid = m) = if m ∈ metricIds us then some (specTally us m) else none

theorem MapsCorrect.tallyMatches {s : IntervalMaps} {us : List Update} (inv : MapsCorrect s us) :
    TallyMatches us s.tally :=
  inv.tally

theorem empty_correct : MapsCorrect IntervalMaps.empty [] :=
  ⟨fun m => by simp [IntervalMaps.empty, metricIds], List.nodup_nil,
    fun ip _ => by simp [ipMetrics], fun ip h found => by simp [IntervalMaps.empty] at found⟩

theorem updateIphash_correct {s : IntervalMaps} {us : List Update} (inv : MapsCorrect s us)
    (ip : Nat) :
    (updateIphash s.knownips ip).ipaddr = ip ∧ (updateIphash s.knownips ip).Shaped ∧
      (updateIphash s.knownips ip).metriccount = (ipMetrics us ip).card ∧
      (updateIphash s.knownips ip).lookup = seenBits us ip := by
  cases found : s.knownips ip with
  | some h => simpa [updateIphash, found] using inv.entry ip h found
  | none =>
    have empty := inv.unseen ip found
    simp only [updateIphash, found, Option.getD_none]
    refine ⟨rfl, newIphash_shaped ip, by simp [empty, newIphash], ?_⟩
    funext m
    simp [seenBits, empty]

theorem applyUpdate_eq (s : IntervalMaps) (u : Update) :
    applyUpdate s u =
      let h := updateIphash s.knownips u.ipaddr
      let t := countPacket
        ((s.tally.find? (fun t => t.metricid = u.metricid)).getD (newTally u.metricid)) u.iplen
      let r := if h.metriccount ≤ metricArraySize then updateMetricArray h u.metricid u.issrc t
        else updateMetricMap h u.metricid u.issrc t
      ⟨Function.update s.knownips u.ipaddr (some r.1), storeTally s.tally r.2⟩ := rfl

theorem applyUpdate_correct {s : IntervalMaps} {us : List Update} (inv : MapsCorrect s us)
    (u : Update) (fits : us.length + 1 < 2 ^ 32) : MapsCorrect (applyUpdate s u) (us ++ [u]) := by
  obtain ⟨hip, shaped, count, look⟩ := updateIphash_correct inv u.ipaddr
  have start : (s.tally.find? (fun t => t.metricid = u.metricid)).getD (newTally u.metricid) =
      specTally us u.metricid := by
    rw [inv.tally]
    split_ifs with known
    · rfl
    · exact (specTally_of_not_mem known).symm
  have room : (updateIphash s.knownips u.ipaddr).metriccount + 1 < 2 ^ 32 := by
    have := card_ipMetrics_le us u.ipaddr; omega
  have step := entry_step shaped u.metricid u.issrc (countPacket (specTally us u.metricid) u.iplen)
    room
  have newTally' : (if (updateIphash s.knownips u.ipaddr).metriccount ≤ metricArraySize then
      updateMetricArray (updateIphash s.knownips u.ipaddr) u.metricid u.issrc
        (countPacket (specTally us u.metricid) u.iplen)
      else updateMetricMap (updateIphash s.knownips u.ipaddr) u.metricid u.issrc
        (countPacket (specTally us u.metricid) u.iplen)).2 = specTally (us ++ [u]) u.metricid := by
    rw [step.tally, look, tally_step us u fits]
  rw [applyUpdate_eq]
  simp only [start]
  refine ⟨fun m => ?_, storeTally_keys _ _ inv.keys, fun ip absent => ?_, fun ip h found => ?_⟩
  · rw [find?_storeTally, newTally']
    by_cases same : u.metricid = m
    · subst same; simp [metricIds]
    · simp only [specTally_metricid, same, if_false, inv.tally, metricIds, List.map_append,
        List.toFinset_append, List.map_cons, List.map_nil, List.toFinset_cons, List.toFinset_nil,
        insert_emptyc_eq, Finset.mem_union, Finset.mem_singleton, Ne.symm same, or_false]
      split_ifs <;> simp [specTally_snoc_other us u same]
  · by_cases same : u.ipaddr = ip
    · subst same; simp at absent
    · simp only [Function.update_apply, Ne.symm same, if_false] at absent
      simpa [same] using inv.unseen ip absent
  · by_cases same : u.ipaddr = ip
    · subst same
      simp only [Function.update_same, Option.some.injEq] at found
      subst found
      refine ⟨step.ipaddr.trans hip, step.shaped, ?_, by rw [step.lookup, look, seenBits_snoc_self]⟩
      rw [step.count, count, look, ipMetrics_snoc, if_pos rfl, Finset.card_insert_eq_ite]
      by_cases known : u.metricid ∈ ipMetrics us u.ipaddr <;> simp [known, seenBits]
    · simp only [Function.update_apply, Ne.symm same, if_false] at found
      obtain ⟨a, b, c, d⟩ := inv.entry ip h found
      exact ⟨a, b, by simp [c, same], by rw [d, seenBits_snoc_other us u same]⟩

theorem applyUpdates_correct (us vs : List Update) (s : IntervalMaps) (inv : MapsCorrect s us)
    (fits : us.length + vs.length < 2 ^ 32) :
    MapsCorrect (vs.foldl applyUpdate s) (us ++ vs) := by
  induction vs generalizing s us with
  | nil => simpa using inv
  | cons v vs ih =>
    have next := applyUpdate_correct inv v (by simp at fits; omega)
    simpa using ih (us ++ [v]) (applyUpdate s v) next (by simp at fits ⊢; omega)

/-- One interval's maps after the updates `us` hold their set semantics, tallies and IP entries
alike. -/
structure SetSemantics (us : List Update) (s : IntervalMaps) : Prop where
  tally : ∀ m, s.tally.find? (fun t => t.metricid = m) =
    if m ∈ metricIds us then some (specTally us m) else none
  entries : ∀ ip h, s.knownips ip = some h →
    (∀ m, h.lookup m = seenBits us ip m) ∧ h.metriccount = (ipMetrics us ip).card

/-- Fewer than 2^32 updates from empty maps give the set semantics: the
array, its one-time promotion into the khash and the khash agree with the
plain per-IP map on every sequence, and the 32-bit counters never wrap. -/
theorem maps_refine_set_semantics (us : List Update) (fits : us.length < 2 ^ 32) :
    SetSemantics us (us.foldl applyUpdate IntervalMaps.empty) := by
  have inv := applyUpdates_correct [] us IntervalMaps.empty empty_correct (by simpa using fits)
  simp only [List.nil_append] at inv
  exact ⟨inv.tally, fun ip h found =>
    let e := inv.entry ip h found; ⟨fun m => congrFun e.2.2.2 m, e.2.2.1⟩⟩

theorem maps_refine_set_semantics_sample :
    [(⟨5, 0, true, 40⟩ : Update), ⟨9, 0, false, 0⟩].length < 2 ^ 32 ∧
      SetSemantics [⟨5, 0, true, 40⟩, ⟨9, 0, false, 0⟩]
        ([(⟨5, 0, true, 40⟩ : Update), ⟨9, 0, false, 0⟩].foldl applyUpdate IntervalMaps.empty) :=
  ⟨by decide, maps_refine_set_semantics _ (by decide)⟩

def oneByteSource : Update := ⟨0, 0, true, 1⟩

def afterOneByteSources (k : Nat) : IntervalMaps :=
  ⟨Function.update (fun _ => none) 0
      (some ⟨0, ⟨0, 1⟩ :: List.replicate 19 ⟨0, 0⟩, 1, fun _ => none⟩),
    [⟨0, 1, 0, k % 2 ^ 32, k % 2 ^ 64⟩]⟩

theorem oneByteSources_run (n : Nat) :
    (List.replicate (n + 1) oneByteSource).foldl applyUpdate IntervalMaps.empty =
      afterOneByteSources (n + 1) := by
  induction n with
  | zero =>
    simp only [List.replicate, List.foldl, applyUpdate_eq]
    simp +decide [IntervalMaps.empty, afterOneByteSources, updateIphash, newIphash, countPacket,
      newTally, updateMetricArray, storeTally, metricArraySize, markSeen, oneByteSource]
    rfl
  | succ n ih =>
    rw [List.replicate_succ', List.foldl_append, ih, List.foldl_cons, List.foldl_nil,
      applyUpdate_eq]
    simp +decide [afterOneByteSources, updateIphash, countPacket, updateMetricArray, storeTally,
      metricArraySize, markSeen, oneByteSource, Nat.mod_add_mod]

theorem not_setSemantics_of_wrap (n : Nat) (wraps : (n + 1) % 2 ^ 32 = 0) :
    ¬SetSemantics (List.replicate (n + 1) oneByteSource)
      ((List.replicate (n + 1) oneByteSource).foldl applyUpdate IntervalMaps.empty) := by
  intro sem
  have t := sem.tally 0
  have seen : 0 ∈ metricIds (List.replicate (n + 1) oneByteSource) := by
    simp [metricIds, oneByteSource]
  have counted : packetCount (List.replicate (n + 1) oneByteSource) 0 = n + 1 := by
    simp [packetCount, List.countP_replicate, oneByteSource]
  rw [oneByteSources_run, if_pos seen] at t
  simp only [afterOneByteSources, List.find?, decide_True, Option.some.injEq] at t
  have packets := congrArg MetricIpHash.packets t
  simp only [specTally, counted, wraps] at packets
  omega

/-- 2^32 observations of one packet each wrap the 32-bit packet counter to 0,
so the tally does not count them. -/
theorem packets_wrap_after_2_32_updates :
    ¬SetSemantics (List.replicate (2 ^ 32) oneByteSource)
      ((List.replicate (2 ^ 32) oneByteSource).foldl applyUpdate IntervalMaps.empty) :=
  not_setSemantics_of_wrap (2 ^ 32 - 1) rfl

end Corsaro.Report
