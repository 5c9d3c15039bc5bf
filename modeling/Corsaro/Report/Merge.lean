import Corsaro.Report.Processing
import Corsaro.Report.TallySpec
import Mathlib.Algebra.BigOperators.Group.Finset

/-! The merge thread's side of one interval: `update_tracker_results` adds each
tracker's published tally into the combined result map, metric by metric, in
the order the polling loop of `corsaro_report_merge_interval_results` takes the
trackers' mutexes. Every address goes to one tracker, so the trackers' distinct
counts add up to the distinct counts over all packets of the interval. -/
namespace Corsaro.Report

/-- `corsaro_report_result_t` without its label, metric strings, allocator blob and hash handle. -/
structure ReportResult where
  metricid : Nat
  pktCnt : Nat
  bytes : Nat
  uniqSrcIps : Nat
  uniqDstIps : Nat
  attimestamp : Nat
  deriving DecidableEq, Repr

/-- The combined result map, a uthash: its results in insertion order. -/
abbrev ResultMap := List ReportResult

def newResult (metricid ts : Nat) : ReportResult := ⟨metricid, 0, 0, 0, 0, ts⟩

def ReportResult.addTally (r : ReportResult) (iter : MetricIpHash) : ReportResult :=
  { r with
    uniqSrcIps := (r.uniqSrcIps + iter.srcips) % 2 ^ 32
    uniqDstIps := (r.uniqDstIps + iter.destips) % 2 ^ 32
    pktCnt := (r.pktCnt + iter.packets) % 2 ^ 64
    bytes := (r.bytes + iter.bytes) % 2 ^ 64 }

/-- One pass of the loop of `update_tracker_results`: find or add the metric's result, and add the
tally into it. -/
def mergeTally (ts : Nat) (results : ResultMap) (iter : MetricIpHash) : ResultMap :=
  if results.any (fun r => r.metricid = iter.metricid) then
    results.map (fun r => if r.metricid = iter.metricid then r.addTally iter else r)
  else results ++ [(newResult iter.metricid ts).addTally iter]

def updateTrackerResults (results : ResultMap) (lastresult : TallyMap) (ts : Nat) : ResultMap :=
  lastresult.foldl (mergeTally ts) results

/-- The polling loop when every tracker has published the interval `ts`: the tallies merged in the
order read. -/
def mergeTrackers (ts : Nat) (tallies : List TallyMap) : ResultMap :=
  tallies.foldl (fun results tally => updateTrackerResults results tally ts) []

/-! ### The packets of an interval and the trackers they reach -/

/-- A packet `corsaro_report_process_packet` accepts: what `extract_addresses` read, and its tags.
-/
structure Packet where
  src : Nat
  dst : Nat
  iplen : UInt16
  tags : Option PacketTags

def Packet.event (p : Packet) : ProcEvent := .packet p.src p.dst p.iplen p.tags

def Packet.bodies (p : Packet) : List MsgBody :=
  [processTags p.tags p.iplen p.src true, processTags p.tags p.iplen p.dst false]

def Packet.updates (p : Packet) : List Update := p.bodies.flatMap MsgBody.updates

/-- The bodies `update_metrics_for_address` sends to tracker `t`, in order. -/
def routedBodies (trackerCount t : Nat) (ps : List Packet) : List MsgBody :=
  (ps.flatMap Packet.bodies).filter (fun b => trackerHash trackerCount b.ipaddr = t)

/-- The tally tracker `t` publishes for an interval whose packets are `ps`. -/
def trackerTally (trackerCount t : Nat) (ps : List Packet) : TallyMap :=
  ((routedBodies trackerCount t ps).foldl IntervalMaps.applyBody .empty).tally

@[simp] theorem processTags_ipaddr (tags : Option PacketTags) (iplen : UInt16) (addr : Nat)
    (issrc : Bool) : (processTags tags iplen addr issrc).ipaddr = addr := rfl

/-! ### The result of one metric -/

def mergeInto (ts m : Nat) (r : Option ReportResult) : Option MetricIpHash → Option ReportResult
  | some iter => some ((r.getD (newResult m ts)).addTally iter)
  | none => r

@[simp] theorem addTally_metricid (r : ReportResult) (iter : MetricIpHash) :
    (r.addTally iter).metricid = r.metricid := rfl

theorem find?_mergeTally (ts : Nat) (results : ResultMap) (iter : MetricIpHash) (m : Nat) :
    (mergeTally ts results iter).find? (fun r => r.metricid = m) =
      if iter.metricid = m then
        some (((results.find? (fun r => r.metricid = m)).getD (newResult m ts)).addTally iter)
      else results.find? (fun r => r.metricid = m) := by
  rw [mergeTally, find?_upsert ReportResult.metricid results iter.metricid (·.addTally iter)
    (newResult iter.metricid ts) (fun _ same => same) rfl m]
  split_ifs with same
  · subst same; rfl
  · rfl

theorem find?_updateTrackerResults (results : ResultMap) (lastresult : TallyMap) (ts m : Nat)
    (keys : (lastresult.map MetricIpHash.metricid).Nodup) :
    (updateTrackerResults results lastresult ts).find? (fun r => r.metricid = m) =
      mergeInto ts m (results.find? (fun r => r.metricid = m))
        (lastresult.find? (fun t => t.metricid = m)) := by
  induction lastresult generalizing results with
  | nil => rfl
  | cons iter rest ih =>
    obtain ⟨fresh, keys⟩ := List.nodup_cons.mp keys
    rw [updateTrackerResults, List.foldl_cons, ← updateTrackerResults, ih _ keys,
      find?_mergeTally, List.find?_cons]
    by_cases same : iter.metricid = m
    · subst same
      have absent : rest.find? (fun t => t.metricid = iter.metricid) = none :=
        List.find?_eq_none.mpr fun t mem hit => fresh (List.mem_map.mpr ⟨t, mem, by simpa using hit⟩)
      simp [absent, mergeInto]
    · simp [same]

theorem find?_mergeTrackers (ts m : Nat) (tallies : List TallyMap)
    (keys : ∀ tally ∈ tallies, (tally.map MetricIpHash.metricid).Nodup) :
    (mergeTrackers ts tallies).find? (fun r => r.metricid = m) =
      tallies.foldl (fun r tally => mergeInto ts m r (tally.find? (fun t => t.metricid = m)))
        none := by
  suffices from_any : ∀ results : ResultMap,
      (tallies.foldl (fun results tally => updateTrackerResults results tally ts) results).find?
        (fun r => r.metricid = m) =
      tallies.foldl (fun r tally => mergeInto ts m r (tally.find? (fun t => t.metricid = m)))
        (results.find? (fun r => r.metricid = m)) from from_any []
  induction tallies with
  | nil => intro results; rfl
  | cons tally rest ih =>
    intro results
    rw [List.foldl_cons, List.foldl_cons, ih (fun t mem => keys t (List.mem_cons_of_mem _ mem)),
      find?_updateTrackerResults _ _ _ _ (keys tally (List.mem_cons_self _ _))]

/-- The result `r` with the tallies added, each sum taken exactly and wrapped at the width of its
field. -/
def ReportResult.addAll (r : ReportResult) (tallies : List MetricIpHash) : ReportResult :=
  { r with
    uniqSrcIps := (r.uniqSrcIps + (tallies.map (·.srcips)).sum) % 2 ^ 32
    uniqDstIps := (r.uniqDstIps + (tallies.map (·.destips)).sum) % 2 ^ 32
    pktCnt := (r.pktCnt + (tallies.map (·.packets)).sum) % 2 ^ 64
    bytes := (r.bytes + (tallies.map (·.bytes)).sum) % 2 ^ 64 }

theorem addTally_addAll (r : ReportResult) (iter : MetricIpHash) (tallies : List MetricIpHash) :
    (r.addTally iter).addAll tallies = r.addAll (iter :: tallies) := by
  simp only [ReportResult.addAll, ReportResult.addTally, List.map_cons, List.sum_cons,
    Nat.mod_add_mod, Nat.add_assoc]

theorem foldl_addTally (r : ReportResult) (iter : MetricIpHash) (tallies : List MetricIpHash) :
    tallies.foldl ReportResult.addTally (r.addTally iter) = r.addAll (iter :: tallies) := by
  induction tallies generalizing r iter with
  | nil => simp [ReportResult.addAll, ReportResult.addTally]
  | cons next rest ih => rw [List.foldl_cons, ih, addTally_addAll]

theorem foldl_mergeInto_some (ts m : Nat) (found : List (Option MetricIpHash)) (r : ReportResult) :
    found.foldl (mergeInto ts m) (some r) = some ((found.filterMap id).foldl ReportResult.addTally r) := by
  induction found generalizing r with
  | nil => rfl
  | cons o rest ih => cases o <;> simp [mergeInto, ih]

theorem foldl_mergeInto (ts m : Nat) (found : List (Option MetricIpHash)) :
    found.foldl (mergeInto ts m) none =
      if found.filterMap id = [] then none
      else some ((newResult m ts).addAll (found.filterMap id)) := by
  induction found with
  | nil => rfl
  | cons o rest ih =>
    cases o with
    | none => simpa [mergeInto] using ih
    | some iter =>
      simp only [List.foldl_cons, mergeInto, Option.getD_none, foldl_mergeInto_some,
        foldl_addTally, List.filterMap_cons, id, reduceCtorEq, if_false]

/-! ### Merging set-semantics tallies -/

theorem sum_filterMap_lookup (order : List Nat) (P : Nat → Prop) [DecidablePred P]
    (F : Nat → MetricIpHash) (f : MetricIpHash → Nat) (zero : ∀ t, ¬P t → f (F t) = 0) :
    ((order.filterMap fun t => if P t then some (F t) else none).map f).sum =
      (order.map fun t => f (F t)).sum := by
  induction order with
  | nil => rfl
  | cons t rest ih => by_cases hit : P t <;> simp [List.filterMap_cons, hit, ih, zero]

theorem merged_of_tallyMatches (ts m : Nat) (order : List Nat) (us : Nat → List Update)
    (tallies : Nat → TallyMap) (agree : ∀ t ∈ order, TallyMatches (us t) (tallies t))
    (keys : ∀ t ∈ order, ((tallies t).map MetricIpHash.metricid).Nodup) :
    (mergeTrackers ts (order.map tallies)).find? (fun r => r.metricid = m) =
      if ∀ t ∈ order, m ∉ metricIds (us t) then none
      else some ⟨m, (order.map fun t => packetCount (us t) m).sum % 2 ^ 64,
        (order.map fun t => byteCount (us t) m).sum % 2 ^ 64,
        (order.map fun t => (roleIps (us t) m true).card).sum % 2 ^ 32,
        (order.map fun t => (roleIps (us t) m false).card).sum % 2 ^ 32, ts⟩ := by
  have lookups : order.map (fun t => (tallies t).find? (fun r => r.metricid = m)) =
      order.map (fun t => if m ∈ metricIds (us t) then some (specTally (us t) m) else none) :=
    List.map_congr_left fun t mem => agree t mem m
  have sums : ∀ f : MetricIpHash → Nat, f (newTally m) = 0 →
      ((order.filterMap fun t => if m ∈ metricIds (us t) then some (specTally (us t) m) else none).map
        f).sum = (order.map fun t => f (specTally (us t) m)).sum := fun f zero =>
    sum_filterMap_lookup _ _ _ _ fun t absent => by rw [specTally_of_not_mem absent, zero]
  rw [find?_mergeTrackers _ _ _ (by simpa using keys), List.foldl_map,
    ← List.foldl_map (fun t => (tallies t).find? (fun r => r.metricid = m)), foldl_mergeInto,
    lookups, List.filterMap_map, Function.id_comp]
  by_cases unseen : ∀ t ∈ order, m ∉ metricIds (us t)
  · rw [if_pos (List.filterMap_eq_nil_iff.mpr fun t mem => by simp [unseen t mem]), if_pos unseen]
  · rw [if_neg (fun none_seen => unseen fun t mem seen => by
      simpa [seen] using List.filterMap_eq_nil_iff.mp none_seen t mem), if_neg unseen]
    simp only [ReportResult.addAll, newResult, Nat.zero_add]
    rw [sums MetricIpHash.packets rfl, sums MetricIpHash.bytes rfl, sums MetricIpHash.srcips rfl,
      sums MetricIpHash.destips rfl]
    rfl

/-! ### Observations partitioned over the trackers -/

def byTracker (trackerCount t : Nat) (us : List Update) : List Update :=
  us.filter (fun u => trackerHash trackerCount u.ipaddr = t)

theorem filter_byTracker (p : Update → Bool) (trackerCount t : Nat) (us : List Update) :
    (byTracker trackerCount t us).filter p = byTracker trackerCount t (us.filter p) := by
  simp only [byTracker, List.filter_filter, Bool.and_comm]

theorem sum_fibers {α : Type} (T : Finset Nat) (key : α → Nat) (f : α → Nat) (l : List α)
    (inside : ∀ a ∈ l, key a ∈ T) :
    ∑ t ∈ T, ((l.filter fun a => key a = t).map f).sum = (l.map f).sum := by
  induction l with
  | nil => simp
  | cons a l ih =>
    have split : ∀ t, (((a :: l).filter fun a => key a = t).map f).sum =
        (if key a = t then f a else 0) + ((l.filter fun a => key a = t).map f).sum := by
      intro t; by_cases h : key a = t <;> simp [List.filter_cons, h, Nat.add_comm]
    rw [Finset.sum_congr rfl fun t _ => split t, Finset.sum_add_distrib, Finset.sum_ite_eq,
      if_pos (inside a (List.mem_cons_self a l)),
      ih fun b mem => inside b (List.mem_cons_of_mem a mem), List.map_cons, List.sum_cons]

section Partition

variable {trackerCount : Nat} {order : List Nat} (visits : order.Perm (List.range trackerCount))
  (pos : 0 < trackerCount)
include visits pos

theorem trackerHash_mem (addr : Nat) : trackerHash trackerCount addr ∈ order.toFinset :=
  List.mem_toFinset.mpr (visits.mem_iff.mpr (List.mem_range.mpr (Nat.mod_lt _ pos)))

omit pos in
theorem sum_order (f : Nat → Nat) : (order.map f).sum = ∑ t ∈ order.toFinset, f t :=
  (List.sum_toFinset f (visits.nodup_iff.mpr (List.nodup_range _))).symm

theorem sum_packetCount_byTracker (us : List Update) (m : Nat) :
    (order.map fun t => packetCount (byTracker trackerCount t us) m).sum = packetCount us m := by
  have ones : ∀ l : List Update, l.length = (l.map fun _ => (1 : Nat)).sum := fun l => by
    induction l with
    | nil => rfl
    | cons _ _ ih => simp only [List.length_cons, List.map_cons, List.sum_cons, ih]; omega
  simp only [sum_order visits, packetCount, List.countP_eq_length_filter, filter_byTracker, ones]
  exact sum_fibers _ _ _ _ fun (u : Update) _ => trackerHash_mem visits pos u.ipaddr

theorem sum_byteCount_byTracker (us : List Update) (m : Nat) :
    (order.map fun t => byteCount (byTracker trackerCount t us) m).sum = byteCount us m := by
  simp only [sum_order visits, byteCount, filter_byTracker]
  exact sum_fibers _ _ _ _ fun (u : Update) _ => trackerHash_mem visits pos u.ipaddr

theorem sum_card_roleIps_byTracker (us : List Update) (m : Nat) (r : Bool) :
    (order.map fun t => (roleIps (byTracker trackerCount t us) m r).card).sum =
      (roleIps us m r).card := by
  have parts : ∀ t, roleIps (byTracker trackerCount t us) m r =
      (roleIps us m r).filter fun a => trackerHash trackerCount a = t := by
    intro t
    ext a
    simp only [roleIps, byTracker, List.mem_toFinset, List.mem_map,
      List.mem_filter, Finset.mem_filter, decide_eq_true_eq]
    constructor
    · rintro ⟨u, ⟨⟨found, hash⟩, same⟩, rfl⟩; exact ⟨⟨u, ⟨found, same⟩, rfl⟩, hash⟩
    · rintro ⟨⟨u, ⟨found, same⟩, rfl⟩, hash⟩; exact ⟨u, ⟨⟨found, hash⟩, same⟩, rfl⟩
  rw [sum_order visits, Finset.card_eq_sum_card_fiberwise fun a _ => trackerHash_mem visits pos a]
  exact Finset.sum_congr rfl fun t _ => by rw [parts]

theorem unseen_byTracker_iff (us : List Update) (m : Nat) :
    (∀ t ∈ order, m ∉ metricIds (byTracker trackerCount t us)) ↔ m ∉ metricIds us := by
  simp only [metricIds, byTracker, List.mem_toFinset, List.mem_map, List.mem_filter]
  constructor
  · rintro unseen ⟨u, mem, rfl⟩
    exact unseen _ (List.mem_toFinset.mp (trackerHash_mem visits pos u.ipaddr)) ⟨u, ⟨mem, by simp⟩, rfl⟩
  · rintro unseen t _ ⟨u, ⟨mem, _⟩, rfl⟩
    exact unseen ⟨u, mem, rfl⟩

theorem merged_of_partition (ts m : Nat) (us : List Update) (tallies : Nat → TallyMap)
    (agree : ∀ t ∈ order, TallyMatches (byTracker trackerCount t us) (tallies t))
    (keys : ∀ t ∈ order, ((tallies t).map MetricIpHash.metricid).Nodup) :
    (mergeTrackers ts (order.map tallies)).find? (fun r => r.metricid = m) =
      if m ∉ metricIds us then none
      else some ⟨m, packetCount us m % 2 ^ 64, byteCount us m % 2 ^ 64,
        (roleIps us m true).card % 2 ^ 32, (roleIps us m false).card % 2 ^ 32, ts⟩ := by
  rw [merged_of_tallyMatches ts m order _ tallies agree keys]
  simp only [unseen_byTracker_iff visits pos, sum_packetCount_byTracker visits pos,
    sum_byteCount_byTracker visits pos, sum_card_roleIps_byTracker visits pos]

end Partition

/-! ### The trackers' tallies of an interval's packets -/

theorem filter_updates_of_hash (b : MsgBody) (trackerCount t : Nat) :
    b.updates.filter (fun u => trackerHash trackerCount u.ipaddr = t) =
      if trackerHash trackerCount b.ipaddr = t then b.updates else [] := by
  split_ifs with hit
  · exact List.filter_eq_self.mpr fun u mem => by
      obtain ⟨_, _, rfl⟩ := List.mem_map.mp mem; simpa using hit
  · exact List.filter_eq_nil_iff.mpr fun u mem => by
      obtain ⟨_, _, rfl⟩ := List.mem_map.mp mem; simpa using hit

theorem routedBodies_updates (trackerCount t : Nat) (ps : List Packet) :
    (routedBodies trackerCount t ps).flatMap MsgBody.updates =
      byTracker trackerCount t (ps.flatMap Packet.updates) := by
  have split : ∀ bodies : List MsgBody,
      (bodies.filter fun b => trackerHash trackerCount b.ipaddr = t).flatMap MsgBody.updates =
        byTracker trackerCount t (bodies.flatMap MsgBody.updates) := by
    intro bodies
    induction bodies with
    | nil => rfl
    | cons b rest ih =>
      rw [List.filter_cons, List.flatMap_cons, byTracker, List.filter_append,
        filter_updates_of_hash, ← byTracker, ← ih]
      by_cases hit : trackerHash trackerCount b.ipaddr = t <;> simp [hit]
  rw [routedBodies, split, List.flatMap_assoc]
  rfl

theorem trackerTally_matches (trackerCount t : Nat) (ps : List Packet)
    (fits : (ps.flatMap Packet.updates).length < 2 ^ 32) :
    TallyMatches (byTracker trackerCount t (ps.flatMap Packet.updates))
        (trackerTally trackerCount t ps) ∧
      ((trackerTally trackerCount t ps).map MetricIpHash.metricid).Nodup := by
  have share : (byTracker trackerCount t (ps.flatMap Packet.updates)).length < 2 ^ 32 :=
    Nat.lt_of_le_of_lt (List.length_filter_le _ _) fits
  have inv := applyUpdates_correct [] _ IntervalMaps.empty empty_correct (by simpa using share)
  rw [List.nil_append] at inv
  rw [trackerTally, applyBodies_eq_updates, routedBodies_updates]
  exact ⟨inv.tallyMatches, inv.keys⟩

/-! ### The packet-level reference -/

def carrying (ps : List Packet) (m : Nat) : List Packet :=
  ps.filter (fun p => m ∈ packetTagIds p.tags)

/-- The packet-level reference of metric `m` over the packets `ps`: their count, their IP bytes, and
their distinct source and destination addresses; no result when no packet carries `m`. -/
def referenceResult (ps : List Packet) (ts m : Nat) : Option ReportResult :=
  if (carrying ps m).isEmpty then none
  else some ⟨m, (carrying ps m).length, ((carrying ps m).map fun p => p.iplen.toNat).sum,
    ((carrying ps m).map Packet.src).toFinset.card,
    ((carrying ps m).map Packet.dst).toFinset.card, ts⟩

theorem Packet.updates_eq (p : Packet) :
    p.updates = (packetTagIds p.tags).map (fun m => ⟨p.src, m, true, p.iplen⟩) ++
      (packetTagIds p.tags).map (fun m => ⟨p.dst, m, false, 0⟩) := by
  simp [Packet.updates, Packet.bodies, MsgBody.updates, processTags]

theorem filter_eq_of_nodup {l : List Nat} (distinct : l.Nodup) (m : Nat) :
    l.filter (fun x => x = m) = if m ∈ l then [m] else [] := by
  induction l with
  | nil => rfl
  | cons a l ih =>
    obtain ⟨fresh, distinct⟩ := List.nodup_cons.mp distinct
    by_cases same : a = m
    · subst same
      simp [List.filter_cons, (List.filter_eq_nil_iff.mpr fun x mem hit =>
        fresh (by simpa [← of_decide_eq_true hit] using mem) :
          l.filter (fun x => x = a) = [])]
    · simp [List.filter_cons, same, ih distinct, Ne.symm same]

theorem packetCount_append (us vs : List Update) (m : Nat) :
    packetCount (us ++ vs) m = packetCount us m + packetCount vs m := by
  simp only [packetCount, List.countP_append]

theorem byteCount_append (us vs : List Update) (m : Nat) :
    byteCount (us ++ vs) m = byteCount us m + byteCount vs m := by
  simp [byteCount]

theorem countP_eq_of_nodup {l : List Nat} (distinct : l.Nodup) (m : Nat) :
    l.countP (fun x => x = m) = if m ∈ l then 1 else 0 := by
  rw [List.countP_eq_length_filter, filter_eq_of_nodup distinct]
  split_ifs <;> rfl

theorem packetCount_packet (p : Packet) (m : Nat) (sized : 0 < p.iplen.toNat) :
    packetCount p.updates m = if m ∈ packetTagIds p.tags then 1 else 0 := by
  have dst : ((packetTagIds p.tags).map fun m => (⟨p.dst, m, false, 0⟩ : Update)).countP
      (fun u => decide (u.metricid = m ∧ 0 < u.iplen.toNat)) = 0 :=
    List.countP_eq_zero.mpr fun u mem => by obtain ⟨_, _, rfl⟩ := List.mem_map.mp mem; simp
  rw [Packet.updates_eq, packetCount_append, packetCount, packetCount, dst, Nat.add_zero,
    List.countP_map, ← countP_eq_of_nodup (packetTagIds_nodup p.tags) m]
  exact List.countP_congr fun x _ => by simp [sized]

theorem byteCount_packet (p : Packet) (m : Nat) :
    byteCount p.updates m = if m ∈ packetTagIds p.tags then p.iplen.toNat else 0 := by
  have once := filter_eq_of_nodup (packetTagIds_nodup p.tags) m
  rw [Packet.updates_eq, byteCount_append, byteCount, byteCount, List.filter_map, List.filter_map]
  simp only [Function.comp_def, List.map_map, once]
  split_ifs <;> simp

section Packets

variable (ps : List Packet) (m : Nat)

theorem packetCount_packets (sized : ∀ p ∈ ps, 0 < p.iplen.toNat) :
    packetCount (ps.flatMap Packet.updates) m = (carrying ps m).length := by
  induction ps with
  | nil => rfl
  | cons p ps ih =>
    rw [List.flatMap_cons, packetCount_append, packetCount_packet p m (sized p (List.mem_cons_self _ _)),
      ih fun q mem => sized q (List.mem_cons_of_mem _ mem)]
    by_cases hit : m ∈ packetTagIds p.tags <;> simp [carrying, List.filter_cons, hit, Nat.add_comm]

theorem byteCount_packets :
    byteCount (ps.flatMap Packet.updates) m = ((carrying ps m).map fun p => p.iplen.toNat).sum := by
  induction ps with
  | nil => rfl
  | cons p ps ih =>
    rw [List.flatMap_cons, byteCount_append, byteCount_packet, ih]
    by_cases hit : m ∈ packetTagIds p.tags <;> simp [carrying, List.filter_cons, hit]

theorem roleIps_packets :
    roleIps (ps.flatMap Packet.updates) m true = ((carrying ps m).map Packet.src).toFinset ∧
      roleIps (ps.flatMap Packet.updates) m false = ((carrying ps m).map Packet.dst).toFinset := by
  constructor <;> ext a <;> simp only [roleIps, carrying, Packet.updates_eq, List.mem_toFinset,
    List.mem_map, List.mem_filter, List.mem_flatMap, List.mem_append, decide_eq_true_eq]
  · constructor
    · rintro ⟨_, ⟨⟨p, mem, ⟨i, hit, rfl⟩ | ⟨i, hit, rfl⟩⟩, rfl, role⟩, rfl⟩
      · exact ⟨p, ⟨mem, hit⟩, rfl⟩
      · cases role
    · rintro ⟨p, ⟨mem, hit⟩, rfl⟩
      exact ⟨_, ⟨⟨p, mem, Or.inl ⟨m, hit, rfl⟩⟩, rfl, rfl⟩, rfl⟩
  · constructor
    · rintro ⟨_, ⟨⟨p, mem, ⟨i, hit, rfl⟩ | ⟨i, hit, rfl⟩⟩, rfl, role⟩, rfl⟩
      · cases role
      · exact ⟨p, ⟨mem, hit⟩, rfl⟩
    · rintro ⟨p, ⟨mem, hit⟩, rfl⟩
      exact ⟨_, ⟨⟨p, mem, Or.inr ⟨m, hit, rfl⟩⟩, rfl, rfl⟩, rfl⟩

theorem unseen_packets_iff :
    m ∉ metricIds (ps.flatMap Packet.updates) ↔ (carrying ps m).isEmpty := by
  simp only [metricIds, carrying, Packet.updates_eq, List.mem_toFinset, List.mem_map,
    List.mem_flatMap, List.mem_append, List.isEmpty_iff, List.filter_eq_nil_iff,
    decide_eq_true_eq, not_exists, not_and]
  constructor
  · intro unseen p mem hit
    exact unseen ⟨p.src, m, true, p.iplen⟩ ⟨p, mem, Or.inl ⟨m, hit, rfl⟩⟩ rfl
  · rintro none u ⟨p, mem, ⟨i, hit, rfl⟩ | ⟨i, hit, rfl⟩⟩ rfl <;> exact none p mem hit

end Packets

theorem mergeTrackers_find?_reference (trackerCount : Nat) (pos : 0 < trackerCount)
    (order : List Nat) (visits : order.Perm (List.range trackerCount)) (ps : List Packet)
    (sized : ∀ p ∈ ps, 0 < p.iplen.toNat) (fits : (ps.flatMap Packet.updates).length < 2 ^ 32)
    (ts m : Nat) :
    (mergeTrackers ts (order.map fun t => trackerTally trackerCount t ps)).find?
      (fun r => r.metricid = m) = referenceResult ps ts m := by
  have trackers := fun t => trackerTally_matches trackerCount t ps fits
  rw [merged_of_partition visits pos ts m _ _ (fun t _ => (trackers t).1) (fun t _ => (trackers t).2),
    referenceResult]
  by_cases none : (carrying ps m).isEmpty
  · rw [if_pos ((unseen_packets_iff ps m).mpr none), if_pos none]
  · rw [if_neg (mt (unseen_packets_iff ps m).mp none), if_neg none]
    have packets : packetCount (ps.flatMap Packet.updates) m ≤ (ps.flatMap Packet.updates).length :=
      List.countP_le_length _
    have bytes := byteCount_le (ps.flatMap Packet.updates) m
    have srcs := card_roleIps_le (ps.flatMap Packet.updates) m true
    have dsts := card_roleIps_le (ps.flatMap Packet.updates) m false
    rw [Nat.mod_eq_of_lt (by omega), Nat.mod_eq_of_lt (by omega),
      Nat.mod_eq_of_lt (by omega), Nat.mod_eq_of_lt (by omega), packetCount_packets ps m sized,
      byteCount_packets, (roleIps_packets ps m).1, (roleIps_packets ps m).2]

/-- With `trackerCount` trackers, for every interval whose packets all have a
nonzero IP length and make fewer than 2^32 observations, and for every order in
which the merge thread reads the trackers, the merged result of every metric id
is the packet-level reference: its packets, their bytes, and their distinct
source and destination addresses. -/
theorem merged_results_match_packets (trackerCount : Nat) (pos : 0 < trackerCount)
    (order : List Nat) (visits : order.Perm (List.range trackerCount)) (ps : List Packet)
    (sized : ∀ p ∈ ps, 0 < p.iplen.toNat) (fits : (ps.flatMap Packet.updates).length < 2 ^ 32)
    (ts m : Nat) :
    (mergeTrackers ts (order.map fun t => trackerTally trackerCount t ps)).find?
      (fun r => r.metricid = m) = referenceResult ps ts m :=
  mergeTrackers_find?_reference trackerCount pos order visits ps sized fits ts m

theorem merged_results_match_packets_sample :
    0 < 2 ∧ [1, 0].Perm (List.range 2) ∧
      (∀ p ∈ [(⟨5, 6, 40, none⟩ : Packet), ⟨0x01000005, 5, 60, none⟩], 0 < p.iplen.toNat) ∧
      ([(⟨5, 6, 40, none⟩ : Packet), ⟨0x01000005, 5, 60, none⟩].flatMap Packet.updates).length <
        2 ^ 32 ∧
      (mergeTrackers 7 ([1, 0].map fun t =>
        trackerTally 2 t [⟨5, 6, 40, none⟩, ⟨0x01000005, 5, 60, none⟩])).find?
          (fun r => r.metricid = 0) =
        referenceResult [⟨5, 6, 40, none⟩, ⟨0x01000005, 5, 60, none⟩] 7 0 :=
  ⟨by decide, by decide, by decide, by decide,
    merged_results_match_packets 2 (by decide) [1, 0] (by decide) _ (by decide) (by decide) 7 0⟩

def zeroLengthPacket : Packet := ⟨5, 6, 0, none⟩

/-- A packet of IP length 0 is not counted: its source body has size 0, which
`update_knownip_metric` reads as a destination-side observation. -/
theorem zero_length_packet_uncounted :
    ((mergeTrackers 0 ([0].map fun t => trackerTally 1 t [zeroLengthPacket])).find?
        (fun r => r.metricid = 0)).map ReportResult.pktCnt = some 0 ∧
      (referenceResult [zeroLengthPacket] 0 0).map ReportResult.pktCnt = some 1 := by
  decide

end Corsaro.Report
