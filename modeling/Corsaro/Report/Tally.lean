import Mathlib.Algebra.Order.Ring.Nat
import Mathlib.Logic.Function.Basic
import Mathlib.Data.List.Basic

/-! The maps an IP tracker thread keeps for one interval: the IP hash map
`knownips` and the metric tally map. C pointers into the maps become explicit
stores; the counters keep their widths (`uint32_t`, `uint64_t`) as an explicit
wrap. The uthash and khash maps nothing iterates are functions; the tally map,
which the merge iterates, is a list keyed by `metricid`. -/
namespace Corsaro.Report

def metricArraySize : Nat := 20

/-- `corsaro_standalone_metric_t`: bit 0x01 of `metval` is "seen as source", 0x02 "seen as
destination". -/
structure StandaloneMetric where
  metricid : Nat
  metval : UInt8
  deriving DecidableEq, Repr

structure IpHash where
  ipaddr : Nat
  firstmetrics : List StandaloneMetric
  metriccount : Nat
  metricsseen : Nat → Option UInt8

structure MetricIpHash where
  metricid : Nat
  srcips : Nat
  destips : Nat
  packets : Nat
  bytes : Nat
  deriving DecidableEq, Repr

abbrev IpMap := Nat → Option IpHash

abbrev TallyMap := List MetricIpHash

def newIphash (ipaddr : Nat) : IpHash :=
  ⟨ipaddr, List.replicate metricArraySize ⟨0, 0⟩, 0, fun _ => none⟩

def updateIphash (knownips : IpMap) (ipaddr : Nat) : IpHash :=
  (knownips ipaddr).getD (newIphash ipaddr)

/-- The block `update_metric_map` and `update_metric_array` share: set the role's bit, count the IP
once. -/
def markSeen (metval : UInt8) (issrc : Bool) (m : MetricIpHash) : UInt8 × MetricIpHash :=
  if issrc ∧ metval &&& 0x01 = 0 then
    (metval ||| 0x01, { m with srcips := (m.srcips + 1) % 2 ^ 32 })
  else if ¬issrc ∧ metval &&& 0x02 = 0 then
    (metval ||| 0x02, { m with destips := (m.destips + 1) % 2 ^ 32 })
  else (metval, m)

def updateMetricMap (iphash : IpHash) (metricid : Nat) (issrc : Bool)
    (m : MetricIpHash) : IpHash × MetricIpHash :=
  let (iphash, metval) : IpHash × UInt8 := match iphash.metricsseen metricid with
    | some v => (iphash, v)
    | none => ({ iphash with metriccount := (iphash.metriccount + 1) % 2 ^ 32 }, 0)
  let (metval, m) := markSeen metval issrc m
  ({ iphash with metricsseen := Function.update iphash.metricsseen metricid (some metval) }, m)

/-- The copy of the array into the khash when the array is full. -/
def promoteMetrics (entries : List StandaloneMetric) (seen : Nat → Option UInt8) :
    Nat → Option UInt8 :=
  entries.foldl (fun s e => Function.update s e.metricid (some e.metval)) seen

def updateMetricArray (iphash : IpHash) (metricid : Nat) (issrc : Bool)
    (m : MetricIpHash) : IpHash × MetricIpHash :=
  let used := iphash.firstmetrics.take iphash.metriccount
  match used.findIdx? (fun e => e.metricid = metricid) with
  | some i =>
    let (metval, m) := markSeen ((used.get? i).getD ⟨0, 0⟩).metval issrc m
    ({ iphash with firstmetrics := iphash.firstmetrics.set i ⟨metricid, metval⟩ }, m)
  | none =>
    if iphash.metriccount = metricArraySize then
      updateMetricMap { iphash with metricsseen := promoteMetrics used iphash.metricsseen }
        metricid issrc m
    else
      let (metval, m) := markSeen 0 issrc m
      ({ iphash with
          firstmetrics := iphash.firstmetrics.set iphash.metriccount ⟨metricid, metval⟩
          metriccount := (iphash.metriccount + 1) % 2 ^ 32 }, m)

def newTally (metricid : Nat) : MetricIpHash := ⟨metricid, 0, 0, 0, 0⟩

/-- Store a tally under its id: the C code updates it in place through the pointer `kh_get` or
`kh_put` returned. -/
def storeTally (tally : TallyMap) (m : MetricIpHash) : TallyMap :=
  if tally.any (fun t => t.metricid = m.metricid) then
    tally.map (fun t => if t.metricid = m.metricid then m else t)
  else tally ++ [m]

/-- The packet and byte block of `update_knownip_metric`: an IP length of 0 marks a packet already
counted. -/
def countPacket (m : MetricIpHash) (iplen : UInt16) : MetricIpHash :=
  if 0 < iplen.toNat then
    { m with packets := (m.packets + 1) % 2 ^ 32, bytes := (m.bytes + iplen.toNat) % 2 ^ 64 }
  else m

def updateKnownipMetric (metricid : Nat) (iphash : IpHash) (issrc : Bool) (iplen : UInt16)
    (metrictally : TallyMap) : IpHash × TallyMap :=
  let m := countPacket
    ((metrictally.find? (fun t => t.metricid = metricid)).getD (newTally metricid)) iplen
  let (iphash, m) := if iphash.metriccount ≤ metricArraySize
    then updateMetricArray iphash metricid issrc m
    else updateMetricMap iphash metricid issrc m
  (iphash, storeTally metrictally m)

structure IntervalMaps where
  knownips : IpMap
  tally : TallyMap

def IntervalMaps.empty : IntervalMaps := ⟨fun _ => none, []⟩

structure Update where
  ipaddr : Nat
  metricid : Nat
  issrc : Bool
  iplen : UInt16
  deriving DecidableEq, Repr

/-- `update_iphash` then `update_knownip_metric` for one observation. -/
def applyUpdate (s : IntervalMaps) (u : Update) : IntervalMaps :=
  let (iphash, tally) :=
    updateKnownipMetric u.metricid (updateIphash s.knownips u.ipaddr) u.issrc u.iplen s.tally
  ⟨Function.update s.knownips u.ipaddr (some iphash), tally⟩

/-- `corsaro_report_msg_body_t`; its first tag, the combined metric `process_msg_body` asserts, is a
field. -/
structure MsgBody where
  ipaddr : Nat
  issrc : Bool
  tags : List Nat
  size : UInt16
  combined_first : ∀ t ∈ tags.head?, t = 0

def tagLoop (issrc : Bool) (size : UInt16) (tags : List Nat)
    (acc : IpHash × TallyMap) : IpHash × TallyMap :=
  tags.foldl (fun acc t => updateKnownipMetric t acc.1 issrc size acc.2) acc

/-- The work `process_msg_body` does on the maps it chose: every tag updates the one IP entry. -/
def IntervalMaps.applyBody (s : IntervalMaps) (body : MsgBody) : IntervalMaps :=
  match body.tags with
  | [] => s
  | tags@(_ :: _) =>
    let r := tagLoop body.issrc body.size tags (updateIphash s.knownips body.ipaddr, s.tally)
    ⟨Function.update s.knownips body.ipaddr (some r.1), r.2⟩

def MsgBody.updates (body : MsgBody) : List Update :=
  body.tags.map (fun t => ⟨body.ipaddr, t, body.issrc, body.size⟩)

theorem tagLoop_eq_updates (s : IntervalMaps) (ip : Nat) (issrc : Bool)
    (size : UInt16) (h : IpHash) (stored : s.knownips ip = some h) (tags : List Nat) :
    (⟨Function.update s.knownips ip (some (tagLoop issrc size tags (h, s.tally)).1),
      (tagLoop issrc size tags (h, s.tally)).2⟩ : IntervalMaps) =
      (tags.map (fun t => (⟨ip, t, issrc, size⟩ : Update))).foldl applyUpdate s := by
  induction tags generalizing s h with
  | nil =>
    cases s
    simp only [tagLoop, List.foldl_nil, List.map_nil, IntervalMaps.mk.injEq, and_true]
    funext a
    by_cases same : a = ip
    · subst same; simpa using stored.symm
    · simp [same]
  | cons t tags ih =>
    have next := ih (applyUpdate s ⟨ip, t, issrc, size⟩)
      (updateKnownipMetric t h issrc size s.tally).1 (by simp [applyUpdate, updateIphash, stored])
    simp only [List.foldl_cons, List.map_cons, ← next]
    simp [tagLoop, applyUpdate, updateIphash, stored]

theorem applyBody_eq_updates (s : IntervalMaps) (body : MsgBody) :
    s.applyBody body = body.updates.foldl applyUpdate s := by
  unfold IntervalMaps.applyBody MsgBody.updates
  split
  · rename_i htags; simp [htags]
  · rename_i t tags htags
    rw [htags]
    cases t0 : s.knownips body.ipaddr with
    | some h =>
      simpa [updateIphash, t0] using tagLoop_eq_updates s body.ipaddr body.issrc
        body.size h t0 (t :: tags)
    | none =>
      have h1 := tagLoop_eq_updates ⟨Function.update s.knownips body.ipaddr
        (some (newIphash body.ipaddr)), s.tally⟩ body.ipaddr body.issrc body.size
        (newIphash body.ipaddr) (by simp) (t :: tags)
      simp only [Function.update_idem] at h1
      have first : applyUpdate s ⟨body.ipaddr, t, body.issrc, body.size⟩ =
          applyUpdate ⟨Function.update s.knownips body.ipaddr (some (newIphash body.ipaddr)),
            s.tally⟩ ⟨body.ipaddr, t, body.issrc, body.size⟩ := by
        simp [applyUpdate, updateIphash, t0]
      simp only [List.map_cons, List.foldl_cons, first] at h1 ⊢
      rw [← h1]
      simp [updateIphash, t0]

theorem applyBodies_eq_updates (m : IntervalMaps) (bodies : List MsgBody) :
    bodies.foldl IntervalMaps.applyBody m = (bodies.flatMap MsgBody.updates).foldl applyUpdate m := by
  induction bodies generalizing m with
  | nil => rfl
  | cons b bodies ih => simp [applyBody_eq_updates, ih]

end Corsaro.Report
