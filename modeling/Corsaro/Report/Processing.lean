import Corsaro.Report.MetricId
import Corsaro.Report.Tracker

/-! A packet processing thread of the report plugin: `process_tags` builds the
body of one address of a packet, `update_metrics_for_address` adds it to the
batch of the address's tracker and puts the batch on that tracker's queue when
it holds `REPORT_BATCH_SIZE` bodies, and `corsaro_report_end_interval` and
`corsaro_report_halt_processing` flush every batch before their marker. The
queues are the lists of messages this thread has put on each tracker's queue.
Packets `extract_addresses` rejects make no event; `queueblocks` is left out. -/
namespace Corsaro.Report

def metricPortMax : UInt32 := 65536

def metricIcmpMax : UInt32 := 256

def metricIpprotosMax : UInt32 := 256

def ipprotoIcmp : UInt32 := 1

def ipprotoTcp : UInt32 := 6

def ipprotoUdp : UInt32 := 17

def reportBatchSize : Nat := 500

/-- The fields of `corsaro_packet_tags_t` that `process_tags` reads, widened to `uint32_t`; the
provider tests are kept as flags. -/
structure PacketTags where
  providersUsed : Nat
  protocol : UInt32
  srcPort : UInt32
  destPort : UInt32
  maxmindTagged : Bool
  maxmindContinent : UInt32
  maxmindCountry : UInt32
  netacqTagged : Bool
  netacqContinent : UInt32
  netacqCountry : UInt32
  pfx2asTagged : Bool
  prefixasn : UInt32

/-- `process_single_tag`: append the metric id of `(class, tagval)` unless the value reaches the
class's bound. -/
def processSingleTag (tags : List Nat) (call : MetricClass × UInt32 × UInt32) : List Nat :=
  if 0 < call.2.2.toNat ∧ call.2.2 ≤ call.2.1 then tags else tags ++ [genMetricid call.1 call.2.1]

def tagCalls (tags : PacketTags) : List (MetricClass × UInt32 × UInt32) :=
  [(.ipProtocol, tags.protocol, metricIpprotosMax)] ++
  (if tags.protocol = ipprotoIcmp then
    [(.icmpType, tags.srcPort, metricIcmpMax), (.icmpCode, tags.destPort, metricIcmpMax)]
  else if tags.protocol = ipprotoTcp then
    [(.tcpSourcePort, tags.srcPort, metricPortMax), (.tcpDestPort, tags.destPort, metricPortMax)]
  else if tags.protocol = ipprotoUdp then
    [(.udpSourcePort, tags.srcPort, metricPortMax), (.udpDestPort, tags.destPort, metricPortMax)]
  else []) ++
  (if tags.maxmindTagged then
    [(.maxmindContinent, tags.maxmindContinent, 0), (.maxmindCountry, tags.maxmindCountry, 0)]
  else []) ++
  (if tags.netacqTagged then
    [(.netacqContinent, tags.netacqContinent, 0), (.netacqCountry, tags.netacqCountry, 0)]
  else []) ++
  (if tags.pfx2asTagged then [(.prefixAsn, tags.prefixasn, 0)] else [])

/-- The metric ids `process_tags` gives a packet: the combined tag, and its other tags when a
provider was used. -/
def packetTagIds (tags : Option PacketTags) : List Nat :=
  let combined := processSingleTag [] (.combined, 0, 0)
  match tags with
  | some tags => if tags.providersUsed = 0 then combined
    else (tagCalls tags).foldl processSingleTag combined
  | none => combined

theorem foldl_processSingleTag (calls : List (MetricClass × UInt32 × UInt32)) (acc : List Nat) :
    calls.foldl processSingleTag acc = acc ++ calls.filterMap fun call =>
      if 0 < call.2.2.toNat ∧ call.2.2 ≤ call.2.1 then none else some (genMetricid call.1 call.2.1) := by
  induction calls generalizing acc with
  | nil => simp
  | cons call calls ih =>
    rw [List.foldl_cons, ih, processSingleTag]
    split_ifs <;> simp [List.filterMap_cons, *]

theorem packetTagIds_eq_cons (tags : Option PacketTags) :
    ∃ rest, packetTagIds tags = 0 :: rest := by
  have combined : processSingleTag [] (.combined, 0, 0) = [0] := by decide
  cases tags with
  | none => exact ⟨[], combined⟩
  | some tags =>
    by_cases none_used : tags.providersUsed = 0
    · exact ⟨[], by simp only [packetTagIds, if_pos none_used]; exact combined⟩
    · exact ⟨_, by simp only [packetTagIds, if_neg none_used, foldl_processSingleTag, combined,
        List.singleton_append]; rfl⟩

theorem packetTagIds_combined_first (tags : Option PacketTags) :
    ∀ t ∈ (packetTagIds tags).head?, t = 0 := by
  obtain ⟨rest, first⟩ := packetTagIds_eq_cons tags
  simp [first]

theorem tagCalls_classes (tags : PacketTags) :
    List.Sublist ((tagCalls tags).map (·.1)) [.ipProtocol, .icmpType, .icmpCode, .tcpSourcePort,
      .tcpDestPort, .udpSourcePort, .udpDestPort, .maxmindContinent, .maxmindCountry,
      .netacqContinent, .netacqCountry, .prefixAsn] := by
  unfold tagCalls
  split_ifs <;> simp only [List.map_append, List.map_cons, List.map_nil, List.cons_append,
    List.nil_append] <;> decide

theorem foldl_processSingleTag_nodup (calls : List (MetricClass × UInt32 × UInt32))
    (distinct : (calls.map (·.1)).Nodup) : (calls.foldl processSingleTag []).Nodup := by
  rw [foldl_processSingleTag, List.nil_append, List.Nodup, List.pairwise_filterMap]
  refine (List.pairwise_map.mp distinct).imp fun {a b} classes => ?_
  intro x hx y hy same
  split_ifs at hx hy
  all_goals simp only [Option.mem_def, Option.some.injEq, reduceCtorEq] at hx hy
  subst hx hy
  exact classes (genMetricid_injective same).1

theorem packetTagIds_nodup (tags : Option PacketTags) : (packetTagIds tags).Nodup := by
  have combined : processSingleTag [] (.combined, 0, 0) = [0] := by decide
  cases tags with
  | none => rw [packetTagIds, combined]; exact List.nodup_singleton 0
  | some tags =>
    by_cases none_used : tags.providersUsed = 0
    · rw [packetTagIds, if_pos none_used, combined]; exact List.nodup_singleton 0
    · rw [packetTagIds, if_neg none_used]
      exact foldl_processSingleTag_nodup ((.combined, 0, 0) :: tagCalls tags)
        (((tagCalls_classes tags).cons_cons _).nodup (by decide))

theorem tagCalls_eq_cons (tags : PacketTags) :
    ∃ rest, tagCalls tags = (.ipProtocol, tags.protocol, metricIpprotosMax) :: rest ∧
      ∀ c ∈ rest, c.1 ≠ .ipProtocol := by
  refine ⟨_, rfl, fun c mem same => ?_⟩
  have later := (List.cons_sublist_cons.mp (tagCalls_classes tags)).subset (List.mem_map_of_mem (·.1) mem)
  rw [same] at later
  exact absurd later (by decide)

theorem mem_packetTagIds_ipProtocol (tags : PacketTags) (v : UInt32) :
    genMetricid .ipProtocol v ∈ packetTagIds (some tags) ↔
      tags.providersUsed ≠ 0 ∧ v = tags.protocol ∧ tags.protocol < metricIpprotosMax := by
  have combined : processSingleTag [] (.combined, 0, 0) = [genMetricid .combined 0] := by decide
  have not_combined : genMetricid .ipProtocol v ≠ genMetricid .combined 0 :=
    fun same => absurd (genMetricid_injective same).1 (by decide)
  by_cases unused : tags.providersUsed = 0
  · simp only [packetTagIds, if_pos unused, combined, List.mem_singleton, not_combined, false_iff]
    exact fun used => used.1 unused
  obtain ⟨rest, calls, others⟩ := tagCalls_eq_cons tags
  simp only [packetTagIds, if_neg unused, calls, combined, foldl_processSingleTag, List.mem_append,
    List.mem_singleton, not_combined, false_or, List.mem_filterMap, List.mem_cons, List.mem_nil_iff]
  constructor
  · rintro ⟨call, rfl | later, kept⟩
    · split_ifs at kept with dropped
      have same := genMetricid_injective (Option.some.inj kept)
      exact ⟨unused, same.2.symm, UInt32.not_le.mp fun over => dropped ⟨(by decide : 0 < metricIpprotosMax.toNat), over⟩⟩
    · split_ifs at kept
      exact absurd (genMetricid_injective (Option.some.inj kept)).1 (others call later)
  · rintro ⟨-, rfl, below⟩
    refine ⟨_, .inl rfl, ?_⟩
    rw [if_neg (fun dropped => absurd dropped.2 (UInt32.not_le.mpr below))]

/-- `process_tags`: the body of `addr`; only the source side carries the size, so a packet counts
once. -/
def processTags (tags : Option PacketTags) (iplen : UInt16) (addr : Nat) (issrc : Bool) :
    MsgBody :=
  ⟨addr, issrc, packetTagIds tags, if issrc then iplen else 0, packetTagIds_combined_first tags⟩

def trackerHash (trackerCount addr : Nat) : Nat := (addr >>> 24) % trackerCount

structure ProcState where
  threadid : Nat
  currentInterval : Nat
  nextmsg : Nat → IpMessage
  queues : Nat → List IpMessage

/-- `corsaro_report_init_processing`: the batches come from `calloc`, so their `msgtype` is 0. -/
def ProcState.init (threadid : Nat) : ProcState :=
  ⟨threadid, 0, fun _ => ⟨0, threadid, 0, []⟩, fun _ => []⟩

def updateMetricsForAddress (trackerCount : Nat) (st : ProcState) (addr : Nat) (issrc : Bool)
    (iplen : UInt16) (tags : Option PacketTags) : ProcState :=
  let t := trackerHash trackerCount addr
  let msg := { st.nextmsg t with update := (st.nextmsg t).update ++ [processTags tags iplen addr issrc] }
  if msg.update.length < reportBatchSize then { st with nextmsg := Function.update st.nextmsg t msg }
  else { st with
    queues := Function.update st.queues t (st.queues t ++ [msg])
    nextmsg := Function.update st.nextmsg t { msg with update := [] } }

def processPacket (trackerCount : Nat) (st : ProcState) (src dst : Nat) (iplen : UInt16)
    (tags : Option PacketTags) : ProcState :=
  updateMetricsForAddress trackerCount (updateMetricsForAddress trackerCount st src true iplen tags)
    dst false iplen tags

/-- The loop of `corsaro_report_end_interval` and `corsaro_report_halt_processing` over the
trackers. -/
def ProcState.flushAndPut (trackerCount : Nat) (st : ProcState) (marker : IpMessage) : ProcState :=
  { st with
    queues := fun i => if i < trackerCount then
        st.queues i ++ ((if 0 < (st.nextmsg i).update.length then [st.nextmsg i] else []) ++ [marker])
      else st.queues i
    nextmsg := fun i => if i < trackerCount ∧ 0 < (st.nextmsg i).update.length then
        { st.nextmsg i with update := [] }
      else st.nextmsg i }

def endInterval (trackerCount : Nat) (st : ProcState) : ProcState :=
  st.flushAndPut trackerCount ⟨ipMessageInterval, st.threadid, st.currentInterval, []⟩

def haltProcessing (trackerCount : Nat) (st : ProcState) : ProcState :=
  st.flushAndPut trackerCount ⟨ipMessageHalt, st.threadid, 0, []⟩

inductive ProcEvent
  | packet (src dst : Nat) (iplen : UInt16) (tags : Option PacketTags)
  | startInterval (time : Nat)
  | endInterval
  | halt

def ProcState.step (trackerCount : Nat) (st : ProcState) : ProcEvent → ProcState
  | .packet src dst iplen tags => processPacket trackerCount st src dst iplen tags
  | .startInterval time => { st with currentInterval := time }
  | .endInterval => endInterval trackerCount st
  | .halt => haltProcessing trackerCount st

def runProcessing (trackerCount threadid : Nat) (evs : List ProcEvent) : ProcState :=
  evs.foldl (ProcState.step trackerCount) (ProcState.init threadid)

/-- One packet and an interval end: the batch goes out with `msgtype` 0, which is
`CORSARO_IP_MESSAGE_HALT`, and a tracker reading it halts and drops its bodies. -/
theorem batch_sent_as_halt :
    ((runProcessing 1 0 [.packet 5 6 40 none, .endInterval]).queues 0).map
        (fun m => (m.msgtype, m.update.length)) = [(ipMessageHalt, 2), (ipMessageInterval, 0)] ∧
      ((runProcessing 1 0 [.packet 5 6 40 none, .endInterval]).queues 0).head?.map
        (fun m => (handleMessage (Tracker.init 1) m).toOption.map
          (fun t => (t.haltphase, t.curr.tally))) = some (some (2, [])) := by
  decide

/-! ### What a tracker reads from this thread -/

inductive Item
  | body (b : MsgBody)
  | marker (msgtype timestamp : Nat)

def readMessage (m : IpMessage) : List Item :=
  m.update.map .body ++ if m.update.isEmpty then [.marker m.msgtype m.timestamp] else []

/-- What the events ask tracker `t` to read: its bodies in order, an INTERVAL marker at each
interval end, and a HALT marker at halt. -/
def expectedItems (trackerCount t : Nat) : Nat → List ProcEvent → List Item
  | _, [] => []
  | cur, .packet src dst iplen tags :: rest =>
    (if trackerHash trackerCount src = t then [.body (processTags tags iplen src true)] else []) ++
    (if trackerHash trackerCount dst = t then [.body (processTags tags iplen dst false)] else []) ++
    expectedItems trackerCount t cur rest
  | _, .startInterval time :: rest => expectedItems trackerCount t time rest
  | cur, .endInterval :: rest => .marker ipMessageInterval cur :: expectedItems trackerCount t cur rest
  | cur, .halt :: rest => .marker ipMessageHalt 0 :: expectedItems trackerCount t cur rest

def ProcState.view (st : ProcState) (t : Nat) : List Item :=
  (st.queues t).flatMap readMessage ++ (st.nextmsg t).update.map .body

/-- The batch of tracker `t` has room for the next body, and no message put holds more than
`REPORT_BATCH_SIZE`. -/
structure BatchInv (st : ProcState) (t : Nat) : Prop where
  room : (st.nextmsg t).update.length < reportBatchSize
  sizes : ∀ m ∈ st.queues t, m.update.length ≤ reportBatchSize

section Thread

variable {trackerCount t : Nat}

@[simp] theorem updateMetricsForAddress_currentInterval (st : ProcState) (addr : Nat)
    (issrc : Bool) (iplen : UInt16) (tags : Option PacketTags) :
    (updateMetricsForAddress trackerCount st addr issrc iplen tags).currentInterval =
      st.currentInterval := by
  simp only [updateMetricsForAddress]
  split <;> rfl

@[simp] theorem flushAndPut_currentInterval (st : ProcState) (marker : IpMessage) :
    (st.flushAndPut trackerCount marker).currentInterval = st.currentInterval := rfl

theorem updateMetricsForAddress_frame (st : ProcState) (addr : Nat) (issrc : Bool)
    (iplen : UInt16) (tags : Option PacketTags) (other : trackerHash trackerCount addr ≠ t) :
    (updateMetricsForAddress trackerCount st addr issrc iplen tags).queues t = st.queues t ∧
      (updateMetricsForAddress trackerCount st addr issrc iplen tags).nextmsg t = st.nextmsg t := by
  by_cases fits : (st.nextmsg (trackerHash trackerCount addr)).update.length + 1 < reportBatchSize <;>
    simp [updateMetricsForAddress, fits, Function.update_noteq (Ne.symm other)]

theorem updateMetricsForAddress_view {st : ProcState} (inv : BatchInv st t) (addr : Nat)
    (issrc : Bool) (iplen : UInt16) (tags : Option PacketTags) :
    (updateMetricsForAddress trackerCount st addr issrc iplen tags).view t =
        st.view t ++ (if trackerHash trackerCount addr = t
          then [.body (processTags tags iplen addr issrc)] else []) ∧
      BatchInv (updateMetricsForAddress trackerCount st addr issrc iplen tags) t := by
  have room := inv.room
  by_cases hit : trackerHash trackerCount addr = t
  · subst hit
    by_cases fits : (st.nextmsg (trackerHash trackerCount addr)).update.length + 1 < reportBatchSize
    · simp only [updateMetricsForAddress, List.length_append, List.length_singleton, if_pos fits]
      exact ⟨by simp [ProcState.view], ⟨by simpa using fits, by simpa using inv.sizes⟩⟩
    · simp only [updateMetricsForAddress, List.length_append, List.length_singleton, if_neg fits]
      refine ⟨by simp [ProcState.view, readMessage], ⟨by simp [reportBatchSize], ?_⟩⟩
      simp only [Function.update_same, List.mem_append, List.mem_singleton]
      rintro m (old | rfl)
      · exact inv.sizes m old
      · simp only [List.length_append, List.length_singleton]; exact room
  · have other : t ≠ trackerHash trackerCount addr := Ne.symm hit
    have frame := updateMetricsForAddress_frame st addr issrc iplen tags hit
    exact ⟨by simp [ProcState.view, frame, hit], ⟨by rw [frame.2]; exact room,
      by rw [frame.1]; exact inv.sizes⟩⟩

theorem flatMap_readMessage_batch (m : IpMessage) :
    (if 0 < m.update.length then [m] else []).flatMap readMessage = m.update.map .body := by
  cases h : m.update <;> simp [readMessage, h]

theorem flushAndPut_view {st : ProcState} (inv : BatchInv st t) (below : t < trackerCount)
    (marker : IpMessage) (bare : marker.update = []) :
    (st.flushAndPut trackerCount marker).view t =
        st.view t ++ [.marker marker.msgtype marker.timestamp] ∧
      BatchInv (st.flushAndPut trackerCount marker) t := by
  have drained : ((st.flushAndPut trackerCount marker).nextmsg t).update = [] := by
    by_cases pending : 0 < (st.nextmsg t).update.length
    · simp [ProcState.flushAndPut, below, pending]
    · have empty : (st.nextmsg t).update = [] := List.eq_nil_of_length_eq_zero (by omega)
      simp [ProcState.flushAndPut, pending, empty]
  refine ⟨?_, ⟨by simp [drained, reportBatchSize], ?_⟩⟩
  · rw [ProcState.view, drained]
    simp only [ProcState.flushAndPut, below, if_true, List.flatMap_append, flatMap_readMessage_batch]
    simp [ProcState.view, readMessage, bare]
  · simp only [ProcState.flushAndPut, below, if_true, List.mem_append, List.mem_singleton]
    rintro m (old | sent | rfl)
    · exact inv.sizes m old
    · split_ifs at sent
      · rw [List.mem_singleton.mp sent]; exact Nat.le_of_lt inv.room
      · simp at sent
    · simp [bare]

theorem step_view {st : ProcState} (inv : BatchInv st t) (below : t < trackerCount)
    (e : ProcEvent) (rest : List ProcEvent) :
    (st.step trackerCount e).view t ++
        expectedItems trackerCount t (st.step trackerCount e).currentInterval rest =
      st.view t ++ expectedItems trackerCount t st.currentInterval (e :: rest) ∧
      BatchInv (st.step trackerCount e) t := by
  cases e with
  | packet src dst iplen tags =>
    obtain ⟨first, inv1⟩ := @updateMetricsForAddress_view trackerCount t _ inv src true
      iplen tags
    obtain ⟨second, inv2⟩ := @updateMetricsForAddress_view trackerCount t _ inv1 dst false
      iplen tags
    exact ⟨by simp [ProcState.step, processPacket, second, first, expectedItems], inv2⟩
  | startInterval time =>
    exact ⟨by simp [ProcState.step, ProcState.view, expectedItems], ⟨inv.room, inv.sizes⟩⟩
  | endInterval =>
    obtain ⟨put, inv'⟩ := flushAndPut_view inv below
      ⟨ipMessageInterval, st.threadid, st.currentInterval, []⟩ rfl
    exact ⟨by simp [ProcState.step, endInterval, put, expectedItems], inv'⟩
  | halt =>
    obtain ⟨put, inv'⟩ := flushAndPut_view inv below ⟨ipMessageHalt, st.threadid, 0, []⟩ rfl
    exact ⟨by simp [ProcState.step, haltProcessing, put, expectedItems], inv'⟩

theorem run_view {st : ProcState} (inv : BatchInv st t) (below : t < trackerCount)
    (evs : List ProcEvent) :
    (evs.foldl (ProcState.step trackerCount) st).view t =
        st.view t ++ expectedItems trackerCount t st.currentInterval evs ∧
      BatchInv (evs.foldl (ProcState.step trackerCount) st) t := by
  induction evs generalizing st with
  | nil => simp [expectedItems, inv]
  | cons e rest ih =>
    obtain ⟨step, inv'⟩ := step_view inv below e rest
    obtain ⟨run, invRun⟩ := ih inv'
    exact ⟨by rw [List.foldl_cons, run, step], invRun⟩

end Thread

/-- Over any run of a processing thread, each tracker `t` of the `trackerCount`
reads, from what has been put on its queue followed by the batch still being
filled, exactly the bodies `update_metrics_for_address` built for its addresses,
in order, with an INTERVAL marker of the current interval at each interval end
and a HALT marker at halt. A batch never reaches `REPORT_BATCH_SIZE` bodies
before it is put, so each body is written inside the batch buffer. -/
theorem thread_stream_matches_events {trackerCount t : Nat} (threadid : Nat)
    (below : t < trackerCount) (evs : List ProcEvent) :
    (runProcessing trackerCount threadid evs).view t = expectedItems trackerCount t 0 evs ∧
      BatchInv (runProcessing trackerCount threadid evs) t := by
  have init : BatchInv (ProcState.init threadid) t :=
    ⟨by simp [ProcState.init, reportBatchSize], by simp [ProcState.init]⟩
  obtain ⟨run, inv⟩ := run_view init below evs
  exact ⟨by simpa [ProcState.view, ProcState.init] using run, inv⟩

theorem thread_stream_matches_events_sample :
    0 < 1 ∧ (runProcessing 1 0 [.packet 5 6 40 none, .endInterval]).view 0 =
        expectedItems 1 0 0 [.packet 5 6 40 none, .endInterval] ∧
      BatchInv (runProcessing 1 0 [.packet 5 6 40 none, .endInterval]) 0 :=
  ⟨by decide, thread_stream_matches_events 0 (by decide) _⟩

end Corsaro.Report
