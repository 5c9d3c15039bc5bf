import Corsaro.Report.Processing

/-! The front of `corsaro_report_process_packet`: `extract_addresses` reads the
source, the destination and `ip_len` from the IPv4 header libtrace finds, and a
packet it rejects is skipped. The addresses are `s_addr` fields, in network
byte order, read as a `uint32_t` on a little-endian host, so that the top byte
`update_metrics_for_address` hashes on is the last octet of the address, the
"suffix octet" of its comment. The thread-local state is never `NULL` here, it
being what `corsaro_report_init_processing` made. -/
namespace Corsaro.Report

/-- What `trace_get_layer3` finds: the ethertype, and the bytes from the layer 3 header on. -/
structure Layer3 where
  ethertype : UInt16
  bytes : List UInt8

def traceEthertypeIp : UInt16 := 0x0800

def libtraceIpSize : Nat := 20

/-- The `uint32_t` at offset `i`, read on a little-endian host. -/
def loadU32 (bytes : List UInt8) (i : Nat) : Nat :=
  (bytes.getD i 0).toNat + (bytes.getD (i + 1) 0).toNat * 2 ^ 8 +
    (bytes.getD (i + 2) 0).toNat * 2 ^ 16 + (bytes.getD (i + 3) 0).toNat * 2 ^ 24

def ntohsU16 (bytes : List UInt8) (i : Nat) : UInt16 :=
  ((bytes.getD i 0).toNat * 256 + (bytes.getD (i + 1) 0).toNat).toUInt16

/-- `extract_addresses`: `ip_src`, `ip_dst` and `ntohs(ip_len)`, or `none` for its -1. -/
def extractAddresses : Option Layer3 → Option (Nat × Nat × UInt16)
  | none => none
  | some l3 =>
    if l3.bytes.length = 0 then none
    else if l3.ethertype ≠ traceEthertypeIp then none
    else if l3.bytes.length < libtraceIpSize then none
    else some (loadU32 l3.bytes 12, loadU32 l3.bytes 16, ntohsU16 l3.bytes 2)

/-- `corsaro_report_process_packet`, which returns 0 for a packet `extract_addresses` rejects
without touching the state. -/
def corsaroReportProcessPacket (trackerCount : Nat) (st : ProcState) (l3 : Option Layer3)
    (tags : Option PacketTags) : ProcState :=
  match extractAddresses l3 with
  | none => st
  | some (src, dst, iplen) => processPacket trackerCount st src dst iplen tags

inductive CaptureEvent
  | packet (l3 : Option Layer3) (tags : Option PacketTags)
  | startInterval (time : Nat)
  | endInterval
  | halt

def captureStep (trackerCount : Nat) (st : ProcState) : CaptureEvent → ProcState
  | .packet l3 tags => corsaroReportProcessPacket trackerCount st l3 tags
  | .startInterval time => st.step trackerCount (.startInterval time)
  | .endInterval => st.step trackerCount .endInterval
  | .halt => st.step trackerCount .halt

def runCapture (trackerCount threadid : Nat) (evs : List CaptureEvent) : ProcState :=
  evs.foldl (captureStep trackerCount) (ProcState.init threadid)

def CaptureEvent.decode : CaptureEvent → Option ProcEvent
  | .packet l3 tags => (extractAddresses l3).map fun (src, dst, iplen) => .packet src dst iplen tags
  | .startInterval time => some (.startInterval time)
  | .endInterval => some .endInterval
  | .halt => some .halt

/-! ### Which packets are read -/

theorem extractAddresses_eq_some {l3 : Layer3} {read : Nat × Nat × UInt16} :
    extractAddresses (some l3) = some read ↔
      l3.ethertype = traceEthertypeIp ∧ libtraceIpSize ≤ l3.bytes.length ∧
        read = (loadU32 l3.bytes 12, loadU32 l3.bytes 16, ntohsU16 l3.bytes 2) := by
  simp only [extractAddresses, libtraceIpSize]
  split_ifs <;> simp_all [eq_comm]

theorem captureStep_decode (trackerCount : Nat) (st : ProcState) (e : CaptureEvent) :
    captureStep trackerCount st e = (e.decode.map (st.step trackerCount)).getD st := by
  cases e with
  | packet l3 tags =>
    simp only [captureStep, corsaroReportProcessPacket, CaptureEvent.decode]
    cases extractAddresses l3 <;> rfl
  | _ => rfl

theorem foldl_captureStep (trackerCount : Nat) (evs : List CaptureEvent) (st : ProcState) :
    evs.foldl (captureStep trackerCount) st =
      (evs.filterMap CaptureEvent.decode).foldl (ProcState.step trackerCount) st := by
  induction evs generalizing st with
  | nil => rfl
  | cons e rest ih =>
    rw [List.foldl_cons, ih, captureStep_decode, List.filterMap_cons]
    cases e.decode <;> rfl

/-! ### The suffix octet -/

theorem loadU32_shiftRight (bytes : List UInt8) (i : Nat) :
    loadU32 bytes i >>> 24 = (bytes.getD (i + 3) 0).toNat := by
  have b0 : (bytes.getD i 0).toNat < 256 := UInt8.toNat_lt_size _
  have b1 : (bytes.getD (i + 1) 0).toNat < 256 := UInt8.toNat_lt_size _
  have b2 : (bytes.getD (i + 2) 0).toNat < 256 := UInt8.toNat_lt_size _
  rw [Nat.shiftRight_eq_div_pow, loadU32]
  omega

theorem trackerHash_loadU32 (trackerCount : Nat) (bytes : List UInt8) (i : Nat) :
    trackerHash trackerCount (loadU32 bytes i) = (bytes.getD (i + 3) 0).toNat % trackerCount := by
  rw [trackerHash, loadU32_shiftRight]

/-- What a thread that captures `evs` is to send tracker `t`, in the words of the design: each
address's body when its last octet is `t` modulo the number of trackers, and a marker at each
interval end and at halt. -/
def capturedItems (trackerCount t : Nat) : Nat → List CaptureEvent → List Item
  | _, [] => []
  | cur, .packet (some l3) tags :: rest =>
    (if l3.ethertype = traceEthertypeIp ∧ libtraceIpSize ≤ l3.bytes.length then
      (if (l3.bytes.getD 15 0).toNat % trackerCount = t then
        [.body (processTags tags (ntohsU16 l3.bytes 2) (loadU32 l3.bytes 12) true)] else []) ++
      (if (l3.bytes.getD 19 0).toNat % trackerCount = t then
        [.body (processTags tags (ntohsU16 l3.bytes 2) (loadU32 l3.bytes 16) false)] else [])
    else []) ++ capturedItems trackerCount t cur rest
  | cur, .packet none _ :: rest => capturedItems trackerCount t cur rest
  | _, .startInterval time :: rest => capturedItems trackerCount t time rest
  | cur, .endInterval :: rest => .marker ipMessageInterval cur :: capturedItems trackerCount t cur rest
  | cur, .halt :: rest => .marker ipMessageHalt 0 :: capturedItems trackerCount t cur rest

theorem expectedItems_decode (trackerCount t cur : Nat) (evs : List CaptureEvent) :
    expectedItems trackerCount t cur (evs.filterMap CaptureEvent.decode) =
      capturedItems trackerCount t cur evs := by
  induction evs generalizing cur with
  | nil => rfl
  | cons e rest ih =>
    cases e with
    | packet l3 tags =>
      rcases l3 with _ | l3
      · simpa [CaptureEvent.decode, extractAddresses, capturedItems] using ih cur
      · by_cases accepted : l3.ethertype = traceEthertypeIp ∧ libtraceIpSize ≤ l3.bytes.length
        · have read := extractAddresses_eq_some.mpr ⟨accepted.1, accepted.2, rfl⟩
          simp [CaptureEvent.decode, read, capturedItems, accepted, expectedItems, ih,
            trackerHash_loadU32]
        · have rejected : extractAddresses (some l3) = none :=
            Option.eq_none_iff_forall_not_mem.mpr fun read mem =>
              accepted ⟨(extractAddresses_eq_some.mp mem).1, (extractAddresses_eq_some.mp mem).2.1⟩
          simp [CaptureEvent.decode, rejected, capturedItems, accepted, ih]
    | startInterval time => simp [CaptureEvent.decode, capturedItems, expectedItems, ih]
    | endInterval => simp [CaptureEvent.decode, capturedItems, expectedItems, ih]
    | halt => simp [CaptureEvent.decode, capturedItems, expectedItems, ih]

/-- Over any run of a processing thread on captured packets, what it puts on the
queue of tracker `t`, followed by the batch it is still filling, taken message
by message as its bodies, is exactly, in order, the body of each source and
each destination address of the IPv4 packets with a whole header whose last
octet is `t` modulo `trackerCount`, with a marker at each interval end and at
halt. The thread's state is the one it reaches on those packets alone. -/
theorem captured_stream_by_suffix_octet {trackerCount t : Nat} (threadid : Nat)
    (below : t < trackerCount) (evs : List CaptureEvent) :
    runCapture trackerCount threadid evs =
        runProcessing trackerCount threadid (evs.filterMap CaptureEvent.decode) ∧
      (runCapture trackerCount threadid evs).view t = capturedItems trackerCount t 0 evs := by
  have init : BatchInv (ProcState.init threadid) t :=
    ⟨by simp [ProcState.init, reportBatchSize], by simp [ProcState.init]⟩
  have same := foldl_captureStep trackerCount evs (ProcState.init threadid)
  refine ⟨same, ?_⟩
  rw [runCapture, same, (run_view init below _).1, ← expectedItems_decode]
  simp [ProcState.view, ProcState.init]

theorem captured_stream_by_suffix_octet_sample :
    1 < 4 ∧
      runCapture 4 0 [.packet (some ⟨traceEthertypeIp, [0x45, 0, 0, 40, 0, 0, 0, 0, 64, 6, 0, 0,
          10, 0, 0, 5, 192, 168, 0, 7]⟩) none, .packet none none, .endInterval] =
        runProcessing 4 0 ([CaptureEvent.packet (some ⟨traceEthertypeIp, [0x45, 0, 0, 40, 0, 0, 0, 0,
          64, 6, 0, 0, 10, 0, 0, 5, 192, 168, 0, 7]⟩) none, .packet none none, .endInterval].filterMap
          CaptureEvent.decode) ∧
      (runCapture 4 0 [.packet (some ⟨traceEthertypeIp, [0x45, 0, 0, 40, 0, 0, 0, 0, 64, 6, 0, 0,
          10, 0, 0, 5, 192, 168, 0, 7]⟩) none, .packet none none, .endInterval]).view 1 =
        capturedItems 4 1 0 [.packet (some ⟨traceEthertypeIp, [0x45, 0, 0, 40, 0, 0, 0, 0, 64, 6, 0, 0,
          10, 0, 0, 5, 192, 168, 0, 7]⟩) none, .packet none none, .endInterval] :=
  ⟨by decide, captured_stream_by_suffix_octet 0 (by decide) _⟩

end Corsaro.Report
