import Corsaro.Report.Processing

/-! The text `write_single_metric` gives a result before the row goes to Avro:
the switch on the id's upper half sets `metrictype` to the class's name and
`metricval` to what `snprintf` prints into `valspace`. A geo-location value is
the two-byte code that `update_maxmind_tags` and `update_netacq_tags` load from
libipmeta's record with a `uint16_t` read, on a little-endian host. -/
namespace Corsaro.Report

def MetricClass.all : List MetricClass :=
  [.combined, .maxmindContinent, .maxmindCountry, .netacqContinent, .netacqCountry, .prefixAsn,
    .tcpSourcePort, .tcpDestPort, .udpSourcePort, .udpDestPort, .ipProtocol, .icmpCode, .icmpType]

def MetricClass.ofNat? (n : Nat) : Option MetricClass :=
  MetricClass.all.find? (·.toNat = n)

def MetricClass.typeText : MetricClass → String
  | .combined => "combined"
  | .ipProtocol => "ipprotocol"
  | .icmpCode => "icmp-code"
  | .icmpType => "icmp-type"
  | .tcpSourcePort => "tcpsourceport"
  | .tcpDestPort => "tcpdestport"
  | .udpSourcePort => "udpsourceport"
  | .udpDestPort => "udpdestport"
  | .maxmindContinent => "maxmind-continent"
  | .maxmindCountry => "maxmind-country"
  | .netacqContinent => "netacq-continent"
  | .netacqCountry => "netacq-country"
  | .prefixAsn => "pfx2asn"

def cString (bytes : List UInt8) : List UInt8 := bytes.takeWhile (· ≠ 0)

def asciiBytes (text : String) : List UInt8 := text.toList.map fun c => c.toNat.toUInt8

/-- `snprintf(valspace, 2048, "%lu", v)`. -/
def printDecimal (v : Nat) : List UInt8 := asciiBytes (Nat.repr v)

/-- `snprintf(valspace, 2048, "%c%c", metricid & 0xff, (metricid >> 8) & 0xff)`, read as a C string.
-/
def printCode (metricid : Nat) : List UInt8 :=
  cString [(metricid &&& 0xff).toUInt8, ((metricid >>> 8) &&& 0xff).toUInt8]

def MetricClass.valueText (c : MetricClass) (metricid : Nat) : List UInt8 :=
  match c with
  | .combined => asciiBytes "all"
  | .ipProtocol | .icmpCode | .icmpType | .tcpSourcePort | .tcpDestPort | .udpSourcePort
  | .udpDestPort | .prefixAsn => printDecimal (metricValue metricid)
  | .maxmindContinent | .maxmindCountry | .netacqContinent | .netacqCountry => printCode metricid

/-- The switch of `write_single_metric`: the type and value texts, `none` for an id of no class. -/
def metricStrings (metricid : Nat) : Option (String × List UInt8) :=
  (MetricClass.ofNat? (metricType metricid)).map fun c => (c.typeText, c.valueText metricid)

/-- `*((uint16_t *)code)` on a little-endian host: the first byte is the low one. -/
def loadCode (first second : UInt8) : UInt32 := (first.toNat + second.toNat * 256).toUInt32

def MetricClass.IsGeo (c : MetricClass) : Prop :=
  c = .maxmindContinent ∨ c = .maxmindCountry ∨ c = .netacqContinent ∨ c = .netacqCountry

/-- What the row of a tag should show: `all`, a geo code's bytes up to any NUL, or the value in
decimal. -/
def tagText (c : MetricClass) (v : UInt32) : List UInt8 :=
  match c with
  | .combined => asciiBytes "all"
  | .maxmindContinent | .maxmindCountry | .netacqContinent | .netacqCountry =>
    cString [(v.toNat % 256).toUInt8, (v.toNat / 256 % 256).toUInt8]
  | _ => printDecimal v.toNat

/-! ### Decoding a metric id -/

theorem ofNat?_toNat (c : MetricClass) : MetricClass.ofNat? c.toNat = some c := by
  cases c <;> rfl

theorem typeText_injective {c d : MetricClass} (same : c.typeText = d.typeText) : c = d := by
  cases c <;> cases d <;> first | rfl | exact absurd same (by decide)

theorem printCode_genMetricid (c : MetricClass) (v : UInt32) :
    printCode (genMetricid c v) = cString [(v.toNat % 256).toUInt8, (v.toNat / 256 % 256).toUInt8] := by
  have low : genMetricid c v &&& 0xff = v.toNat % 256 := by
    rw [show (0xff : Nat) = 2 ^ 8 - 1 from rfl, Nat.and_pow_two_sub_one_eq_mod, genMetricid_eq]
    omega
  have high : genMetricid c v >>> 8 &&& 0xff = v.toNat / 256 % 256 := by
    rw [show (0xff : Nat) = 2 ^ 8 - 1 from rfl, Nat.and_pow_two_sub_one_eq_mod,
      Nat.shiftRight_eq_div_pow, genMetricid_eq]
    omega
  rw [printCode, low, high]

theorem metricStrings_genMetricid (c : MetricClass) (v : UInt32) :
    metricStrings (genMetricid c v) = some (c.typeText, tagText c v) := by
  rw [metricStrings, metricType_genMetricid, ofNat?_toNat, Option.map_some']
  cases c <;> simp only [MetricClass.valueText, tagText, metricValue_genMetricid, printCode_genMetricid]

theorem tagText_loadCode {c : MetricClass} (geo : c.IsGeo) {first second : UInt8}
    (letters : first ≠ 0 ∧ second ≠ 0) : tagText c (loadCode first second) = [first, second] := by
  have a := first.toNat_lt_size
  have b := second.toNat_lt_size
  change _ < 256 at a b
  have value : (loadCode first second).toNat = first.toNat + second.toNat * 256 :=
    UInt32.toNat_ofNat_of_lt (by change _ < 4294967296; omega)
  have back : ∀ x : UInt8, x.toNat.toUInt8 = x := fun x =>
    UInt8.toNat.inj (UInt8.toNat_ofNat_of_lt x.toNat_lt_size)
  have low : (loadCode first second).toNat % 256 = first.toNat := by rw [value]; omega
  have high : (loadCode first second).toNat / 256 % 256 = second.toNat := by rw [value]; omega
  rcases geo with rfl | rfl | rfl | rfl <;> simp [tagText, low, high, back, cString, letters.1, letters.2]

/-- The text of a result row: for every class and 32-bit value,
`write_single_metric` gives `GEN_METRICID(class, value)` the name of its class,
which no other class has, and shows the value: `all` for the combined tag, the
value in decimal for a protocol, ICMP, port or ASN tag, and for a geo-location
tag the two bytes of the code the tagger loaded, when neither is NUL. -/
theorem row_text_names_class_and_value :
    (∀ (c : MetricClass) (v : UInt32), metricStrings (genMetricid c v) = some (c.typeText, tagText c v)) ∧
      (∀ c d : MetricClass, c.typeText = d.typeText → c = d) ∧
      (∀ (c : MetricClass) (v : UInt32), ¬c.IsGeo → c ≠ .combined → tagText c v = printDecimal v.toNat) ∧
      (∀ (c : MetricClass) (first second : UInt8), c.IsGeo → first ≠ 0 → second ≠ 0 →
        tagText c (loadCode first second) = [first, second]) :=
  ⟨metricStrings_genMetricid, fun _ _ => typeText_injective,
    fun c v geo combined => by
      cases c <;> first | rfl | exact absurd rfl combined | exact absurd (by simp [MetricClass.IsGeo]) geo,
    fun _ _ _ geo first second => tagText_loadCode geo ⟨first, second⟩⟩

end Corsaro.Report
