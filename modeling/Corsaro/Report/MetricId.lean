import Mathlib.Data.Nat.Bitwise

/-! Metric identifiers of the report plugins. A metric id is a 64-bit key whose
upper half is the metric class and whose lower half is the class's value, as
the comments on `metricid` in both plugins and the decoding in
`write_single_metric` read it. libcorsaro3 and libcorsaro each define their own
`GEN_METRICID`; both are modelled on `Nat` with the `uint64_t` wrap written out. -/
namespace Corsaro.Report

/-- `corsaro_report_metric_class_t` of the libcorsaro3 report plugin. -/
inductive MetricClass where
  | combined | maxmindContinent | maxmindCountry | netacqContinent | netacqCountry
  | prefixAsn | tcpSourcePort | tcpDestPort | udpSourcePort | udpDestPort
  | ipProtocol | icmpCode | icmpType
  deriving DecidableEq, Repr

def MetricClass.toNat : MetricClass → Nat
  | .combined => 0 | .maxmindContinent => 1 | .maxmindCountry => 2
  | .netacqContinent => 3 | .netacqCountry => 4 | .prefixAsn => 5
  | .tcpSourcePort => 6 | .tcpDestPort => 7 | .udpSourcePort => 8
  | .udpDestPort => 9 | .ipProtocol => 10 | .icmpCode => 11 | .icmpType => 12

theorem MetricClass.toNat_lt (c : MetricClass) : c.toNat < 13 := by
  cases c <;> decide

theorem MetricClass.toNat_injective {c d : MetricClass} (same : c.toNat = d.toNat) :
    c = d := by
  cases c <;> cases d <;> first | rfl | exact absurd same (by decide)

/-- `GEN_METRICID(class, val)` of libcorsaro3: `((((uint64_t) class) << 32) + ((uint64_t)val))`. -/
def genMetricid (c : MetricClass) (val : UInt32) : Nat :=
  (c.toNat <<< 32 + val.toNat) % 2 ^ 64

theorem genMetricid_eq (c : MetricClass) (val : UInt32) :
    genMetricid c val = c.toNat * 2 ^ 32 + val.toNat := by
  have hc := c.toNat_lt
  have hv := val.toNat_lt_size
  simp only [genMetricid, Nat.shiftLeft_eq]
  exact Nat.mod_eq_of_lt (by change val.toNat < 4294967296 at hv; omega)

def metricType (metricid : Nat) : Nat := metricid >>> 32

def metricValue (metricid : Nat) : Nat := metricid &&& 0xffffffff

theorem metricType_genMetricid (c : MetricClass) (val : UInt32) :
    metricType (genMetricid c val) = c.toNat := by
  have hv := val.toNat_lt_size
  change val.toNat < 4294967296 at hv
  simp only [metricType, genMetricid_eq, Nat.shiftRight_eq_div_pow]
  omega

theorem metricValue_genMetricid (c : MetricClass) (val : UInt32) :
    metricValue (genMetricid c val) = val.toNat := by
  have hv := val.toNat_lt_size
  change val.toNat < 4294967296 at hv
  rw [metricValue, genMetricid_eq, show (0xffffffff : Nat) = 2 ^ 32 - 1 from rfl,
    Nat.and_pow_two_sub_one_eq_mod]
  omega

/-- The libcorsaro3 id decodes back to the class and value it was built from. -/
theorem genMetricid_decode (c : MetricClass) (val : UInt32) :
    metricType (genMetricid c val) = c.toNat ∧ metricValue (genMetricid c val) = val.toNat :=
  ⟨metricType_genMetricid c val, metricValue_genMetricid c val⟩

theorem genMetricid_injective {c d : MetricClass} {v w : UInt32}
    (same : genMetricid c v = genMetricid d w) : c = d ∧ v = w := by
  have hc := congrArg metricType same
  have hv := congrArg metricValue same
  simp only [metricType_genMetricid, metricValue_genMetricid] at hc hv
  exact ⟨MetricClass.toNat_injective hc, UInt32.toNat.inj hv⟩

end Corsaro.Report

namespace Corsaro.Libcorsaro.Report

/-- `GEN_METRICID(class, val)` of libcorsaro's report_internal.h: `((((uint64_t) class) << 32) +
((uint64_t)val) & 0xFFFFFFFF)`, in which C binds `+` before `&`. The class is the enumerator's
value. -/
def genMetricid (cls : Nat) (val : UInt32) : Nat :=
  ((cls <<< 32 + val.toNat) % 2 ^ 64) &&& 0xFFFFFFFF

theorem genMetricid_eq (cls : Nat) (val : UInt32) : genMetricid cls val = val.toNat := by
  have hv := val.toNat_lt_size
  change val.toNat < 4294967296 at hv
  rw [genMetricid, show (0xFFFFFFFF : Nat) = 2 ^ 32 - 1 from rfl,
    Nat.and_pow_two_sub_one_eq_mod, Nat.shiftLeft_eq]
  omega

/-- Class 1 (`CORSARO_METRIC_CLASS_MAXMIND_CONTINENT`) with value 0 gets the id of
class 0 (`CORSARO_METRIC_CLASS_COMBINED`), and decodes as class 0. -/
theorem genMetricid_merges_classes :
    genMetricid 1 0 = genMetricid 0 0 ∧ Report.metricType (genMetricid 1 0) = 0 := by
  decide

end Corsaro.Libcorsaro.Report
