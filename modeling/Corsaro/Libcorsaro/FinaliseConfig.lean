import Mathlib.Data.Nat.Bitwise
import Corsaro.Libcorsaro.ReportConfig

/-! `corsaro_report_finalise_config` of the libcorsaro report plugin, as far as
it changes the parsed configuration before it starts the tracker threads: a
configuration without a row label gets `unlabeled`, and in the lite geo mode a
class mask that allows a continent class loses the region and polygon classes.
Every tracker copies the mask that results. The logging, the thread and socket
setup, and the standard options it copies in are left out. -/
namespace Corsaro.Libcorsaro.Report

def classBitSet (mask : Nat) (c : MetricClass) : Bool := mask &&& 1 <<< c.toNat != 0

/-- Whether a mask lets the plugin track a class: 0 stands for every class. -/
def tracksClass (mask : Nat) (c : MetricClass) : Bool := mask == 0 || classBitSet mask c

def geoContinentAllowed (mask : Nat) : Bool :=
  classBitSet mask .netacqContinent || classBitSet mask .ipinfoContinent ||
    classBitSet mask .maxmindContinent

def liteDisabled : List MetricClass := [.netacqRegion, .netacqPolygon, .ipinfoRegion]

/-- `corsaro_report_finalise_config` on the parsed options: the label `unlabeled` where none was
given, and `allowedmetricclasses &= ~todisable` in the lite geo mode. -/
def reportFinaliseConfig (conf : ReportConfig) : ReportConfig :=
  let conf := { conf with outlabel := some (conf.outlabel.getD "unlabeled") }
  if geoContinentAllowed conf.allowedmetricclasses then
    if conf.geomode = .lite then
      { conf with
        allowedmetricclasses := conf.allowedmetricclasses &&& (ulongMax ^^^ classMask liteDisabled) }
    else conf
  else conf

/-! ### Bits of the class mask -/

@[simp] theorem classBitSet_eq_testBit (mask : Nat) (c : MetricClass) :
    classBitSet mask c = mask.testBit c.toNat := by
  rw [classBitSet, Nat.one_shiftLeft, Nat.and_two_pow]
  cases mask.testBit c.toNat <;> simp

theorem testBit_classMask (classes : List MetricClass) (i : Nat) :
    (classMask classes).testBit i = classes.any (·.toNat = i) := by
  suffices from_any : ∀ mask, (classes.foldl (fun mask c => mask ||| 1 <<< c.toNat) mask).testBit i =
      (mask.testBit i || classes.any (·.toNat = i)) from
    (from_any 0).trans (by rw [Nat.zero_testBit, Bool.false_or])
  induction classes with
  | nil => simp
  | cons c rest ih =>
    intro mask
    rw [List.foldl_cons, ih]
    simp [Nat.one_shiftLeft, Nat.testBit_two_pow, Bool.or_assoc]

theorem testBit_liteMask {mask : Nat} (small : mask < 2 ^ metricClassLast) (i : Nat) :
    (mask &&& (ulongMax ^^^ classMask liteDisabled)).testBit i =
      (mask.testBit i && !liteDisabled.any (·.toNat = i)) := by
  rw [Nat.testBit_and, Nat.testBit_xor, testBit_classMask, ulongMax, Nat.testBit_two_pow_sub_one]
  by_cases low : i < 64
  · simp [low]
  · have high : mask < 2 ^ i := small.trans_le (Nat.pow_le_pow_right (by decide) (by
      unfold metricClassLast; omega))
    simp [Nat.testBit_eq_false_of_lt high]

theorem ne_zero_of_geoContinentAllowed {mask : Nat} (allowed : geoContinentAllowed mask = true) :
    mask ≠ 0 := by
  rintro rfl
  exact absurd allowed (by decide)

theorem geoContinentAllowed_liteMask {mask : Nat} (small : mask < 2 ^ metricClassLast) :
    geoContinentAllowed (mask &&& (ulongMax ^^^ classMask liteDisabled)) = geoContinentAllowed mask := by
  simp only [geoContinentAllowed, classBitSet_eq_testBit, testBit_liteMask small]
  simp [liteDisabled, MetricClass.toNat]

theorem any_liteDisabled (c : MetricClass) :
    liteDisabled.any (·.toNat = c.toNat) = decide (c ∈ liteDisabled) := by
  cases c <;> rfl

/-! ### What finalising does -/

theorem reportFinaliseConfig_frame (conf : ReportConfig) :
    { reportFinaliseConfig conf with
        outlabel := conf.outlabel, allowedmetricclasses := conf.allowedmetricclasses } = conf := by
  dsimp only [reportFinaliseConfig]
  split_ifs <;> rfl

theorem reportFinaliseConfig_outlabel (conf : ReportConfig) :
    (reportFinaliseConfig conf).outlabel = some (conf.outlabel.getD "unlabeled") := by
  dsimp only [reportFinaliseConfig]
  split_ifs <;> rfl

theorem reportFinaliseConfig_mask (conf : ReportConfig) :
    (reportFinaliseConfig conf).allowedmetricclasses =
      if geoContinentAllowed conf.allowedmetricclasses ∧ conf.geomode = .lite then
        conf.allowedmetricclasses &&& (ulongMax ^^^ classMask liteDisabled)
      else conf.allowedmetricclasses := by
  dsimp only [reportFinaliseConfig]
  by_cases allowed : geoContinentAllowed conf.allowedmetricclasses <;>
    by_cases lite : conf.geomode = .lite <;> simp [allowed, lite]

theorem reportFinaliseConfig_valid {conf : ReportConfig} (valid : ValidConfig conf) :
    ValidConfig (reportFinaliseConfig conf) := by
  have classes : (reportFinaliseConfig conf).allowedmetricclasses < 2 ^ metricClassLast := by
    rw [reportFinaliseConfig_mask]
    split_ifs
    · exact Nat.and_le_left.trans_lt valid.classes
    · exact valid.classes
  rw [← reportFinaliseConfig_frame conf] at valid
  exact ⟨valid.trackers, valid.hwm, valid.labels, classes, valid.src, valid.dst⟩

theorem tracksClass_reportFinaliseConfig {conf : ReportConfig}
    (small : conf.allowedmetricclasses < 2 ^ metricClassLast) (c : MetricClass) :
    tracksClass (reportFinaliseConfig conf).allowedmetricclasses c = true ↔
      tracksClass conf.allowedmetricclasses c = true ∧
        ¬(conf.geomode = .lite ∧ geoContinentAllowed conf.allowedmetricclasses = true ∧
          c ∈ liteDisabled) := by
  rw [reportFinaliseConfig_mask]
  split_ifs with narrow
  · have before := ne_zero_of_geoContinentAllowed narrow.1
    have after := ne_zero_of_geoContinentAllowed ((geoContinentAllowed_liteMask small).trans narrow.1)
    simp [tracksClass, before, after, testBit_liteMask small, any_liteDisabled, narrow]
  · exact ⟨fun tracked => ⟨tracked, fun ⟨lite, allowed, _⟩ => narrow ⟨allowed, lite⟩⟩, And.left⟩

example : tracksClass (reportFinaliseConfig
    { ReportConfig.defaults (fun _ _ => 0) with geomode := .lite }).allowedmetricclasses .netacqRegion := by
  decide

example : tracksClass (reportFinaliseConfig
    { ReportConfig.defaults (fun _ _ => 0) with
      geomode := .lite, allowedmetricclasses := metricLimitName 0 "netacq" }).allowedmetricclasses
    .netacqRegion = false := by
  decide

/-- For every YAML mapping, the configuration `corsaro_report_finalise_config` gives the trackers is
valid, is labelled, and of the parsed options differs only in its label and class mask, from which
it drops the region and polygon classes exactly in the lite geo mode with a continent class allowed;
a mask of 0 keeps every class. -/
theorem finalised_config_drops_lite_regions (libc : Libc) (memory : PortFilter → Nat → UInt8)
    (pairs : List (YamlNode × YamlNode)) :
    ∃ conf, reportParseConfig libc memory (.mapping pairs) = .ok conf ∧
      ValidConfig (reportFinaliseConfig conf) ∧
      (reportFinaliseConfig conf).outlabel = some (conf.outlabel.getD "unlabeled") ∧
      { reportFinaliseConfig conf with
          outlabel := conf.outlabel, allowedmetricclasses := conf.allowedmetricclasses } = conf ∧
      ∀ c, tracksClass (reportFinaliseConfig conf).allowedmetricclasses c = true ↔
        tracksClass conf.allowedmetricclasses c = true ∧
          ¬(conf.geomode = .lite ∧ geoContinentAllowed conf.allowedmetricclasses = true ∧
            c ∈ liteDisabled) := by
  have valid := @foldl_reportOption_valid libc pairs ⟨ReportConfig.defaults memory, fun _ => false⟩
    (defaults_valid memory)
  exact ⟨_, rfl, reportFinaliseConfig_valid ⟨valid.trackers, valid.hwm, valid.labels, valid.classes,
    valid.src, valid.dst⟩, reportFinaliseConfig_outlabel _, reportFinaliseConfig_frame _,
    tracksClass_reportFinaliseConfig valid.classes⟩

end Corsaro.Libcorsaro.Report
