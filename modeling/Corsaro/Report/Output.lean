import Corsaro.Report.Merge

/-! Writing one interval's merged results: `write_all_metrics` walks the result
map with `HASH_ITER`, writes each result through `write_single_metric` until an
append fails, and deletes and releases every result; the merge thread then
returns what `corsaro_report_merge_interval_results` makes of its return value.
The Avro library is not part of the repository: what it does with each row is a
parameter. The metric-type and value strings `write_single_metric` fills in are
left out. -/
namespace Corsaro.Report

def avroConversionFailure : Int := -1

def avroWriteFailure : Int := -2

/-- What the Avro library does with one result row. -/
inductive AvroOutcome
  | written
  | conversionFailure
  | writeFailure
  deriving DecidableEq, Repr

def writeSingleMetric (outcome : AvroOutcome) : Int :=
  match outcome with
  | .written => 0
  | .conversionFailure => avroConversionFailure
  | .writeFailure => avroWriteFailure

/-- The state of `write_all_metrics`: the result map, `stopwriting`, `haderror`, and the rows
appended and released. -/
structure WriteState where
  resultmap : ResultMap
  stopwriting : Bool
  haderror : Bool
  appended : List ReportResult
  released : List ReportResult

def writeAllStep (avro : ReportResult → AvroOutcome) (st : WriteState) (r : ReportResult) :
    WriteState :=
  let st := if st.stopwriting then st else
    let ret := writeSingleMetric (avro r)
    { st with
      stopwriting := decide (ret = avroWriteFailure)
      haderror := st.haderror || decide (ret < 0)
      appended := if ret = 0 then st.appended ++ [r] else st.appended }
  { st with resultmap := st.resultmap.erase r, released := st.released ++ [r] }

/-- `write_all_metrics`: its return value `haderror`, and its state after the loop. -/
def writeAllMetrics (avro : ReportResult → AvroOutcome) (resultmap : ResultMap) :
    Int × WriteState :=
  let st := resultmap.foldl (writeAllStep avro) ⟨resultmap, false, false, [], []⟩
  (if st.haderror then 1 else 0, st)

/-- The end of `corsaro_report_merge_interval_results`: -1 if `write_all_metrics` returned a
negative value. -/
def mergeWriteReturn (avro : ReportResult → AvroOutcome) (results : ResultMap) : Int :=
  if (writeAllMetrics avro results).1 < 0 then -1 else 0

/-! ### The loop -/

/-- The rows the loop hands to the Avro writer: every row up to and including the first whose append
fails. -/
def attempted (avro : ReportResult → AvroOutcome) : ResultMap → ResultMap
  | [] => []
  | r :: rest => if avro r = .writeFailure then [r] else r :: attempted avro rest

section Loop

variable (avro : ReportResult → AvroOutcome)

theorem writeAll_stopped (results : ResultMap) (st : WriteState) (stopped : st.stopwriting = true) :
    results.foldl (writeAllStep avro) st =
      { st with
        resultmap := results.foldl List.erase st.resultmap
        released := st.released ++ results } := by
  induction results generalizing st with
  | nil => simp
  | cons r rest ih =>
    rw [List.foldl_cons, ih _ (by simp [writeAllStep, stopped])]
    simp [writeAllStep, stopped]

theorem writeAll_run (results : ResultMap) (st : WriteState) (writing : st.stopwriting = false) :
    (results.foldl (writeAllStep avro) st).resultmap = results.foldl List.erase st.resultmap ∧
      (results.foldl (writeAllStep avro) st).released = st.released ++ results ∧
      (results.foldl (writeAllStep avro) st).appended =
        st.appended ++ (attempted avro results).filter (fun r => avro r = .written) ∧
      (results.foldl (writeAllStep avro) st).haderror =
        (st.haderror || (attempted avro results).any (fun r => avro r ≠ .written)) := by
  induction results generalizing st with
  | nil => simp [attempted]
  | cons r rest ih =>
    rw [List.foldl_cons]
    cases outcome : avro r with
    | written | conversionFailure =>
      obtain ⟨map, rel, app, err⟩ := ih (writeAllStep avro st r) (by
        simp [writeAllStep, writing, outcome, writeSingleMetric, avroConversionFailure,
          avroWriteFailure])
      rw [map, rel, app, err]
      simp [attempted, outcome, writeAllStep, writing, writeSingleMetric, avroConversionFailure]
    | writeFailure =>
      rw [writeAll_stopped avro rest _ (by simp [writeAllStep, writing, outcome, writeSingleMetric])]
      simp [attempted, outcome, writeAllStep, writing, writeSingleMetric, avroWriteFailure]

theorem any_attempted_iff (results : ResultMap) :
    (attempted avro results).any (fun r => avro r ≠ .written) = false ↔
      ∀ r ∈ results, avro r = .written := by
  induction results with
  | nil => simp [attempted]
  | cons r rest ih =>
    by_cases stop : avro r = .writeFailure
    · simp [attempted, stop]
    · simp only [attempted, if_neg stop, List.any_cons, Bool.or_eq_false_iff, ih,
        List.mem_cons, forall_eq_or_imp, decide_eq_false_iff_not, not_not]

theorem attempted_of_written {results : ResultMap} (all : ∀ r ∈ results, avro r = .written) :
    attempted avro results = results := by
  induction results with
  | nil => rfl
  | cons r rest ih =>
    have head : avro r = .written := all r (List.mem_cons_self r rest)
    rw [attempted, if_neg (by simp [head]), ih fun q mem => all q (List.mem_cons_of_mem r mem)]

theorem foldl_erase_self (results : ResultMap) : results.foldl List.erase results = [] := by
  suffices from_any : ∀ extra : ResultMap, results.foldl List.erase (results ++ extra) = extra by
    simpa using from_any []
  induction results with
  | nil => intro extra; rfl
  | cons r rest ih => intro extra; simp [ih]

end Loop

/-! ### What `write_all_metrics` returns and releases -/

theorem writeAllMetrics_fst (avro : ReportResult → AvroOutcome) (results : ResultMap) :
    (writeAllMetrics avro results).1 = if (writeAllMetrics avro results).2.haderror then 1 else 0 :=
  rfl

theorem writeAllMetrics_nonneg (avro : ReportResult → AvroOutcome) (results : ResultMap) :
    0 ≤ (writeAllMetrics avro results).1 := by
  rw [writeAllMetrics_fst]
  split <;> decide

/-- `write_all_metrics` returns 0 exactly when every result row was written,
and 1 otherwise. It appends, in the map's order, the rows up to the first
failed append that the Avro library writes. In every case it empties the map
and releases each result once, in the map's order. -/
theorem write_all_metrics_contract (avro : ReportResult → AvroOutcome) (results : ResultMap) :
    ((writeAllMetrics avro results).1 = 0 ↔ ∀ r ∈ results, avro r = .written) ∧
      ((writeAllMetrics avro results).1 = 0 ↔ (writeAllMetrics avro results).2.appended = results) ∧
      ((writeAllMetrics avro results).1 = 0 ∨ (writeAllMetrics avro results).1 = 1) ∧
      (writeAllMetrics avro results).2.appended =
        (attempted avro results).filter (fun r => avro r = .written) ∧
      (writeAllMetrics avro results).2.resultmap = [] ∧
      (writeAllMetrics avro results).2.released = results := by
  obtain ⟨map, rel, app, err⟩ := writeAll_run avro results ⟨results, false, false, [], []⟩ rfl
  have appended : (writeAllMetrics avro results).2.appended =
      (attempted avro results).filter (fun r => avro r = .written) := by
    simpa [writeAllMetrics] using app
  have ok : (writeAllMetrics avro results).1 = 0 ↔ ∀ r ∈ results, avro r = .written := by
    rw [writeAllMetrics_fst, ← any_attempted_iff]
    simp only [writeAllMetrics, err, Bool.false_or]
    split <;> simp_all
  refine ⟨ok, ?_, ?_, appended, by simpa [writeAllMetrics, foldl_erase_self] using map,
    by simpa [writeAllMetrics] using rel⟩
  · rw [ok, appended]
    constructor
    · intro all
      rw [attempted_of_written avro all]
      exact List.filter_eq_self.mpr fun r mem => by simp [all r mem]
    · intro same r mem
      rw [← same] at mem
      simpa using (List.mem_filter.mp mem).2
  · rw [writeAllMetrics_fst]
    split <;> simp

/-- One result whose Avro conversion fails: `write_all_metrics` writes nothing
and returns 1, and since the merge thread only tests for a negative value, it
reports the interval as written. It does so whatever the Avro library does. -/
theorem failed_write_reported_as_success :
    (∀ avro results, mergeWriteReturn avro results = 0) ∧
      (writeAllMetrics (fun _ => .conversionFailure) [newResult 0 10]).1 = 1 ∧
      (writeAllMetrics (fun _ => .conversionFailure) [newResult 0 10]).2.appended = [] ∧
      mergeWriteReturn (fun _ => .conversionFailure) [newResult 0 10] = 0 := by
  have never : ∀ avro results, mergeWriteReturn avro results = 0 := fun avro results =>
    if_neg (not_lt.mpr (writeAllMetrics_nonneg avro results))
  exact ⟨never, by decide, by decide, never _ _⟩

end Corsaro.Report
