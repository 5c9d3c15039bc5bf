import Corsaro.Report.Polling
import Corsaro.Report.Output

/-! The merge thread's output files across intervals. Once the polling loop is
over, `corsaro_report_merge_interval_results` returns 0 for an interval it
skips; otherwise it opens a file if the Avro writer has none, under the name
`derive_output_name` gives for the interval's timestamp, and writes the merged
results into it. `corsaro_report_rotate_output` only closes the writer's file,
so the next interval with results opens the next one. The Avro writer library
is not part of the repository: its file naming, whether it opens and closes a
file, and what it does with each row are parameters. The merge state is never
`NULL` here, it being what `corsaro_report_init_merging` made. -/
namespace Corsaro.Report

structure OutFile where
  name : String
  rows : List ReportResult
  deriving DecidableEq, Repr

structure AvroWriter where
  current : Option OutFile
  closed : List OutFile

def AvroWriter.files (w : AvroWriter) : List OutFile := w.closed ++ w.current.toList

def AvroWriter.append (w : AvroWriter) (rows : List ReportResult) : AvroWriter :=
  { w with current := w.current.map fun f => { f with rows := f.rows ++ rows } }

structure AvroLib where
  generateAvroFileName : Nat → Int → Option String
  startAvroWriter : String → Bool
  closeAvroWriter : Option OutFile → Bool
  avro : ReportResult → AvroOutcome

def corsaroReportDeriveOutputName (lib : AvroLib) (timestamp : Nat) (threadid : Int) :
    Option String :=
  lib.generateAvroFileName timestamp threadid

structure ReportMergeState where
  writer : AvroWriter
  released : List ReportResult

def ReportMergeState.init : ReportMergeState := ⟨⟨none, []⟩, []⟩

/-- The writer made ready for the interval ending at `ts`, opening the file `derive_output_name`
names if needed. -/
def readyWriter (lib : AvroLib) (w : AvroWriter) (ts : Nat) : Option AvroWriter :=
  match w.current with
  | some _ => some w
  | none =>
    match corsaroReportDeriveOutputName lib ts (-1) with
    | none => none
    | some outname =>
      if lib.startAvroWriter outname then some { w with current := some ⟨outname, []⟩ } else none

/-- The end of `corsaro_report_merge_interval_results`, after the polling loop left `polled`. -/
def mergeIntervalTail (lib : AvroLib) (st : ReportMergeState) (ts : Nat) (polled : MergeState) :
    Int × ReportMergeState :=
  if polled.skipresult then (0, st)
  else
    match readyWriter lib st.writer ts with
    | none => (-1, st)
    | some w =>
      let written := (writeAllMetrics lib.avro polled.results).2
      (mergeWriteReturn lib.avro polled.results,
        ⟨w.append written.appended, st.released ++ written.released⟩)

/-- `corsaro_report_merge_interval_results` for the interval ending at `ts`, its polling loop making
`visits`. -/
def corsaroReportMergeIntervalResults (lib : AvroLib) (trackerCount ts : Nat)
    (st : ReportMergeState) (visits : List (Nat × Tracker)) :
    Except MergeFault (Int × ReportMergeState) :=
  (pollLoop trackerCount ts MergeState.init visits).map (mergeIntervalTail lib st ts)

/-- `corsaro_report_rotate_output`; a failed close is taken to leave the writer as it was. -/
def corsaroReportRotateOutput (lib : AvroLib) (st : ReportMergeState) : Int × ReportMergeState :=
  if lib.closeAvroWriter st.writer.current then (0, { st with writer := ⟨none, st.writer.files⟩ })
  else (-1, st)

/-- The calls the merge thread receives: merge the interval ending at `ts`, the polling loop having
left `polled`, or rotate the output. -/
inductive MergeCall
  | interval (ts : Nat) (polled : MergeState)
  | rotate

def mergeCallStep (lib : AvroLib) (st : ReportMergeState) : MergeCall → Int × ReportMergeState
  | .interval ts polled => mergeIntervalTail lib st ts polled
  | .rotate => corsaroReportRotateOutput lib st

def runMerge (lib : AvroLib) (st : ReportMergeState) : List MergeCall → List Int × ReportMergeState
  | [] => ([], st)
  | c :: rest =>
    let next := mergeCallStep lib st c
    let after := runMerge lib next.2 rest
    (next.1 :: after.1, after.2)

/-! ### The files the design asks for -/

def writtenRows (avro : ReportResult → AvroOutcome) (results : ResultMap) : List ReportResult :=
  (attempted avro results).filter (fun r => avro r = .written)

def MergeCall.isRotate : MergeCall → Bool
  | .interval .. => false
  | .rotate => true

def MergeCall.complete : MergeCall → Option (Nat × ResultMap)
  | .interval ts polled => if polled.skipresult then none else some (ts, polled.results)
  | .rotate => none

/-- The intervals with a complete set of results, cut at each rotation. -/
def stretches (calls : List MergeCall) : List (List (Nat × ResultMap)) :=
  (calls.splitOnP MergeCall.isRotate).map (List.filterMap MergeCall.complete)

def stretchRows (lib : AvroLib) (s : List (Nat × ResultMap)) : List ReportResult :=
  s.flatMap fun i => writtenRows lib.avro i.2

/-- The file of a stretch, in the words of `rotate_output`: a new file for the next complete
interval after a rotation, named after the first interval it covers. -/
def stretchFile (lib : AvroLib) : List (Nat × ResultMap) → Option OutFile
  | [] => none
  | s@((ts, _) :: _) =>
    (corsaroReportDeriveOutputName lib ts (-1)).map fun name => ⟨name, stretchRows lib s⟩

/-- The files of a run that starts with `current` open: its first stretch goes on into that file. -/
def continueFiles (lib : AvroLib) : Option OutFile → List (List (Nat × ResultMap)) → List OutFile
  | some f, s :: rest => { f with rows := f.rows ++ stretchRows lib s } :: rest.filterMap (stretchFile lib)
  | some f, [] => [f]
  | none, ss => ss.filterMap (stretchFile lib)

@[simp] theorem stretchRows_nil (lib : AvroLib) : stretchRows lib [] = [] := rfl

@[simp] theorem stretchRows_cons (lib : AvroLib) (i : Nat × ResultMap) (s : List (Nat × ResultMap)) :
    stretchRows lib (i :: s) = writtenRows lib.avro i.2 ++ stretchRows lib s :=
  List.flatMap_cons _ _ _

theorem stretches_cons (c : MergeCall) (calls : List MergeCall) :
    stretches (c :: calls) =
      if c.isRotate then [] :: stretches calls
      else (stretches calls).modifyHead (c.complete.toList ++ ·) := by
  obtain ⟨s, rest, split⟩ := List.exists_cons_of_ne_nil (List.splitOnP_ne_nil MergeCall.isRotate calls)
  cases c with
  | rotate => simp [stretches, MergeCall.isRotate]
  | interval ts polled =>
    simp only [stretches, List.splitOnP_cons, MergeCall.isRotate, split]
    cases complete : (MergeCall.interval ts polled).complete <;> simp [List.filterMap_cons, complete]

theorem stretches_ne_nil (calls : List MergeCall) : stretches calls ≠ [] := by
  simpa [stretches] using List.splitOnP_ne_nil MergeCall.isRotate calls

/-! ### What one call does -/

theorem writeAllMetrics_appended (avro : ReportResult → AvroOutcome) (results : ResultMap) :
    (writeAllMetrics avro results).2.appended = writtenRows avro results ∧
      (writeAllMetrics avro results).2.released = results := by
  obtain ⟨-, rel, app, -⟩ := writeAll_run avro results ⟨results, false, false, [], []⟩ rfl
  exact ⟨by simpa [writeAllMetrics] using app, by simpa [writeAllMetrics] using rel⟩

theorem readyWriter_some {lib : AvroLib} {w w' : AvroWriter} {ts : Nat}
    (ready : readyWriter lib w ts = some w') :
    ∃ f, w' = { w with current := some f } ∧ (w.current = some f ∨
      w.current = none ∧ corsaroReportDeriveOutputName lib ts (-1) = some f.name ∧ f.rows = []) := by
  unfold readyWriter at ready
  split at ready
  · rename_i f current
    cases ready
    exact ⟨f, by rw [← current], .inl current⟩
  · rename_i current
    split at ready
    · cases ready
    · rename_i outname named
      split_ifs at ready
      cases ready
      exact ⟨⟨outname, []⟩, rfl, .inr ⟨current, named, rfl⟩⟩

theorem mergeIntervalTail_complete {lib : AvroLib} {st : ReportMergeState} {ts : Nat}
    {polled : MergeState} (complete : polled.skipresult = false)
    (ok : (mergeIntervalTail lib st ts polled).1 = 0) :
    ∃ f, (st.writer.current = some f ∨
        st.writer.current = none ∧ corsaroReportDeriveOutputName lib ts (-1) = some f.name ∧
          f.rows = []) ∧
      (mergeIntervalTail lib st ts polled).2 =
        ⟨⟨some { f with rows := f.rows ++ writtenRows lib.avro polled.results }, st.writer.closed⟩,
          st.released ++ polled.results⟩ := by
  obtain ⟨appended, released⟩ := writeAllMetrics_appended lib.avro polled.results
  simp only [mergeIntervalTail, complete] at ok ⊢
  rcases ready : readyWriter lib st.writer ts with _ | w
  · simp [ready] at ok
  · obtain ⟨f, rfl, opened⟩ := readyWriter_some ready
    exact ⟨f, opened, by simp [AvroWriter.append, appended, released]⟩

/-! ### Runs -/

theorem runMerge_files (lib : AvroLib) (calls : List MergeCall) (st : ReportMergeState)
    (ok : ∀ ret ∈ (runMerge lib st calls).1, ret = 0) :
    (runMerge lib st calls).2.writer.files =
        st.writer.closed ++ continueFiles lib st.writer.current (stretches calls) ∧
      (runMerge lib st calls).2.released =
        st.released ++ (calls.filterMap MergeCall.complete).flatMap Prod.snd := by
  induction calls generalizing st with
  | nil =>
    cases current : st.writer.current <;>
      simp [runMerge, stretches, AvroWriter.files, current, continueFiles, stretchFile]
  | cons c rest ih =>
    have first : (mergeCallStep lib st c).1 = 0 := ok _ (List.mem_cons_self _ _)
    obtain ⟨files, released⟩ :=
      ih (mergeCallStep lib st c).2 fun ret mem => ok ret (List.mem_cons_of_mem _ mem)
    obtain ⟨s, ss, split⟩ := List.exists_cons_of_ne_nil (stretches_ne_nil rest)
    simp only [runMerge]
    rw [files, released, stretches_cons, split]
    cases c with
    | rotate =>
      have closed : lib.closeAvroWriter st.writer.current = true := by
        by_contra failed
        simp [mergeCallStep, corsaroReportRotateOutput, failed] at first
      simp only [mergeCallStep, corsaroReportRotateOutput, if_pos closed]
      cases current : st.writer.current <;>
        simp [current, AvroWriter.files, continueFiles, stretchFile, MergeCall.isRotate, MergeCall.complete]
    | interval ts polled =>
      cases skip : polled.skipresult
      · obtain ⟨f, opened, after⟩ := mergeIntervalTail_complete skip first
        simp only [mergeCallStep, after, MergeCall.isRotate, List.filterMap_cons, MergeCall.complete, skip]
        rcases opened with current | ⟨current, named, empty⟩
        · simp [current, continueFiles, AvroWriter.files]
        · simp [current, continueFiles, AvroWriter.files, stretchFile, named, empty]
      · simp [mergeCallStep, mergeIntervalTail, skip, MergeCall.isRotate, MergeCall.complete]

/-- Over any run of the merge thread in which every call returns 0, the Avro
files are those of the stretches between rotations that hold an interval with a
complete set of results: each named by `derive_output_name` after the timestamp
of its first such interval, and holding the written rows of every such interval
of the stretch, in order; a stretch without one opens no file. The results
given back to the memory handler are those of the complete intervals alone: the
results merged for an interval that is skipped are never released. -/
theorem output_file_per_rotation (lib : AvroLib) (calls : List MergeCall)
    (ok : ∀ ret ∈ (runMerge lib ReportMergeState.init calls).1, ret = 0) :
    (runMerge lib ReportMergeState.init calls).2.writer.files =
        (stretches calls).filterMap (stretchFile lib) ∧
      (runMerge lib ReportMergeState.init calls).2.released =
        (calls.filterMap MergeCall.complete).flatMap Prod.snd := by
  simpa [ReportMergeState.init, continueFiles] using runMerge_files lib calls ReportMergeState.init ok

def timestampLib : AvroLib :=
  ⟨fun ts _ => some s!"report-{ts}", fun _ => true, fun _ => true, fun _ => .written⟩

def rotationCalls : List MergeCall :=
  [.interval 300 ⟨[newResult 1 300], fun _ => true, 4, false⟩, .rotate, .rotate,
    .interval 600 ⟨[newResult 2 600], fun _ => true, 4, true⟩,
    .interval 900 ⟨[newResult 3 900], fun _ => true, 4, false⟩]

theorem output_file_per_rotation_sample :
    (∀ ret ∈ (runMerge timestampLib ReportMergeState.init rotationCalls).1, ret = 0) ∧
      (runMerge timestampLib ReportMergeState.init rotationCalls).2.writer.files =
        (stretches rotationCalls).filterMap (stretchFile timestampLib) ∧
      (runMerge timestampLib ReportMergeState.init rotationCalls).2.released =
        (rotationCalls.filterMap MergeCall.complete).flatMap Prod.snd :=
  ⟨by decide, output_file_per_rotation timestampLib rotationCalls (by decide)⟩

example : (runMerge timestampLib ReportMergeState.init rotationCalls).2.writer.files =
    [⟨"report-300", [newResult 1 300]⟩, ⟨"report-900", [newResult 3 900]⟩] := by
  decide

end Corsaro.Report
