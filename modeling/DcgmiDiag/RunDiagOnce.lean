import DcgmiDiag.FailureResult
import DcgmiDiag.GpuList
import DcgmiDiag.JsonReport
import DcgmiDiag.TextReport
import DcgmiDiag.Details

/-!
# One diagnostic run: `Diag::RunDiagOnce`

A run initialises a response with the sentinel GPU ids, has `ExecuteDiagOnServer`
start a `RemoteDiagExecutor` and poll it, and then either reports the engine's
failure or renders the response and classifies it. The poll loop and the signals are
the subject of `Signals`; here its outcome is an input: the run was killed, and the
initialised response is kept, or the executor finished, and its response is copied
over the initialised one. The executor's own response starts zero-filled, so on
that path nothing of the sentinel initialisation survives.

The GPU set of the report comes from the request's filter, or from the response
through `PopulateGpuList`. A filter index past the per-GPU array makes both renderers
read outside the record; the model stops there with `none`.
-/

namespace DcgmiDiag

/-- The state of a `Diag` object that a run reads and writes, with the process output
so far. -/
structure Diag where
  drd : RunDiag
  jsonOutput : Bool
  iterations : Nat
  jsonTmpValue : JsonValue
  stdout : List Printed

/-- Append to standard output. -/
def Diag.print (d : Diag) (printed : List Printed) : Diag := { d with stdout := d.stdout ++ printed }

/-- The document `HelperDisplayFailureMessage` prints in JSON mode: the build version and
the message as the runtime error. -/
def failureDocument (lib : Library) (errMsg : List Char) : JsonValue :=
  (JsonValue.null.update [.key .nvvsName, .key .nvvsVersionStr] (.string lib.buildVersion)).update
    [.key .nvvsName, .key .nvvsRuntimeError] (.string errMsg)

/-- `Diag::HelperDisplayFailureMessage`: a JSON document with the build version and the
message, or the message as a line. -/
def Diag.helperDisplayFailureMessage (lib : Library) (d : Diag) (errMsg : List Char) : Diag :=
  if d.jsonOutput then d.print [.json (failureDocument lib errMsg)] else d.print [.text errMsg]

/-- `Diag::HelperDisplayAsJson`: a single run prints its document, an iterated run keeps
it in `m_jsonTmpValue`. -/
def Diag.helperDisplayAsJson (d : Diag) (output : JsonValue) : Diag :=
  if d.iterations ≤ 1 then d.print [.json output] else { d with jsonTmpValue := output }

/-- What the host engine and the signals do to one run: whether the poll loop saw
`g_signalExit`, what `dcgmActionValidate_v2` returns and writes into the response it
is handed, and what `dcgmStopDiagnostic` returns. -/
structure Environment where
  killed : Bool
  dcgmActionValidate : RunDiag → DiagResponse → DcgmReturn × DiagResponse
  dcgmStopDiagnostic : DcgmReturn

/-- The executor's response before the engine writes it: `memset` to zero. -/
def remoteDiagExecutorResponse : DiagResponse := DiagResponse.zero

/-- `Diag::ExecuteDiagOnServer` after its poll loop: a kill returns
`DCGM_ST_NVVS_KILLED` and leaves `diagResult` alone, completion returns the executor's
result and copies its response over `diagResult`. -/
def executeDiagOnServer (env : Environment) (drd : RunDiag) (diagResult : DiagResponse) :
    DcgmReturn × DiagResponse :=
  if env.killed then (dcgmStNvvsKilled, diagResult)
  else env.dcgmActionValidate drd remoteDiagExecutorResponse

/-- The message of an engine failure without a system error of its own. -/
def unableToComplete (lib : Library) (drd : RunDiag) (result : DcgmReturn) : List Char :=
  "Error: Unable to complete diagnostic for group ".toList ++ (Nat.repr drd.groupId).toList ++
    ". Return: (".toList ++ (toString result).toList ++ ") ".toList ++ lib.errorString result ++
    ".".toList

/-- The message the failure branches of `RunDiagOnce` report for a result other than
`DCGM_ST_OK`: a fixed text for an incompatible group, an unsupported driver and a paused
host engine, and otherwise the response's system error, or a text with the group and
the return code when there is none, with a note when a timed-out diagnostic could not
be stopped. -/
def engineFailureMessage (lib : Library) (env : Environment) (drd : RunDiag) (result : DcgmReturn)
    (diagResult : DiagResponse) : List Char :=
  if result = dcgmStGroupIncompatible then
    "Error: Diagnostic can only be performed on a homogeneous group of GPUs.".toList
  else if result = dcgmStNotSupported then
    "Error: Diagnostic could not be run because the Tesla recommended driver is not being used.".toList
  else if result = dcgmStPaused then "Error: Diagnostic could not be run while DCGM is paused.".toList
  else
    let errMsg := if diagResult.systemError.msg.isEmpty then unableToComplete lib drd result
      else diagResult.systemError.msg
    if result = dcgmStTimeout ∧ env.dcgmStopDiagnostic ≠ dcgmStOk then
      errMsg ++ "\nError: Could not stop the launched diagnostic.".toList
    else errMsg

/-- The failure branches of `RunDiagOnce`: each displays its message through
`HelperDisplayFailureMessage`. -/
def Diag.reportEngineFailure (lib : Library) (env : Environment) (d : Diag) (result : DcgmReturn)
    (diagResult : DiagResponse) : Diag :=
  d.helperDisplayFailureMessage lib (engineFailureMessage lib env d.drd result diagResult)

/-- The GPU set of the report: the filter's indices, or `PopulateGpuList` when the
filter is empty. -/
def selectGpus (drd : RunDiag) (diagResult : DiagResponse) : List Nat :=
  if drd.gpuList.isEmpty then populateGpuList diagResult [] else parseGpuList drd.gpuList

/-- The GPU set as indices of the per-GPU array; `none` when an index is past it. -/
def gpuSlots (gpuVec : List Nat) : Option (List (Fin dcgmMaxNumDevices)) :=
  gpuVec.mapM fun gpuIndex => if inside : gpuIndex < dcgmMaxNumDevices then some ⟨gpuIndex, inside⟩ else none

/-- `DIAG_HEADER`, the table's head. -/
def diagHeader : List Char :=
  ("+---------------------------+------------------------------------------------+\n" ++
    "| Diagnostic                | Result                                         |\n" ++
    "+===========================+================================================+\n").toList

/-- `DIAG_FOOTER`. -/
def diagFooter : List Char :=
  "+---------------------------+------------------------------------------------+\n".toList

/-- The text branch of the rendering in `RunDiagOnce`. -/
def textReport (drd : RunDiag) (diagResult : DiagResponse)
    (gpuIndices : List (Fin dcgmMaxNumDevices)) : List Printed :=
  [.text "Successfully ran diagnostic for group.".toList, .text diagHeader] ++
    helperDisplayVersionAndDevIds diagResult ++ helperDisplayDeployment diagResult ++
    (if gpuIndices.length > 0 then
      helperDisplayIntegration drd diagResult.perGpuResponses gpuIndices ++
        helperDisplayHardware drd diagResult.perGpuResponses gpuIndices ++
        helperDisplayPerformance drd diagResult.perGpuResponses gpuIndices
    else []) ++ [.text diagFooter]

/-- The text report never shows the hardware return code. `HelperDisplayGpuResults`
prints it for a test named `Diagnostic` that warned on every GPU, but
`HelperDisplayHardware` names the Diagnostic test `DIAGNOSTIC_PLUGIN_NAME`,
`diagnostic`, and no other section uses the name `Diagnostic`: whatever return codes
the GPU slots hold, the report is the same. -/
theorem textReport_ignores_return_codes (drd : RunDiag) (diagResult : DiagResponse)
    (gpuIndices : List (Fin dcgmMaxNumDevices)) (codes : Fin dcgmMaxNumDevices → Nat) :
    textReport drd { diagResult with perGpuResponses := fun i =>
        { diagResult.perGpuResponses i with hwDiagnosticReturn := codes i } } gpuIndices =
      textReport drd diagResult gpuIndices := by
  simp (disch := decide) only [textReport, helperDisplayIntegration, helperDisplayHardware,
    helperDisplayPerformance, stressTests, List.flatMap_cons, List.flatMap_nil, helperDisplayGpuResults_of_ne]
  rfl

/- Under the name `Diagnostic` a test that warned on every GPU would show the code. -/
example :
    (helperDisplayGpuResults ⟨0, 0, [], [], 0, 0⟩ "Diagnostic".toList dcgmDiagnosticIndex
        (fun _ => { PerGpuResponse.zero with
          hwDiagnosticReturn := 7
          results := fun j => if j.val = dcgmDiagnosticIndex then { TestResult.zero with status := .warn } else .zero })
        [⟨0, by decide⟩]).filterMap Printed.row? =
      [(helperGetPluginName ⟨0, 0, [], [], 0, 0⟩ dcgmDiagnosticIndex, "Warn - All".toList),
        ([], "  Code: (000000000007)".toList)] := by
  decide

/-- The rendering in `RunDiagOnce`: the JSON report or the text report. -/
def Diag.render (d : Diag) (diagResult : DiagResponse) (gpuIndices : List (Fin dcgmMaxNumDevices)) :
    Diag :=
  if d.jsonOutput then d.helperDisplayAsJson (helperJsonBuildOutput d.drd .null diagResult gpuIndices)
  else d.print (textReport d.drd diagResult gpuIndices)

/-- The rest of `RunDiagOnce` once the engine returned `DCGM_ST_OK`: a system error in
text mode is a failure; otherwise the report is rendered and the response
classified. -/
def Diag.reportResults (lib : Library) (d : Diag) (diagResult : DiagResponse) :
    Option (DcgmReturn × Diag) :=
  if !d.jsonOutput && !diagResult.systemError.msg.isEmpty then
    some (dcgmStNvvsError,
      d.helperDisplayFailureMessage lib ("Error: ".toList ++ diagResult.systemError.msg ++ ['\n']))
  else do
    let gpuIndices ← gpuSlots (selectGpus d.drd diagResult)
    pure (getFailureResult lib diagResult, d.render diagResult gpuIndices)

/-- `Diag::RunDiagOnce`. -/
def runDiagOnce (lib : Library) (env : Environment) (d : Diag) : Option (DcgmReturn × Diag) :=
  let server := executeDiagOnServer env d.drd initializeDiagResponse
  if server.1 = dcgmStOk then d.reportResults lib server.2
  else some (server.1, d.reportEngineFailure lib env server.1 server.2)

/-! ## The outcome of a completed run -/

/-- A GPU set inside the array converts to slot indices with the same values. -/
theorem gpuSlots_of_inRange (gpuVec : List Nat) (inRange : ∀ gpuIndex ∈ gpuVec, gpuIndex < dcgmMaxNumDevices) :
    ∃ gpuIndices, gpuSlots gpuVec = some gpuIndices ∧ gpuIndices.map Fin.val = gpuVec := by
  induction gpuVec with
  | nil => exact ⟨[], rfl, rfl⟩
  | cons gpuIndex rest inductionHypothesis =>
    obtain ⟨restIndices, restSlots, restValues⟩ :=
      inductionHypothesis fun g member => inRange g (List.mem_cons_of_mem _ member)
    have inside := inRange gpuIndex (List.mem_cons_self _ _)
    refine ⟨⟨gpuIndex, inside⟩ :: restIndices, ?_, by simp [restValues]⟩
    simp only [gpuSlots] at restSlots ⊢
    rw [List.mapM_cons, restSlots]
    simp [inside]

/-- A run the signals did not kill never reads the response it initialised: the
executor's zero-filled response, as the engine wrote it, replaces it. -/
theorem executeDiagOnServer_completed (env : Environment) (drd : RunDiag) (diagResult : DiagResponse)
    (completed : env.killed = false) :
    executeDiagOnServer env drd diagResult = env.dcgmActionValidate drd remoteDiagExecutorResponse := by
  simp [executeDiagOnServer, completed]

/-- Once the engine returned `DCGM_ST_OK` with a response `r` that has no system error
in text mode, and the GPU set is inside the array, the run renders `r` and returns
its classification. -/
theorem runDiagOnce_of_ok (lib : Library) (env : Environment) (d : Diag) (r : DiagResponse)
    (completed : env.killed = false)
    (engineOk : env.dcgmActionValidate d.drd remoteDiagExecutorResponse = (dcgmStOk, r))
    (quiet : d.jsonOutput = false → r.systemError.msg = [])
    (gpuIndices : List (Fin dcgmMaxNumDevices))
    (slots : gpuSlots (selectGpus d.drd r) = some gpuIndices) :
    runDiagOnce lib env d = some (getFailureResult lib r, d.render r gpuIndices) := by
  have noSystemError : (!d.jsonOutput && !r.systemError.msg.isEmpty) = false := by
    cases json : d.jsonOutput <;> simp_all
  simp [runDiagOnce, executeDiagOnServer_completed _ _ _ completed, engineOk, Diag.reportResults,
    noSystemError, slots]

/-- For a response the engine returns with `DCGM_ST_OK`, no system error in text mode and
a GPU set inside the array, `RunDiagOnce` renders the GPUs `gpuSlots` picks and returns
`GetFailureResult` of the whole response: non-OK exactly when some level-one result
below the count, or some result of any GPU slot, has status FAIL, whatever the report
shows. -/
theorem runDiagOnce_returns_classification (lib : Library) (env : Environment) (d : Diag)
    (r : DiagResponse) (completed : env.killed = false)
    (engineOk : env.dcgmActionValidate d.drd remoteDiagExecutorResponse = (dcgmStOk, r))
    (quiet : d.jsonOutput = false → r.systemError.msg = [])
    (inRange : ∀ gpuIndex ∈ selectGpus d.drd r, gpuIndex < dcgmMaxNumDevices) :
    ∃ gpuIndices, gpuSlots (selectGpus d.drd r) = some gpuIndices ∧ gpuIndices.map Fin.val = selectGpus d.drd r ∧
      runDiagOnce lib env d = some (getFailureResult lib r, d.render r gpuIndices) ∧
      (getFailureResult lib r ≠ dcgmStOk ↔ SomeCell r (·.status = .fail)) := by
  obtain ⟨gpuIndices, slots, values⟩ := gpuSlots_of_inRange _ inRange
  refine ⟨gpuIndices, slots, values, runDiagOnce_of_ok lib env d r completed engineOk quiet gpuIndices slots, ?_⟩
  rw [getFailureResult_ne_ok, scanFinds_iff _ _ r.levelOneInRange]
  simp only [beq_iff_eq]

/-! ## What the report shows against what the run returns -/

/-- The status strings of a JSON report: those of every result of every test of every
category. -/
def reportStatuses (doc : JsonValue) : List (List Char) :=
  ((doc.member .nvvsName).member .nvvsHeaders).elements.flatMap fun header =>
    (header.member .nvvsTests).elements.flatMap fun test =>
      (test.member .nvvsResults).elements.filterMap fun result => (result.member .nvvsStatus).str?

/-- A printed item shows a failed result: a row whose value is the label `Fail` or a
`Fail` bucket, or a JSON report with a `Fail` status. -/
def Printed.showsFailure : Printed → Bool
  | .row _ info => info == "Fail".toList || "Fail - ".toList.isPrefixOf info
  | .json doc => (reportStatuses doc).contains "Fail".toList
  | .text _ => false

/-- A response whose only result is a warning of the first level-one test. -/
def levelOneWarning : DiagResponse :=
  { DiagResponse.zero with
    levelOneTestCount := 1
    levelOneInRange := by decide
    levelOneResults := fun i => if i.val = 0 then { TestResult.zero with status := .warn } else .zero }

/-- A text-mode run on `levelOneWarning` prints a `Fail` row for the warning and returns
`DCGM_ST_OK`. -/
theorem runDiagOnce_ok_after_fail_row :
    ((runDiagOnce ⟨fun _ => .monitor, fun _ => [], []⟩
        ⟨false, fun _ _ => (dcgmStOk, levelOneWarning), dcgmStOk⟩
        ⟨⟨0, 0, [], [], 0, 0⟩, false, 1, .null, []⟩).map fun run =>
      (decide (run.1 = dcgmStOk), run.2.stdout.any Printed.showsFailure)) = some (true, true) := by
  decide

/-! ## The GPU set after a completed run -/

/-- An engine that ran GPU 1 alone: it writes slot 1 and the GPU count into the
response it is handed and leaves the rest of it. -/
def ranSecondGpuOnly (_ : RunDiag) (handed : DiagResponse) : DcgmReturn × DiagResponse :=
  (dcgmStOk, { handed with
    gpuCount := 1
    gpuCountInRange := by decide
    perGpuResponses := fun i =>
      if i.val = 1 then { PerGpuResponse.zero with gpuId := 1 } else handed.perGpuResponses i })

/-- With an empty filter, a run on `ranSecondGpuOnly` renders slot 0, which the engine
never wrote: the executor's zero-filled response, not the initialised one, reaches
`PopulateGpuList`. Written into the initialised response, the engine's output would
have selected slot 1. -/
theorem runDiagOnce_selects_unwritten_slot :
    selectGpus ⟨0, 0, [], [], 0, 0⟩ (executeDiagOnServer ⟨false, ranSecondGpuOnly, dcgmStOk⟩
        ⟨0, 0, [], [], 0, 0⟩ initializeDiagResponse).2 = [0] ∧
      selectGpus ⟨0, 0, [], [], 0, 0⟩ (ranSecondGpuOnly ⟨0, 0, [], [], 0, 0⟩ initializeDiagResponse).2 =
        [1] := by
  decide

/-! ## Reading inside the per-GPU array -/

/-- The GPUs `PopulateGpuList` recovers are slots of the per-GPU array. -/
theorem populateGpuList_inRange (diagResult : DiagResponse) :
    ∀ gpuIndex ∈ populateGpuList diagResult [], gpuIndex < dcgmMaxNumDevices := by
  intro gpuIndex member
  rw [populateGpuList, populateGpuListLoop_eq, List.nil_append] at member
  obtain ⟨slot, -, rfl⟩ := List.mem_map.mp (List.mem_of_mem_take member)
  exact slot.isLt

/-- A run with its GPU filter inside the per-GPU array returns. -/
theorem runDiagOnce_exists (lib : Library) (env : Environment) (d : Diag)
    (inRange : ∀ gpuIndex ∈ parseGpuList d.drd.gpuList, gpuIndex < dcgmMaxNumDevices) :
    ∃ run, runDiagOnce lib env d = some run := by
  have slots : ∀ r, ∃ gpuIndices, gpuSlots (selectGpus d.drd r) = some gpuIndices := fun r => by
    obtain ⟨gpuIndices, slots, -⟩ := gpuSlots_of_inRange (selectGpus d.drd r) (by
      unfold selectGpus
      split
      · exact populateGpuList_inRange r
      · exact inRange)
    exact ⟨gpuIndices, slots⟩
  obtain ⟨gpuIndices, selected⟩ := slots (executeDiagOnServer env d.drd initializeDiagResponse).2
  dsimp only [runDiagOnce, Diag.reportResults]
  split
  · split
    · exact ⟨_, rfl⟩
    · simp [selected]
  · exact ⟨_, rfl⟩

end DcgmiDiag
