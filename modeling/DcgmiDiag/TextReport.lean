import DcgmiDiag.Display
import DcgmiDiag.Json
import DcgmiDiag.Sanitize

/-!
# The text report

The text report is a table printed through `CommandOutputController` with the
`DIAG_DATA` stencil: each `display()` prints one row of a `DATA_NAME` cell and a
`DATA_INFO` cell. What the report prints is modelled as a list of rows and of the
fixed banner lines between them; how the stencil pads a cell is outside the model.

`HelperDisplayGpuResults` sorts the GPU ids of a test into four buckets by status and
prints either one `All` row or one row a non-empty bucket, then the details of
`HelperDisplayDetails`. Long messages go through `DisplayVerboseInfo`, which cuts them
into `DATA_INFO_TAG_LEN` characters a row.
-/

namespace DcgmiDiag

/-- What the process writes to standard output: a text line, one row of the `DIAG_DATA`
stencil, or a JSON document printed with `toStyledString`. -/
inductive Printed where
  | text (line : List Char)
  | row (name info : List Char)
  | json (doc : JsonValue)

/-- The row a printed item is, if it is one. -/
def Printed.row? : Printed → Option (List Char × List Char)
  | .row name info => some (name, info)
  | _ => none

/-- `DATA_INFO_TAG_LEN`: the characters of a `DATA_INFO` cell. -/
def dataInfoTagLen : Nat := 45

/-- The loop of `DisplayVerboseInfo` from position `pos`; it runs at most `size()`
times, the fuel given. -/
def displayVerboseInfoLoop (name info : List Char) : Nat → Nat → List Printed
  | 0, _ => []
  | fuel + 1, pos =>
    if pos < info.length then
      .row (if pos = 0 then name else []) ((info.drop pos).take dataInfoTagLen) ::
        displayVerboseInfoLoop name info fuel (pos + dataInfoTagLen)
    else []

/-- `Diag::DisplayVerboseInfo`. -/
def displayVerboseInfo (name info : List Char) : List Printed :=
  displayVerboseInfoLoop name info info.length 0

/-- `Diag::Sanitize` as the renderers call it; it never throws (`sanitize_eq`), so the
default is never taken. -/
def sanitized (toOutput : List Char) : List Char := (sanitize toOutput).getD []

/-- `Diag::HelperDisplayDeploymentResult`: a test that ran shows its label, then its
error messages and its info, unsanitized. -/
def helperDisplayDeploymentResult (nameTag : List Char) (result : TestResult) : List Printed :=
  if result.status ≠ .notRun then
    .row nameTag (helperDisplayDiagResult result.status) ::
      ((List.finRange dcgmMaxErrors).flatMap fun i =>
        if (result.error i).msg.isEmpty then [] else displayVerboseInfo "Error".toList (result.error i).msg) ++
      (if result.info.isEmpty then [] else displayVerboseInfo "Info".toList result.info)
  else []

/-- `DIAG_INFO`, `DIAG_DEPLOYMENT`, `DIAG_INTEGRATION`, `DIAG_HARDWARE` and
`DIAG_STRESS`: the banner printed before each section. -/
def Category.banner : Category → List Char
  | deployment => "|-----  Deployment  --------+------------------------------------------------|\n".toList
  | integration => "+-----  Integration  -------+------------------------------------------------+\n".toList
  | hardware => "+-----  Hardware  ----------+------------------------------------------------+\n".toList
  | stress => "+-----  Stress  ------------+------------------------------------------------+\n".toList

/-- `DIAG_INFO`. -/
def diagInfoBanner : List Char :=
  "|-----  Metadata  ----------+------------------------------------------------|\n".toList

/-- The device-id list of `HelperDisplayVersionAndDevIds`: `devIds[0..gpuCount)` joined
by commas. -/
def devIdList (diagResult : DiagResponse) : List Char :=
  (List.range diagResult.gpuCount).foldl
    (fun ss i => if i = 0 then ss ++ diagResult.devId i else ss ++ ',' :: diagResult.devId i) []

/-- `Diag::HelperDisplayVersionAndDevIds`. -/
def helperDisplayVersionAndDevIds (diagResult : DiagResponse) : List Printed :=
  [.text diagInfoBanner,
    .row "DCGM Version".toList diagResult.dcgmVersion,
    .row "Driver Version Detected".toList diagResult.driverVersion,
    .row "GPU Device IDs Detected".toList (devIdList diagResult)]

/-- `Diag::HelperDisplayDeployment`. -/
def helperDisplayDeployment (diagResult : DiagResponse) : List Printed :=
  .text Category.deployment.banner ::
    (List.range diagResult.levelOneTestCount).flatMap fun i =>
      helperDisplayDeploymentResult (levelOneTestName i) (diagResult.levelOne i)

/-- The four status buckets of `HelperDisplayGpuResults`. -/
inductive Bucket where
  | passed
  | failed
  | skipped
  | warned
  deriving DecidableEq, Repr

/-- The if-chain of the bucketing loop: the bucket of a status, none for a test that
did not run. -/
def bucketOf (status : DiagResult) : Option Bucket :=
  if status = .pass then some .passed
  else if status = .skip then some .skipped
  else if status = .warn then some .warned
  else if status = .fail then some .failed
  else none

/-- The GPU ids sorted into buckets, in the order of the GPU list. -/
structure Buckets where
  passed : List Nat
  failed : List Nat
  skipped : List Nat
  warned : List Nat

/-- Append an id to one bucket. -/
def Buckets.push (buckets : Buckets) (bucket : Bucket) (gpuId : Nat) : Buckets :=
  match bucket with
  | .passed => { buckets with passed := buckets.passed ++ [gpuId] }
  | .failed => { buckets with failed := buckets.failed ++ [gpuId] }
  | .skipped => { buckets with skipped := buckets.skipped ++ [gpuId] }
  | .warned => { buckets with warned := buckets.warned ++ [gpuId] }

/-- The ids in one bucket. -/
def Buckets.ids (buckets : Buckets) : Bucket → List Nat
  | .passed => buckets.passed
  | .failed => buckets.failed
  | .skipped => buckets.skipped
  | .warned => buckets.warned

/-- The label of a bucket's rows. -/
def Bucket.label : Bucket → List Char
  | .passed => "Pass".toList
  | .failed => "Fail".toList
  | .skipped => "Skip".toList
  | .warned => "Warn".toList

/-- The bucketing loop of `HelperDisplayGpuResults`: each GPU of the list adds the
`gpuId` field of its slot to the bucket of its status. -/
def gpuBuckets (diagResults : Fin dcgmMaxNumDevices → PerGpuResponse) (testIndex : Nat)
    (gpuIndices : List (Fin dcgmMaxNumDevices)) : Buckets :=
  gpuIndices.foldl
    (fun buckets gpuIndex =>
      match bucketOf ((diagResults gpuIndex).result testIndex).status with
      | some bucket => buckets.push bucket (diagResults gpuIndex).gpuId
      | none => buckets)
    ⟨[], [], [], []⟩

/-- Pushing an id extends its own bucket only. -/
@[simp] theorem Buckets.ids_push (buckets : Buckets) (bucket added : Bucket) (gpuId : Nat) :
    (buckets.push added gpuId).ids bucket = buckets.ids bucket ++ if bucket = added then [gpuId] else [] := by
  cases bucket <;> cases added <;> simp [Buckets.push, Buckets.ids]

/-- Each bucket holds, in the order of the list, the `gpuId` of every GPU whose status
falls in it. -/
theorem gpuBuckets_ids (diagResults : Fin dcgmMaxNumDevices → PerGpuResponse) (testIndex : Nat)
    (gpuIndices : List (Fin dcgmMaxNumDevices)) (bucket : Bucket) :
    (gpuBuckets diagResults testIndex gpuIndices).ids bucket = gpuIndices.filterMap fun gpuIndex =>
      if bucketOf ((diagResults gpuIndex).result testIndex).status = some bucket
      then some (diagResults gpuIndex).gpuId else none := by
  induction gpuIndices using List.reverseRecOn with
  | nil => cases bucket <;> rfl
  | append_singleton gpuIndices gpuIndex inductionHypothesis =>
    rw [List.filterMap_append, ← inductionHypothesis]
    simp only [gpuBuckets, List.foldl_append, List.foldl_cons, List.foldl_nil]
    split
    · next added found =>
      by_cases same : bucket = added
      · simp [found, same]
      · simp [found, same, Ne.symm same]
    · next missing => simp [missing]

/-- A bucket row's text: `Fail - GPU: 3   ` or `Fail - GPUs: 0, 1   `. -/
def bucketLine (label : List Char) (gpuIds : List Nat) : List Char :=
  label ++ " - GPU".toList ++ (if gpuIds.length = 1 then ": ".toList else "s: ".toList) ++
    (gpuIds.enum.flatMap fun entry =>
      (Nat.repr entry.2).toList ++ (if entry.1 + 1 = gpuIds.length then "   ".toList else ", ".toList))

/-- `Diag::HelperDisplayDetails`: warnings, then infos, of every GPU of the list, when
forced or when the run is verbose. -/
def helperDisplayDetails (drd : RunDiag) (forceVerbose : Bool)
    (gpuIndices : List (Fin dcgmMaxNumDevices)) (testIndex : Nat)
    (diagResults : Fin dcgmMaxNumDevices → PerGpuResponse) : List Printed :=
  let verbose := forceVerbose || drd.flags &&& dcgmRunFlagsVerbose != 0
  (if verbose then
    gpuIndices.flatMap fun gpuIndex =>
      (List.finRange dcgmMaxErrors).flatMap fun j =>
        let detail := ((diagResults gpuIndex).result testIndex).error j
        if detail.msg.isEmpty then [] else displayVerboseInfo "Warning".toList (sanitized detail.msg)
  else []) ++
  (if verbose then
    gpuIndices.flatMap fun gpuIndex =>
      let info := ((diagResults gpuIndex).result testIndex).info
      if info.isEmpty then [] else displayVerboseInfo "Info".toList (sanitized info)
  else [])

/-- The hardware return code row of a Diagnostic test that warned on every GPU:
`  Code: (` and the code zero-padded to twelve digits. -/
def eudReturnCode (hwDiagnosticReturn : Nat) : List Char :=
  let digits := (Nat.repr hwDiagnosticReturn).toList
  "  Code: (".toList ++ List.replicate (12 - digits.length) '0' ++ digits ++ ")".toList

/-- The rows of the non-uniform case: one row a non-empty bucket, in the order Pass,
Fail, Warn, Skip, the test name on the first of them only. -/
def bucketRows (displayName : List Char) (buckets : Buckets) : List Printed × Bool :=
  let lines := ([Bucket.passed, .failed, .warned, .skipped].map fun bucket =>
    (bucket.label, buckets.ids bucket)).filter (!·.2.isEmpty)
  (lines.enum.map fun entry =>
      .row (if entry.1 = 0 then displayName else []) (bucketLine entry.2.1 entry.2.2),
    !(buckets.failed.isEmpty && buckets.warned.isEmpty && buckets.skipped.isEmpty))

/-- `Diag::HelperDisplayGpuResults`. -/
def helperDisplayGpuResults (drd : RunDiag) (dataName : List Char) (testIndex : Nat)
    (diagResults : Fin dcgmMaxNumDevices → PerGpuResponse)
    (gpuIndices : List (Fin dcgmMaxNumDevices)) : List Printed :=
  let displayName := helperGetPluginName drd testIndex
  let testIndex := if testIndex = dcgmContextCreateIndex then 0 else testIndex
  let buckets := gpuBuckets diagResults testIndex gpuIndices
  let numGpus := gpuIndices.length
  let details := fun force => helperDisplayDetails drd force gpuIndices testIndex diagResults
  if buckets.passed.length = numGpus then
    .row displayName "Pass - All".toList :: details false
  else if buckets.skipped.length = numGpus then
    .row displayName "Skip - All".toList :: details true
  else if buckets.failed.length = numGpus then
    .row displayName "Fail - All".toList :: details true
  else if buckets.warned.length = numGpus then
    .row displayName "Warn - All".toList :: details true ++
      (if dataName = "Diagnostic".toList then
        [.row [] (eudReturnCode (diagResults ⟨0, by decide⟩).hwDiagnosticReturn)] else [])
  else
    let rows := bucketRows displayName buckets
    rows.1 ++ details rows.2

/-- The `dataName` arguments, from `PluginStrings.h`. -/
def pciePluginName : List Char := "pcie".toList
/-- `DIAGNOSTIC_PLUGIN_NAME`. -/
def diagnosticPluginName : List Char := "diagnostic".toList
/-- `PULSE_TEST_PLUGIN_NAME`. -/
def pulseTestPluginName : List Char := "pulse_test".toList

/-- `Diag::HelperDisplayIntegration`. -/
def helperDisplayIntegration (drd : RunDiag) (diagResults : Fin dcgmMaxNumDevices → PerGpuResponse)
    (gpuIndices : List (Fin dcgmMaxNumDevices)) : List Printed :=
  .text Category.integration.banner ::
    helperDisplayGpuResults drd pciePluginName dcgmPciIndex diagResults gpuIndices

/-- `Diag::HelperDisplayHardware`: the memory cell (under the context-create name when
the request names that test), the Diagnostic cell unless every GPU skipped it, and
the pulse test. -/
def helperDisplayHardware (drd : RunDiag) (diagResults : Fin dcgmMaxNumDevices → PerGpuResponse)
    (gpuIndices : List (Fin dcgmMaxNumDevices)) : List Printed :=
  let memory := if isContextCreateRun drd then
      helperDisplayGpuResults drd "Context Create".toList dcgmContextCreateIndex diagResults gpuIndices
    else helperDisplayGpuResults drd "GPU Memory".toList dcgmMemoryIndex diagResults gpuIndices
  let skipped := gpuIndices.all fun gpuIndex =>
    ((diagResults gpuIndex).result dcgmDiagnosticIndex).status = .skip
  .text Category.hardware.banner :: memory ++
    (if skipped then [] else
      helperDisplayGpuResults drd diagnosticPluginName dcgmDiagnosticIndex diagResults gpuIndices) ++
    helperDisplayGpuResults drd pulseTestPluginName dcgmPulseTestIndex diagResults gpuIndices

/-- The Stress section's tests with their `dataName`, in display order. -/
def stressTests : List (List Char × Nat) :=
  [("sm_stress".toList, dcgmSmStressIndex), ("targeted_stress".toList, dcgmTargetedStressIndex),
    ("targeted_power".toList, dcgmTargetedPowerIndex),
    ("memory_bandwidth".toList, dcgmMemoryBandwidthIndex), ("memtest".toList, dcgmMemtestIndex),
    ("eud".toList, dcgmEudTestIndex)]

/-- `Diag::HelperDisplayPerformance`, the Stress section. -/
def helperDisplayPerformance (drd : RunDiag) (diagResults : Fin dcgmMaxNumDevices → PerGpuResponse)
    (gpuIndices : List (Fin dcgmMaxNumDevices)) : List Printed :=
  .text Category.stress.banner ::
    stressTests.flatMap fun test => helperDisplayGpuResults drd test.1 test.2 diagResults gpuIndices

end DcgmiDiag
