import DcgmiDiag.Display
import DcgmiDiag.Json

/-!
# The JSON report: `HelperJsonBuildOutput`

The report is a `Json::Value` written through chains of `operator[]`. The Deployment
category lists the level-one results, skipping the CUDA runtime test when it did
not run and shifting later entries down by one, so that its array stays dense. The
three per-GPU categories collect one test entry per test that some GPU of the set
ran, at dense positions counted by `HelperJsonAddPlugin`, and a category with no
entry is left out of the headers.

Inside a test entry the result of the GPU at position `i` of the set is written at
`results[i]`, and the warning of error slot `j` at `warnings[j]`. Positions of GPUs
that did not run the test, and empty error slots, are skipped without moving the
later entries, so jsoncpp pads the arrays with nulls there.
-/

namespace DcgmiDiag

/-- `DCGM_STR_BLANK`, the serial of a slot without a device. -/
def dcgmStrBlank : List Char := "<<<NULL>>>".toList

/-- Error slot `i` of a level-one result, in `HelperJsonAddBasicTests`: a non-empty
message records the slot's GPU id and its warning object at `warnings[i]`. -/
def addLevelOneWarning (detail : ErrorDetail) (i : Nat) (resultEntry : JsonValue) : JsonValue :=
  if detail.msg.isEmpty then resultEntry
  else
    let warningEntry := ((((JsonValue.null.update [.key .nvvsWarnings] (.string detail.msg)).update
      [.key .nvvsErrorId] (.uint detail.code)).update [.key .nvvsErrorCategory]
        (.uint detail.category)).update [.key .nvvsErrorSeverity] (.uint detail.severity))
    (resultEntry.update [.key .nvvsGpuId] (.int detail.gpuId)).update
      [.key .nvvsWarnings, .index i] warningEntry

/-- One pass of the level-one loop of `HelperJsonAddBasicTests`, on the category being
built and the index `adjustment`. -/
def addBasicTest (diagResult : DiagResponse) (state : JsonValue × Int) (testIndex : Nat) :
    JsonValue × Int :=
  let result := diagResult.levelOne testIndex
  if testIndex = dcgmSwtestCudaRuntimeLibrary ∧ result.status = .notRun then (state.1, -1)
  else
    let position := ((testIndex : Int) + state.2).toNat
    let category := state.1.update [.key .nvvsTests, .index position, .key .nvvsTestName]
      (.string (levelOneTestName testIndex))
    let resultEntry := (List.finRange dcgmMaxErrors).foldl
      (fun entry i => addLevelOneWarning (result.error i) i entry)
      (JsonValue.null.update [.key .nvvsStatus] (.string (helperDisplayDiagResult result.status)))
    (category.update [.key .nvvsTests, .index position, .key .nvvsResults, .index 0] resultEntry,
      state.2)

/-- `Diag::HelperJsonAddBasicTests`: the Deployment category at `categoryIndex`, and the
next category index. -/
def helperJsonAddBasicTests (output : JsonValue) (categoryIndex : Nat) (diagResult : DiagResponse) :
    JsonValue × Nat :=
  let category := JsonValue.null.update [.key .nvvsHeader] (.string Category.deployment.name)
  let category := ((List.range diagResult.levelOneTestCount).foldl (addBasicTest diagResult)
    (category, 0)).1
  (output.update [.key .nvvsName, .key .nvvsHeaders, .index categoryIndex] category,
    categoryIndex + 1)

/-- Error slot `j` of a per-GPU result, in `HelperJsonAddResult`. -/
def addResultWarning (detail : ErrorDetail) (j : Nat) (resultEntry : JsonValue) : JsonValue :=
  if detail.msg.isEmpty then resultEntry
  else
    resultEntry.update [.key .nvvsWarnings, .index j]
      ((((JsonValue.null.update [.key .nvvsWarning] (.string detail.msg)).update
        [.key .nvvsErrorId] (.uint detail.code)).update [.key .nvvsErrorCategory]
          (.uint detail.category)).update [.key .nvvsErrorSeverity] (.uint detail.severity))

/-- The result object `HelperJsonAddResult` builds for a cell that ran. The GPU id is
`snprintf` into a ten-byte buffer, so at most nine digits. -/
def resultEntryOf (result : TestResult) (gpuIndex : Nat) : JsonValue :=
  let resultEntry := (JsonValue.null.update [.key .nvvsGpuId]
    (.string ((Nat.repr gpuIndex).toList.take 9))).update [.key .nvvsStatus]
      (.string (helperDisplayDiagResult result.status))
  let resultEntry := (List.finRange dcgmMaxErrors).foldl
    (fun entry j => addResultWarning (result.error j) j entry) resultEntry
  if result.info.isEmpty then resultEntry else resultEntry.update [.key .nvvsInfo] (.string result.info)

/-- `Diag::HelperJsonAddResult`: record the cell at `results[i]` and answer true, or
answer false for a cell that did not run. -/
def helperJsonAddResult (gpuResult : PerGpuResponse) (testEntry : JsonValue) (gpuIndex : Nat)
    (testIndex : Fin dcgmPerGpuTestCountV8) (i : Nat) : Bool × JsonValue :=
  let result := gpuResult.results testIndex
  if result.status = .notRun then (false, testEntry)
  else (true, testEntry.update [.key .nvvsResults, .index i] (resultEntryOf result gpuIndex))

/-- The inner loop of `HelperJsonBuildOutput` for one test: whether some GPU of the set
ran it, and its test entry. -/
def jsonTestEntry (drd : RunDiag) (diagResult : DiagResponse)
    (gpuIndices : List (Fin dcgmMaxNumDevices)) (pluginIndex : Fin dcgmPerGpuTestCountV8) :
    Bool × JsonValue :=
  gpuIndices.enum.foldl
    (fun state entry =>
      let added := helperJsonAddResult (diagResult.perGpuResponses entry.2) state.2 entry.2
        pluginIndex entry.1
      (state.1 || added.1, added.2))
    (false, JsonValue.null.update [.key .nvvsTestName] (.string (helperGetPluginName drd pluginIndex)))

/-- `Diag::HelperJsonAddPlugin`. -/
def helperJsonAddPlugin (category : JsonValue) (pluginCount : Nat) (testEntry : JsonValue) :
    JsonValue × Nat :=
  (category.update [.key .nvvsTests, .index pluginCount] testEntry, pluginCount + 1)

/-- `Diag::HelperJsonAddCategory`. -/
def helperJsonAddCategory (output : JsonValue) (categoryIndex : Nat) (category : JsonValue)
    (categoryCount : Nat) : JsonValue × Nat :=
  if categoryCount > 0 then
    (output.update [.key .nvvsName, .key .nvvsHeaders, .index categoryIndex] category,
      categoryIndex + 1)
  else (output, categoryIndex)

/-- The three per-GPU categories of `HelperJsonBuildOutput` and their plugin counts. -/
structure JsonCategories where
  hardware : JsonValue
  integration : JsonValue
  stress : JsonValue
  hardwarePluginCount : Nat
  integrationPluginCount : Nat
  stressPluginCount : Nat

/-- The categories before the plugin loop: each holds only its header. -/
def JsonCategories.initial : JsonCategories where
  hardware := JsonValue.null.update [.key .nvvsHeader] (.string Category.hardware.name)
  integration := JsonValue.null.update [.key .nvvsHeader] (.string Category.integration.name)
  stress := JsonValue.null.update [.key .nvvsHeader] (.string Category.stress.name)
  hardwarePluginCount := 0
  integrationPluginCount := 0
  stressPluginCount := 0

/-- The `switch (pluginIndex)` of a test that ran. -/
def JsonCategories.addPlugin (categories : JsonCategories) (pluginIndex : Nat)
    (testEntry : JsonValue) : JsonCategories :=
  match jsonCategory pluginIndex with
  | some .hardware =>
    let added := helperJsonAddPlugin categories.hardware categories.hardwarePluginCount testEntry
    { categories with hardware := added.1, hardwarePluginCount := added.2 }
  | some .integration =>
    let added := helperJsonAddPlugin categories.integration categories.integrationPluginCount testEntry
    { categories with integration := added.1, integrationPluginCount := added.2 }
  | some .stress =>
    let added := helperJsonAddPlugin categories.stress categories.stressPluginCount testEntry
    { categories with stress := added.1, stressPluginCount := added.2 }
  | _ => categories

/-- The plugin loop of `HelperJsonBuildOutput`. -/
def jsonCategories (drd : RunDiag) (diagResult : DiagResponse)
    (gpuIndices : List (Fin dcgmMaxNumDevices)) : JsonCategories :=
  (List.finRange dcgmPerGpuTestCountV8).foldl
    (fun categories pluginIndex =>
      let entry := jsonTestEntry drd diagResult gpuIndices pluginIndex
      if entry.1 then categories.addPlugin pluginIndex entry.2 else categories)
    JsonCategories.initial

/-- The header fields of `HelperJsonBuildOutput`: versions, the serial of each slot
that has a device, and the device id of each of the `gpuCount` GPUs. -/
def jsonHeaderFields (diagResult : DiagResponse) (output : JsonValue) : JsonValue :=
  let output := (output.update [.key .nvvsVersionStr] (.string diagResult.dcgmVersion)).update
    [.key .nvvsDriverVersion] (.string diagResult.driverVersion)
  let output := (List.finRange dcgmMaxNumDevices).foldl
    (fun output i =>
      if diagResult.devSerials i != dcgmStrBlank then
        output.update [.key .nvvsGpuSerials, .key (.text (Nat.repr i.val).toList)]
          (.string (diagResult.devSerials i))
      else output) output
  (List.range diagResult.gpuCount).foldl
    (fun output i => output.update [.key .nvvsGpuDevIds, .index i] (.string (diagResult.devId i)))
    output

/-- `Diag::HelperJsonBuildOutput`. -/
def helperJsonBuildOutput (drd : RunDiag) (output : JsonValue) (diagResult : DiagResponse)
    (gpuIndices : List (Fin dcgmMaxNumDevices)) : JsonValue :=
  let basic := helperJsonAddBasicTests (jsonHeaderFields diagResult output) 0 diagResult
  let categories := jsonCategories drd diagResult gpuIndices
  let integration := helperJsonAddCategory basic.1 basic.2 categories.integration
    categories.integrationPluginCount
  let hardware := helperJsonAddCategory integration.1 integration.2 categories.hardware
    categories.hardwarePluginCount
  (helperJsonAddCategory hardware.1 hardware.2 categories.stress categories.stressPluginCount).1

/-- GPU 0 did not run the PCIe test, and every other cell passes. -/
def pcieNotRunOnFirstGpu : DiagResponse :=
  { DiagResponse.zero with
    perGpuResponses := fun i =>
      if i.val = 0 then
        { PerGpuResponse.zero with
          results := fun j => if j.val = dcgmPciIndex then { TestResult.zero with status := .notRun }
            else .zero }
      else .zero }

/-- For the GPUs 0 and 1, the PCIe entry of the Integration category starts with a null
result: GPU 0 did not run the test and GPU 1's result sits at position 1. -/
theorem helperJsonBuildOutput_pads_results :
    ((helperJsonBuildOutput ⟨0, 0, [], [], 0, 0⟩ .null pcieNotRunOnFirstGpu
        [⟨0, by decide⟩, ⟨1, by decide⟩]).get
      [.key .nvvsName, .key .nvvsHeaders, .index 1, .key .nvvsHeader]).str? =
        some "Integration".toList ∧
    ((helperJsonBuildOutput ⟨0, 0, [], [], 0, 0⟩ .null pcieNotRunOnFirstGpu
        [⟨0, by decide⟩, ⟨1, by decide⟩]).get
      [.key .nvvsName, .key .nvvsHeaders, .index 1, .key .nvvsTests, .index 0,
        .key .nvvsResults, .index 0]).isNull = true ∧
    ((helperJsonBuildOutput ⟨0, 0, [], [], 0, 0⟩ .null pcieNotRunOnFirstGpu
        [⟨0, by decide⟩, ⟨1, by decide⟩]).get
      [.key .nvvsName, .key .nvvsHeaders, .index 1, .key .nvvsTests, .index 0,
        .key .nvvsResults, .index 1, .key .nvvsGpuId]).str? = some "1".toList := by
  decide

/-! ## The warnings of a result object -/

/-- The warning object `HelperJsonAddResult` writes for an error slot: the message under
`NVVS_WARNING`. -/
def resultWarningEntry (detail : ErrorDetail) : JsonValue :=
  (((JsonValue.null.update [.key .nvvsWarning] (.string detail.msg)).update [.key .nvvsErrorId]
    (.uint detail.code)).update [.key .nvvsErrorCategory] (.uint detail.category)).update
      [.key .nvvsErrorSeverity] (.uint detail.severity)

/-- The warning object `HelperJsonAddBasicTests` writes for an error slot: the message
under `NVVS_WARNINGS`. -/
def levelOneWarningEntry (detail : ErrorDetail) : JsonValue :=
  (((JsonValue.null.update [.key .nvvsWarnings] (.string detail.msg)).update [.key .nvvsErrorId]
    (.uint detail.code)).update [.key .nvvsErrorCategory] (.uint detail.category)).update
      [.key .nvvsErrorSeverity] (.uint detail.severity)

/-- A write for error slot `j` that puts its warning object at `warnings[j]` when the slot
has a message and leaves the warnings alone otherwise. -/
def WritesWarning (write : ErrorDetail → Nat → JsonValue → JsonValue) (warningEntry : ErrorDetail → JsonValue) :
    Prop :=
  ∀ detail j entry, (write detail j entry).member .nvvsWarnings =
    if detail.msg.isEmpty then entry.member .nvvsWarnings
    else (entry.member .nvvsWarnings).update [.index j] (warningEntry detail)

theorem addResultWarning_writes : WritesWarning addResultWarning resultWarningEntry := by
  intro detail j entry
  unfold addResultWarning
  split <;> simp [resultWarningEntry, JsonValue.update]

theorem addLevelOneWarning_writes : WritesWarning addLevelOneWarning levelOneWarningEntry := by
  intro detail j entry
  unfold addLevelOneWarning
  split <;> simp [levelOneWarningEntry, JsonValue.update]

/-- Over distinct error slots, each slot with a message leaves its warning object at its
own index, whatever the other slots hold. -/
theorem foldl_warnings_element {write : ErrorDetail → Nat → JsonValue → JsonValue}
    {warningEntry : ErrorDetail → JsonValue} (writes : WritesWarning write warningEntry)
    (errors : Fin dcgmMaxErrors → ErrorDetail) (slots : List (Fin dcgmMaxErrors)) (distinct : slots.Nodup)
    (entry : JsonValue) (k : Fin dcgmMaxErrors) :
    ((slots.foldl (fun entry i => write (errors i) i entry) entry).member .nvvsWarnings).element k =
      if k ∈ slots ∧ (errors k).msg.isEmpty = false then warningEntry (errors k)
      else (entry.member .nvvsWarnings).element k := by
  induction slots generalizing entry with
  | nil => simp
  | cons i rest inductionHypothesis =>
    obtain ⟨fresh, distinctRest⟩ := List.nodup_cons.mp distinct
    rw [List.foldl_cons, inductionHypothesis distinctRest, writes]
    by_cases same : k = i
    · subst same
      cases (errors k).msg.isEmpty <;> simp [fresh]
    · have apart : (k : Nat) ≠ i := Fin.val_ne_of_ne same
      cases (errors i).msg.isEmpty <;> simp [same, apart]

/-- Each error slot of a per-GPU result reads, at its own index of the result object's
`warnings`, the slot's warning object with the message under `warning` when it has a
message, and null when it has none, so that an empty slot leaves a null hole before any
later warning. -/
theorem resultEntryOf_warnings (result : TestResult) (gpuIndex : Nat) (k : Fin dcgmMaxErrors) :
    (resultEntryOf result gpuIndex).get [.key .nvvsWarnings, .index k] =
      if (result.error k).msg.isEmpty then .null else resultWarningEntry (result.error k) := by
  have slots := foldl_warnings_element addResultWarning_writes result.error _ (List.nodup_finRange _)
    ((JsonValue.null.update [.key .nvvsGpuId] (.string ((Nat.repr gpuIndex).toList.take 9))).update
      [.key .nvvsStatus] (.string (helperDisplayDiagResult result.status))) k
  unfold resultEntryOf
  cases empty : (result.error k).msg.isEmpty <;> split <;> simp_all

/-- Each error slot with a message writes its GPU id over the one before. -/
theorem foldl_addLevelOneWarning_gpuId (errors : Fin dcgmMaxErrors → ErrorDetail) (slots : List (Fin dcgmMaxErrors))
    (entry : JsonValue) :
    (slots.foldl (fun entry i => addLevelOneWarning (errors i) i entry) entry).member .nvvsGpuId =
      ((slots.filter fun i => !(errors i).msg.isEmpty).getLast?.map fun i => JsonValue.int (errors i).gpuId).getD
        (entry.member .nvvsGpuId) := by
  induction slots generalizing entry with
  | nil => rfl
  | cons i rest inductionHypothesis =>
    rw [List.foldl_cons, inductionHypothesis]
    unfold addLevelOneWarning
    cases empty : (errors i).msg.isEmpty
    · rw [List.filter_cons_of_pos (by simp [empty]), List.getLast?_cons]
      cases (rest.filter fun i => !(errors i).msg.isEmpty).getLast? <;> simp
    · rw [List.filter_cons_of_neg (by simp [empty])]
      simp

/-- The level-one result object in the Deployment category: each error slot with a
message leaves its warning object at its own index of `warnings`, with the message under
`warnings`, so that reading `warning` there, as in a per-GPU warning, finds nothing; an
empty slot leaves null. The object's `gpu_id` is that of the last error slot with a
message, each such slot overwriting the one before. -/
theorem levelOneEntry_warnings (result : TestResult) (k : Fin dcgmMaxErrors) :
    let entry := (List.finRange dcgmMaxErrors).foldl (fun entry i => addLevelOneWarning (result.error i) i entry)
      (JsonValue.null.update [.key .nvvsStatus] (.string (helperDisplayDiagResult result.status)))
    entry.get [.key .nvvsWarnings, .index k] =
        (if (result.error k).msg.isEmpty then .null else levelOneWarningEntry (result.error k)) ∧
      entry.get [.key .nvvsWarnings, .index k, .key .nvvsWarning] = .null ∧
      entry.member .nvvsGpuId = ((((List.finRange dcgmMaxErrors).filter fun i => !(result.error i).msg.isEmpty).getLast?.map
        fun i => JsonValue.int (result.error i).gpuId).getD .null) := by
  have slots := foldl_warnings_element addLevelOneWarning_writes result.error _ (List.nodup_finRange _)
    (JsonValue.null.update [.key .nvvsStatus] (.string (helperDisplayDiagResult result.status))) k
  refine ⟨?_, ?_, by simpa using foldl_addLevelOneWarning_gpuId result.error (List.finRange dcgmMaxErrors) _⟩ <;>
    cases empty : (result.error k).msg.isEmpty <;> simp_all [levelOneWarningEntry]

end DcgmiDiag
