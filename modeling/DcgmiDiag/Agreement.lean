import DcgmiDiag.GpuList
import DcgmiDiag.JsonReport
import DcgmiDiag.TextReport

/-!
# The text report against the JSON report

Both reports are rendered from one response, by separate code. This module reads
each report back at every result and compares them.

For a level-one test, the text report shows the label of a test that ran and nothing
for one that did not; the JSON report lists every test but a CUDA runtime test that
did not run, at a position shifted down by one past that test, with the label of
`HelperDisplayDiagResult`, which reads `Fail` for a test that did not run.

For a per-GPU result, the JSON report writes at `results[k]` of the test's entry the
result of the GPU at position `k` of the list, with its status label and the GPU's
index as its id; the text report puts the slot's `gpuId` into the bucket of the
status. The bucket's label is the JSON label except for a warning, which the JSON
report labels `Fail`; the two ids agree when the slot's `gpuId` is its index. The
test names agree, and the categories agree except for the EUD test, which the text
report shows under Stress and the JSON report files under Hardware.
-/

namespace DcgmiDiag

/-! ## Folds of writes -/

/-- A fold of writes that each keep member `name` keeps it. -/
theorem member_foldl {α : Type} (l : List α) (f : JsonValue → α → JsonValue) (v : JsonValue)
    (name : JsonKey) (keeps : ∀ w a, (f w a).member name = w.member name) :
    (l.foldl f v).member name = v.member name := by
  induction l generalizing v with
  | nil => rfl
  | cons a l inductionHypothesis => rw [List.foldl_cons, inductionHypothesis, keeps]

theorem addResultWarning_member (detail : ErrorDetail) (j : Nat) (entry : JsonValue) (name : JsonKey)
    (distinct : name ≠ .nvvsWarnings) : (addResultWarning detail j entry).member name = entry.member name := by
  unfold addResultWarning
  split <;> simp [distinct]

theorem addLevelOneWarning_member (detail : ErrorDetail) (i : Nat) (entry : JsonValue) (name : JsonKey)
    (notId : name ≠ .nvvsGpuId) (notWarnings : name ≠ .nvvsWarnings) :
    (addLevelOneWarning detail i entry).member name = entry.member name := by
  unfold addLevelOneWarning
  split <;> simp [notId, notWarnings]

/-- The status of a per-GPU result object is its label. -/
theorem resultEntryOf_status (result : TestResult) (gpuIndex : Nat) :
    (resultEntryOf result gpuIndex).member .nvvsStatus = .string (helperDisplayDiagResult result.status) := by
  unfold resultEntryOf
  split <;>
    simp [member_foldl _ _ _ _ fun w j => addResultWarning_member (result.error j) j w .nvvsStatus (by decide)]

/-- The id of a per-GPU result object is the GPU's index, as at most nine digits. -/
theorem resultEntryOf_gpuId (result : TestResult) (gpuIndex : Nat) :
    (resultEntryOf result gpuIndex).member .nvvsGpuId = .string ((Nat.repr gpuIndex).toList.take 9) := by
  unfold resultEntryOf
  split <;>
    simp [member_foldl _ _ _ _ fun w j => addResultWarning_member (result.error j) j w .nvvsGpuId (by decide)]

/-! ## The Deployment category of the JSON report -/

/-- The position of level-one test `i` in the Deployment tests array: one lower past a
CUDA runtime test that did not run. -/
def basicTestPosition (diagResult : DiagResponse) (i : Nat) : Nat :=
  if dcgmSwtestCudaRuntimeLibrary < i ∧
      (diagResult.levelOne dcgmSwtestCudaRuntimeLibrary).status = .notRun then i - 1
  else i

/-- The JSON report lists level-one test `i`: it is not a CUDA runtime test that did not
run. -/
def BasicTestListed (diagResult : DiagResponse) (i : Nat) : Prop :=
  ¬(i = dcgmSwtestCudaRuntimeLibrary ∧ (diagResult.levelOne i).status = .notRun)

/-- Listed tests have increasing positions. -/
theorem basicTestPosition_lt (diagResult : DiagResponse) (i n : Nat) (before : i < n)
    (listed : BasicTestListed diagResult i) : basicTestPosition diagResult i < basicTestPosition diagResult n := by
  have cuda : dcgmSwtestCudaRuntimeLibrary = 3 := rfl
  unfold basicTestPosition
  by_cases skipped : (diagResult.levelOne dcgmSwtestCudaRuntimeLibrary).status = .notRun
  · have notCuda : i ≠ dcgmSwtestCudaRuntimeLibrary := fun same => listed ⟨same, same ▸ skipped⟩
    simp only [skipped, and_true]
    split_ifs <;> omega
  · simp only [skipped, and_false, if_false]
    exact before

/-- The level-one result object keeps its status label under the warnings. -/
theorem levelOneEntry_status (result : TestResult) :
    ((List.finRange dcgmMaxErrors).foldl (fun entry i => addLevelOneWarning (result.error i) i entry)
        (JsonValue.null.update [.key .nvvsStatus] (.string (helperDisplayDiagResult result.status)))).member
      .nvvsStatus = .string (helperDisplayDiagResult result.status) := by
  rw [member_foldl _ _ _ _ fun w i => addLevelOneWarning_member (result.error i) i w .nvvsStatus
    (by decide) (by decide)]
  simp

theorem addBasicTest_skipped (diagResult : DiagResponse) (state : JsonValue × Int) (n : Nat)
    (skipped : ¬BasicTestListed diagResult n) : addBasicTest diagResult state n = (state.1, -1) := by
  unfold BasicTestListed at skipped
  obtain ⟨rfl, notRun⟩ := not_not.mp skipped
  simp [addBasicTest, notRun]

theorem addBasicTest_listed (diagResult : DiagResponse) (state : JsonValue × Int) (n : Nat)
    (listed : BasicTestListed diagResult n) :
    addBasicTest diagResult state n =
      (((state.1.update [.key .nvvsTests, .index ((n : Int) + state.2).toNat, .key .nvvsTestName]
          (.string (levelOneTestName n))).update
        [.key .nvvsTests, .index ((n : Int) + state.2).toNat, .key .nvvsResults, .index 0]
        ((List.finRange dcgmMaxErrors).foldl
          (fun entry i => addLevelOneWarning ((diagResult.levelOne n).error i) i entry)
          (JsonValue.null.update [.key .nvvsStatus]
            (.string (helperDisplayDiagResult (diagResult.levelOne n).status))))), state.2) := by
  unfold BasicTestListed at listed
  simp [addBasicTest, listed]

/-- The level-one loop of `HelperJsonAddBasicTests` after the tests below `n`: the
adjustment is set once the CUDA runtime test was skipped, the header is kept, and
each listed test is named and labelled at its position. -/
theorem addBasicTests_spec (diagResult : DiagResponse) (category : JsonValue) (n : Nat) :
    ((List.range n).foldl (addBasicTest diagResult) (category, 0)).2 =
        (if dcgmSwtestCudaRuntimeLibrary < n ∧
          (diagResult.levelOne dcgmSwtestCudaRuntimeLibrary).status = .notRun then -1 else 0) ∧
      ((List.range n).foldl (addBasicTest diagResult) (category, 0)).1.member .nvvsHeader =
        category.member .nvvsHeader ∧
      ∀ i < n, BasicTestListed diagResult i →
        let test := ((((List.range n).foldl (addBasicTest diagResult) (category, 0)).1.member .nvvsTests).element
          (basicTestPosition diagResult i))
        test.member .nvvsTestName = .string (levelOneTestName i) ∧
          ((test.member .nvvsResults).element 0).member .nvvsStatus =
            .string (helperDisplayDiagResult (diagResult.levelOne i).status) := by
  have cuda : dcgmSwtestCudaRuntimeLibrary = 3 := rfl
  induction n with
  | zero => simp
  | succ n inductionHypothesis =>
    obtain ⟨adjustment, header, tests⟩ := inductionHypothesis
    rw [List.range_succ, List.foldl_append, List.foldl_cons, List.foldl_nil]
    generalize (List.range n).foldl (addBasicTest diagResult) (category, 0) = state at adjustment header tests
    by_cases listedNow : BasicTestListed diagResult n
    · have position : ((n : Int) + state.2).toNat = basicTestPosition diagResult n := by
        rw [adjustment]
        unfold basicTestPosition
        by_cases skippedCuda : (diagResult.levelOne dcgmSwtestCudaRuntimeLibrary).status = .notRun
        · simp only [skippedCuda, and_true]
          split_ifs <;> omega
        · simp [skippedCuda]
      rw [addBasicTest_listed _ _ _ listedNow, position]
      refine ⟨?_, by simp [header], fun i below listed => ?_⟩
      · rw [adjustment]
        by_cases skippedCuda : (diagResult.levelOne dcgmSwtestCudaRuntimeLibrary).status = .notRun
        · have notCuda : n ≠ dcgmSwtestCudaRuntimeLibrary := fun same => listedNow ⟨same, same ▸ skippedCuda⟩
          simp only [skippedCuda, and_true]
          split_ifs <;> omega
        · simp [skippedCuda]
      · rcases Nat.lt_succ_iff_lt_or_eq.mp below with earlier | same
        · have apart := (basicTestPosition_lt diagResult i n earlier listed).ne
          simpa [apart] using tests i earlier listed
        · subst same
          simp [levelOneEntry_status]
    · rw [addBasicTest_skipped _ _ _ listedNow]
      unfold BasicTestListed at listedNow
      obtain ⟨atCuda, notRun⟩ := not_not.mp listedNow
      subst atCuda
      refine ⟨by simp [notRun], header, fun i below listed => tests i ?_ listed⟩
      rcases Nat.lt_succ_iff_lt_or_eq.mp below with earlier | same
      · exact earlier
      · exact absurd ⟨same, same ▸ notRun⟩ listed

/-- The Deployment category of a report: its first header. -/
def deploymentCategory (doc : JsonValue) : JsonValue := ((doc.member .nvvsName).member .nvvsHeaders).element 0

/-- A later category keeps the headers before it. -/
theorem helperJsonAddCategory_keeps (output : JsonValue) (categoryIndex : Nat) (category : JsonValue)
    (categoryCount : Nat) (later : 0 < categoryIndex) :
    deploymentCategory (helperJsonAddCategory output categoryIndex category categoryCount).1 =
        deploymentCategory output ∧
      0 < (helperJsonAddCategory output categoryIndex category categoryCount).2 := by
  unfold helperJsonAddCategory deploymentCategory
  split <;> simp [later.ne, later]

/-- The first header of `HelperJsonBuildOutput`'s document is the category the
level-one loop built. -/
theorem helperJsonBuildOutput_deployment (drd : RunDiag) (output : JsonValue) (diagResult : DiagResponse)
    (gpuIndices : List (Fin dcgmMaxNumDevices)) :
    deploymentCategory (helperJsonBuildOutput drd output diagResult gpuIndices) =
      ((List.range diagResult.levelOneTestCount).foldl (addBasicTest diagResult)
        (JsonValue.null.update [.key .nvvsHeader] (.string Category.deployment.name), 0)).1 := by
  have basicIndex : 0 < (helperJsonAddBasicTests (jsonHeaderFields diagResult output) 0 diagResult).2 :=
    Nat.one_pos
  obtain ⟨integration, integrationIndex⟩ := helperJsonAddCategory_keeps _ _
    (jsonCategories drd diagResult gpuIndices).integration
    (jsonCategories drd diagResult gpuIndices).integrationPluginCount basicIndex
  obtain ⟨hardware, hardwareIndex⟩ := helperJsonAddCategory_keeps _ _
    (jsonCategories drd diagResult gpuIndices).hardware
    (jsonCategories drd diagResult gpuIndices).hardwarePluginCount integrationIndex
  obtain ⟨stress, -⟩ := helperJsonAddCategory_keeps _ _
    (jsonCategories drd diagResult gpuIndices).stress
    (jsonCategories drd diagResult gpuIndices).stressPluginCount hardwareIndex
  unfold helperJsonBuildOutput
  dsimp only
  rw [stress, hardware, integration]
  simp [helperJsonAddBasicTests, deploymentCategory]

/-! ## A test's entry in the JSON report -/

/-- What `HelperJsonAddResult` leaves at `results[k]` of a test's entry: the result
object of the GPU at position `k` of the list when it ran the test, null otherwise. -/
def jsonResultAt (diagResult : DiagResponse) (gpuIndices : List (Fin dcgmMaxNumDevices))
    (testIndex : Fin dcgmPerGpuTestCountV8) (k : Nat) : JsonValue :=
  match gpuIndices[k]? with
  | some gpuIndex =>
    let result := (diagResult.perGpuResponses gpuIndex).results testIndex
    if result.status = .notRun then .null else resultEntryOf result gpuIndex
  | none => .null

theorem jsonTestEntry_append (drd : RunDiag) (diagResult : DiagResponse)
    (gpuIndices : List (Fin dcgmMaxNumDevices)) (gpuIndex : Fin dcgmMaxNumDevices)
    (testIndex : Fin dcgmPerGpuTestCountV8) :
    jsonTestEntry drd diagResult (gpuIndices ++ [gpuIndex]) testIndex =
      let entry := jsonTestEntry drd diagResult gpuIndices testIndex
      let added := helperJsonAddResult (diagResult.perGpuResponses gpuIndex) entry.2 gpuIndex testIndex
        gpuIndices.length
      (entry.1 || added.1, added.2) := by
  simp [jsonTestEntry, List.enum_append]

/-- Each position of a test's results array holds what the GPU at that position of
the list recorded, null for a GPU that did not run the test. -/
theorem jsonTestEntry_results (drd : RunDiag) (diagResult : DiagResponse)
    (gpuIndices : List (Fin dcgmMaxNumDevices)) (testIndex : Fin dcgmPerGpuTestCountV8) (k : Nat) :
    ((jsonTestEntry drd diagResult gpuIndices testIndex).2.member .nvvsResults).element k =
      jsonResultAt diagResult gpuIndices testIndex k := by
  induction gpuIndices using List.reverseRecOn generalizing k with
  | nil => simp [jsonTestEntry, jsonResultAt]
  | append_singleton gpuIndices gpuIndex inductionHypothesis =>
    rw [jsonTestEntry_append]
    rcases Nat.lt_trichotomy k gpuIndices.length with before | same | after
    · have lookup : (gpuIndices ++ [gpuIndex])[k]? = gpuIndices[k]? := List.getElem?_append_left before
      by_cases notRun : ((diagResult.perGpuResponses gpuIndex).results testIndex).status = .notRun <;>
        simpa [helperJsonAddResult, jsonResultAt, lookup, notRun, before.ne] using inductionHypothesis k
    · subst same
      have fresh := inductionHypothesis gpuIndices.length
      simp only [jsonResultAt, List.getElem?_eq_none (le_refl _)] at fresh
      by_cases notRun : ((diagResult.perGpuResponses gpuIndex).results testIndex).status = .notRun <;>
        simp [helperJsonAddResult, jsonResultAt, fresh, notRun]
    · have lookup : (gpuIndices ++ [gpuIndex])[k]? = none := List.getElem?_eq_none (by simp; omega)
      have unwritten := inductionHypothesis k
      simp only [jsonResultAt, List.getElem?_eq_none (le_of_lt after)] at unwritten
      by_cases notRun : ((diagResult.perGpuResponses gpuIndex).results testIndex).status = .notRun <;>
        simp [helperJsonAddResult, jsonResultAt, lookup, unwritten, notRun, after.ne']

/-- A test's entry is named by `HelperGetPluginName`. -/
theorem jsonTestEntry_name (drd : RunDiag) (diagResult : DiagResponse)
    (gpuIndices : List (Fin dcgmMaxNumDevices)) (testIndex : Fin dcgmPerGpuTestCountV8) :
    (jsonTestEntry drd diagResult gpuIndices testIndex).2.member .nvvsTestName =
      .string (helperGetPluginName drd testIndex) := by
  induction gpuIndices using List.reverseRecOn with
  | nil => simp [jsonTestEntry]
  | append_singleton gpuIndices gpuIndex inductionHypothesis =>
    rw [jsonTestEntry_append]
    by_cases notRun : ((diagResult.perGpuResponses gpuIndex).results testIndex).status = .notRun <;>
      simp [helperJsonAddResult, notRun, inductionHypothesis]

/-- Some GPU of the list ran the test exactly when `HelperJsonBuildOutput` files its entry. -/
theorem jsonTestEntry_ran (drd : RunDiag) (diagResult : DiagResponse)
    (gpuIndices : List (Fin dcgmMaxNumDevices)) (testIndex : Fin dcgmPerGpuTestCountV8) :
    (jsonTestEntry drd diagResult gpuIndices testIndex).1 =
      gpuIndices.any fun gpuIndex => ((diagResult.perGpuResponses gpuIndex).results testIndex).status != .notRun := by
  induction gpuIndices using List.reverseRecOn with
  | nil => rfl
  | append_singleton gpuIndices gpuIndex inductionHypothesis =>
    rw [jsonTestEntry_append, List.any_append, ← inductionHypothesis]
    by_cases notRun : ((diagResult.perGpuResponses gpuIndex).results testIndex).status = .notRun <;>
      simp [helperJsonAddResult, notRun]

/-! ## The per-GPU categories of the JSON report -/

/-- A per-GPU category being built, with its plugin count. -/
def JsonCategories.get (categories : JsonCategories) : Category → JsonValue × Nat
  | .hardware => (categories.hardware, categories.hardwarePluginCount)
  | .integration => (categories.integration, categories.integrationPluginCount)
  | .stress => (categories.stress, categories.stressPluginCount)
  | .deployment => (.null, 0)

theorem jsonCategory_ne_deployment (pluginIndex : Nat) : jsonCategory pluginIndex ≠ some .deployment := by
  unfold jsonCategory
  split_ifs <;> simp

/-- `HelperJsonAddPlugin` appends the entry to the category of its test. -/
theorem JsonCategories.get_addPlugin (categories : JsonCategories) (pluginIndex : Nat) (testEntry : JsonValue)
    (category : Category) :
    (categories.addPlugin pluginIndex testEntry).get category =
      if jsonCategory pluginIndex = some category then
        ((categories.get category).1.update [.key .nvvsTests, .index (categories.get category).2] testEntry,
          (categories.get category).2 + 1)
      else categories.get category := by
  have notDeployment := jsonCategory_ne_deployment pluginIndex
  unfold addPlugin
  split <;> rename_i filed <;> cases category <;>
    simp_all [get, helperJsonAddPlugin]

/-- The plugin loop over any list of tests: each category keeps its header, and holds
the entry of every listed test of its own that some GPU ran, below its plugin count. -/
theorem jsonCategories_foldl (drd : RunDiag) (diagResult : DiagResponse)
    (gpuIndices : List (Fin dcgmMaxNumDevices)) (plugins : List (Fin dcgmPerGpuTestCountV8))
    (category : Category) :
    let categories := plugins.foldl
      (fun categories pluginIndex =>
        let entry := jsonTestEntry drd diagResult gpuIndices pluginIndex
        if entry.1 then categories.addPlugin pluginIndex entry.2 else categories)
      JsonCategories.initial
    (categories.get category).1.member .nvvsHeader = (JsonCategories.initial.get category).1.member .nvvsHeader ∧
      ∀ pluginIndex ∈ plugins, (jsonTestEntry drd diagResult gpuIndices pluginIndex).1 = true →
        jsonCategory pluginIndex = some category →
        ∃ k < (categories.get category).2,
          (((categories.get category).1.member .nvvsTests).element k) =
            (jsonTestEntry drd diagResult gpuIndices pluginIndex).2 := by
  induction plugins using List.reverseRecOn with
  | nil => simp
  | append_singleton plugins pluginIndex inductionHypothesis =>
    obtain ⟨header, filed⟩ := inductionHypothesis
    simp only [List.foldl_append, List.foldl_cons, List.foldl_nil]
    generalize plugins.foldl _ JsonCategories.initial = categories at header filed
    by_cases ran : (jsonTestEntry drd diagResult gpuIndices pluginIndex).1 = true
    · simp only [ran, if_true, JsonCategories.get_addPlugin]
      by_cases own : jsonCategory pluginIndex = some category
      · refine ⟨by simp [own, header], fun other member otherRan otherOwn => ?_⟩
        simp only [own, if_true]
        rcases List.mem_append.mp member with earlier | last
        · obtain ⟨k, below, found⟩ := filed other earlier otherRan otherOwn
          exact ⟨k, by omega, by simp [below.ne, found]⟩
        · rw [List.mem_singleton.mp last]
          exact ⟨(categories.get category).2, by omega, by simp⟩
      · refine ⟨by simp [own, header], fun other member otherRan otherOwn => ?_⟩
        simp only [own, if_false]
        rcases List.mem_append.mp member with earlier | last
        · exact filed other earlier otherRan otherOwn
        · exact absurd (List.mem_singleton.mp last ▸ otherOwn) own
    · simp only [ran, Bool.false_eq_true, if_false]
      refine ⟨header, fun other member otherRan otherOwn => ?_⟩
      rcases List.mem_append.mp member with earlier | last
      · exact filed other earlier otherRan otherOwn
      · exact absurd (List.mem_singleton.mp last ▸ otherRan) ran

/-- `HelperJsonAddCategory` keeps the headers before its index, and places a category
that has a plugin at its index. -/
theorem helperJsonAddCategory_headers (output : JsonValue) (categoryIndex : Nat) (category : JsonValue)
    (categoryCount : Nat) :
    let added := helperJsonAddCategory output categoryIndex category categoryCount
    categoryIndex ≤ added.2 ∧
      (∀ j < categoryIndex, ((added.1.member .nvvsName).member .nvvsHeaders).element j =
        ((output.member .nvvsName).member .nvvsHeaders).element j) ∧
      (0 < categoryCount → added.2 = categoryIndex + 1 ∧
        ((added.1.member .nvvsName).member .nvvsHeaders).element categoryIndex = category) := by
  unfold helperJsonAddCategory
  split
  · exact ⟨by omega, fun j before => by simp [before.ne], fun _ => ⟨rfl, by simp⟩⟩
  · exact ⟨le_refl _, fun _ _ => rfl, fun positive => absurd positive ‹_›⟩

/-- Every test that some GPU ran sits, with its entry, in the tests of a header of the
document that carries the name of the test's JSON category. -/
theorem helperJsonBuildOutput_files_test (drd : RunDiag) (output : JsonValue) (diagResult : DiagResponse)
    (gpuIndices : List (Fin dcgmMaxNumDevices)) (testIndex : Fin dcgmPerGpuTestCountV8)
    (ran : (jsonTestEntry drd diagResult gpuIndices testIndex).1 = true) (category : Category)
    (filed : jsonCategory testIndex = some category) :
    ∃ h k,
      ((((helperJsonBuildOutput drd output diagResult gpuIndices).member .nvvsName).member .nvvsHeaders).element
          h).member .nvvsHeader = .string category.name ∧
        (((((helperJsonBuildOutput drd output diagResult gpuIndices).member .nvvsName).member .nvvsHeaders).element
          h).member .nvvsTests).element k = (jsonTestEntry drd diagResult gpuIndices testIndex).2 := by
  have notDeployment := jsonCategory_ne_deployment testIndex
  obtain ⟨header, entries⟩ :=
    jsonCategories_foldl drd diagResult gpuIndices (List.finRange dcgmPerGpuTestCountV8) category
  obtain ⟨k, below, found⟩ := entries testIndex (List.mem_finRange _) ran filed
  unfold helperJsonBuildOutput jsonCategories
  dsimp only
  generalize (List.finRange dcgmPerGpuTestCountV8).foldl _ JsonCategories.initial = categories
    at header below found ⊢
  generalize helperJsonAddBasicTests (jsonHeaderFields diagResult output) 0 diagResult = basic
  obtain ⟨_, _, integrationPlaced⟩ := helperJsonAddCategory_headers basic.1 basic.2 categories.integration
    categories.integrationPluginCount
  generalize helperJsonAddCategory basic.1 basic.2 categories.integration
    categories.integrationPluginCount = integration at integrationPlaced ⊢
  obtain ⟨integrationBefore, integrationKept, hardwarePlaced⟩ := helperJsonAddCategory_headers integration.1
    integration.2 categories.hardware categories.hardwarePluginCount
  generalize helperJsonAddCategory integration.1 integration.2 categories.hardware
    categories.hardwarePluginCount = hardware at integrationBefore integrationKept hardwarePlaced ⊢
  obtain ⟨-, hardwareKept, stressPlaced⟩ := helperJsonAddCategory_headers hardware.1 hardware.2
    categories.stress categories.stressPluginCount
  cases category with
  | deployment => exact absurd filed notDeployment
  | integration =>
    obtain ⟨placedAt, placed⟩ := integrationPlaced (by simp [JsonCategories.get] at below; omega)
    refine ⟨basic.2, k, ?_⟩
    rw [hardwareKept _ (by omega), integrationKept _ (by omega), placed]
    exact ⟨by simpa [JsonCategories.get, JsonCategories.initial, Category.name] using header,
      by simpa [JsonCategories.get] using found⟩
  | hardware =>
    obtain ⟨placedAt, placed⟩ := hardwarePlaced (by simp [JsonCategories.get] at below; omega)
    refine ⟨integration.2, k, ?_⟩
    rw [hardwareKept _ (by omega), placed]
    exact ⟨by simpa [JsonCategories.get, JsonCategories.initial, Category.name] using header,
      by simpa [JsonCategories.get] using found⟩
  | stress =>
    obtain ⟨-, placed⟩ := stressPlaced (by simp [JsonCategories.get] at below; omega)
    refine ⟨hardware.2, k, ?_⟩
    rw [placed]
    exact ⟨by simpa [JsonCategories.get, JsonCategories.initial, Category.name] using header,
      by simpa [JsonCategories.get] using found⟩

/-! ## Labels, ids and categories -/

/-- The bucket of a status that ran is labelled as the JSON report labels it, except a
warning. -/
theorem bucket_label_iff (status : DiagResult) (ran : status ≠ .notRun) :
    ∃ bucket, bucketOf status = some bucket ∧
      (bucket.label = helperDisplayDiagResult status ↔ status ≠ .warn) := by
  cases status <;> simp_all [bucketOf, Bucket.label, helperDisplayDiagResult]

/-- The section of the text report that shows a per-GPU test: `HelperDisplayIntegration`
shows the PCIe test, `HelperDisplayHardware` the memory (or context-create), Diagnostic
and pulse tests, and `HelperDisplayPerformance` the tests of `stressTests`. -/
def textCategory (testIndex : Nat) : Option Category :=
  if testIndex = dcgmPciIndex then some .integration
  else if testIndex = dcgmMemoryIndex ∨ testIndex = dcgmDiagnosticIndex ∨ testIndex = dcgmPulseTestIndex then
    some .hardware
  else if testIndex ∈ stressTests.map Prod.snd then some .stress
  else none

/-- The two reports file every per-GPU test under the same category but the EUD test. -/
theorem jsonCategory_eq_textCategory (testIndex : Nat) :
    jsonCategory testIndex = textCategory testIndex ↔ testIndex ≠ dcgmEudTestIndex := by
  by_cases tabled : testIndex < 10
  · have table : ∀ i : Fin 10, jsonCategory i = textCategory i ↔ (i : Nat) ≠ dcgmEudTestIndex := by decide
    exact table ⟨testIndex, tabled⟩
  · simp only [jsonCategory, textCategory, stressTests, dcgmMemoryIndex, dcgmDiagnosticIndex, dcgmPulseTestIndex,
      dcgmEudTestIndex, dcgmPciIndex, dcgmSmStressIndex, dcgmTargetedStressIndex, dcgmTargetedPowerIndex,
      dcgmMemoryBandwidthIndex, dcgmMemtestIndex, List.map, List.mem_cons, List.mem_nil_iff, or_false]
    rw [if_neg (by omega), if_neg (by omega), if_neg (by omega), if_neg (by omega), if_neg (by omega),
      if_neg (by omega)]
    simp only [true_iff]
    omega

/-- The context-create test, shown by the text report under index 15 and filed by the
JSON report under index 0, has one name in both. -/
theorem helperGetPluginName_contextCreate (drd : RunDiag) (contextCreate : isContextCreateRun drd = true) :
    helperGetPluginName drd dcgmContextCreateIndex = helperGetPluginName drd dcgmMemoryIndex := by
  simp [helperGetPluginName, contextCreate, dcgmContextCreateIndex, dcgmMemoryIndex, dcgmDiagnosticIndex,
    dcgmPciIndex, dcgmSmStressIndex, dcgmTargetedStressIndex, dcgmTargetedPowerIndex, dcgmMemoryBandwidthIndex,
    dcgmMemtestIndex, dcgmPulseTestIndex, dcgmEudTestIndex]

/-- The first item `HelperDisplayDeploymentResult` prints: the label row of a test that
ran, nothing for one that did not. -/
theorem helperDisplayDeploymentResult_head (nameTag : List Char) (result : TestResult) :
    (helperDisplayDeploymentResult nameTag result).head? =
      if result.status = .notRun then none
      else some (.row nameTag (helperDisplayDiagResult result.status)) := by
  unfold helperDisplayDeploymentResult
  by_cases notRun : result.status = .notRun <;> simp [notRun]

/-! ## The two reports -/

/-- The two reports agree on every result both show, but for warnings, ids and the EUD
test's category. A level-one test below the count is shown in text, with the label of
its status, exactly when it ran, and is listed in JSON with the same label at its
position unless it is a CUDA runtime test that did not run. For the GPU at position
`k` of the list and a per-GPU test it ran, the JSON document files the test, under
the `HelperGetPluginName` name, in a header named after the test's JSON category, and
records at `results[k]` the status label and the GPU's index; the text report puts
the slot's `gpuId` into the bucket of the status, whose label is the JSON label unless
the status is a warning. The context-create test has one name in both reports, and
the two categories agree but for the EUD test. -/
theorem reports_agree_but_warnings (drd : RunDiag) (diagResult : DiagResponse) (output : JsonValue)
    (gpuIndices : List (Fin dcgmMaxNumDevices)) :
    (∀ i < diagResult.levelOneTestCount,
      (helperDisplayDeploymentResult (levelOneTestName i) (diagResult.levelOne i)).head? =
          (if (diagResult.levelOne i).status = .notRun then none
            else some (.row (levelOneTestName i) (helperDisplayDiagResult (diagResult.levelOne i).status))) ∧
        (BasicTestListed diagResult i →
          let test := ((deploymentCategory (helperJsonBuildOutput drd output diagResult gpuIndices)).member
            .nvvsTests).element (basicTestPosition diagResult i)
          test.member .nvvsTestName = .string (levelOneTestName i) ∧
            ((test.member .nvvsResults).element 0).member .nvvsStatus =
              .string (helperDisplayDiagResult (diagResult.levelOne i).status))) ∧
    (∀ (testIndex : Fin dcgmPerGpuTestCountV8) (k : Nat) (gpuIndex : Fin dcgmMaxNumDevices),
      gpuIndices[k]? = some gpuIndex →
      ((diagResult.perGpuResponses gpuIndex).results testIndex).status ≠ .notRun →
        let status := ((diagResult.perGpuResponses gpuIndex).results testIndex).status
        (∀ category, jsonCategory testIndex = some category →
          ∃ h j,
            let header := (((helperJsonBuildOutput drd output diagResult gpuIndices).member .nvvsName).member
              .nvvsHeaders).element h
            let test := (header.member .nvvsTests).element j
            let result := (test.member .nvvsResults).element k
            header.member .nvvsHeader = .string category.name ∧
              test.member .nvvsTestName = .string (helperGetPluginName drd testIndex) ∧
              result.member .nvvsStatus = .string (helperDisplayDiagResult status) ∧
              result.member .nvvsGpuId = .string ((Nat.repr gpuIndex).toList.take 9)) ∧
        ∃ bucket, bucketOf status = some bucket ∧
          (diagResult.perGpuResponses gpuIndex).gpuId ∈
            (gpuBuckets diagResult.perGpuResponses testIndex gpuIndices).ids bucket ∧
          (bucket.label = helperDisplayDiagResult status ↔ status ≠ .warn)) ∧
    (isContextCreateRun drd = true →
      helperGetPluginName drd dcgmContextCreateIndex = helperGetPluginName drd dcgmMemoryIndex) ∧
    (∀ testIndex, jsonCategory testIndex = textCategory testIndex ↔ testIndex ≠ dcgmEudTestIndex) := by
  refine ⟨fun i below => ⟨helperDisplayDeploymentResult_head _ _, fun listed => ?_⟩,
    fun testIndex k gpuIndex found ran => ⟨fun category filed => ?_, ?_⟩,
    helperGetPluginName_contextCreate drd, jsonCategory_eq_textCategory⟩
  · rw [helperJsonBuildOutput_deployment]
    exact (addBasicTests_spec diagResult _ _).2.2 i below listed
  · have someRan : (jsonTestEntry drd diagResult gpuIndices testIndex).1 = true := by
      rw [jsonTestEntry_ran, List.any_eq_true]
      exact ⟨gpuIndex, List.getElem?_mem found, by simpa using ran⟩
    obtain ⟨h, j, header, test⟩ :=
      helperJsonBuildOutput_files_test drd output diagResult gpuIndices testIndex someRan category filed
    have result : ((jsonTestEntry drd diagResult gpuIndices testIndex).2.member .nvvsResults).element k =
        resultEntryOf ((diagResult.perGpuResponses gpuIndex).results testIndex) gpuIndex := by
      simp [jsonTestEntry_results, jsonResultAt, found, ran]
    refine ⟨h, j, header, ?_⟩
    rw [test, jsonTestEntry_name, result, resultEntryOf_status, resultEntryOf_gpuId]
    exact ⟨rfl, rfl, rfl⟩
  · obtain ⟨bucket, bucketed, label⟩ := bucket_label_iff _ ran
    refine ⟨bucket, bucketed, ?_, label⟩
    rw [gpuBuckets_ids, List.mem_filterMap]
    exact ⟨gpuIndex, List.getElem?_mem found, by simp [bucketed]⟩

/-- A response whose only GPU warned in the PCIe test. -/
def pcieWarnOnFirstGpu : DiagResponse :=
  { DiagResponse.zero with
    gpuCount := 1
    gpuCountInRange := by decide
    perGpuResponses := fun i =>
      if i.val = 0 then
        { PerGpuResponse.zero with
          results := fun j => if j.val = dcgmPciIndex then { TestResult.zero with status := .warn } else .zero }
      else .zero }

/-- A PCIe warning reads `Warn - All` in the text report and `Fail` in the JSON report. -/
theorem reports_disagree_on_warning :
    (helperDisplayIntegration ⟨0, 0, [], [], 0, 0⟩ pcieWarnOnFirstGpu.perGpuResponses
        [⟨0, by decide⟩]).filterMap Printed.row? = [("PCIe".toList, "Warn - All".toList)] ∧
      ((helperJsonBuildOutput ⟨0, 0, [], [], 0, 0⟩ .null pcieWarnOnFirstGpu [⟨0, by decide⟩]).get
        [.key .nvvsName, .key .nvvsHeaders, .index 1, .key .nvvsTests, .index 0, .key .nvvsResults,
          .index 0, .key .nvvsStatus]).str? = some "Fail".toList := by
  decide

/-! ## The Metadata rows against the header fields -/

/-- Joining one more list adds the separator and the list at the end. -/
theorem intercalate_append_singleton {α : Type} (sep : List α) (l : List (List α)) (nonEmpty : l ≠ [])
    (x : List α) : sep.intercalate (l ++ [x]) = sep.intercalate l ++ sep ++ x := by
  induction l with
  | nil => exact absurd rfl nonEmpty
  | cons a rest inductionHypothesis =>
    cases rest with
    | nil => simp [List.intercalate, List.intersperse]
    | cons b rest =>
      have joined := inductionHypothesis (List.cons_ne_nil _ _)
      simp only [List.intercalate, List.cons_append, List.intersperse_cons_cons, List.flatten_cons] at joined ⊢
      rw [joined]
      simp

/-- The device-id row joins the `gpuCount` device ids with commas. -/
theorem devIdList_eq (diagResult : DiagResponse) :
    devIdList diagResult = [','].intercalate ((List.range diagResult.gpuCount).map diagResult.devId) := by
  unfold devIdList
  induction diagResult.gpuCount with
  | zero => rfl
  | succ n inductionHypothesis =>
    rw [List.range_succ, List.foldl_append, inductionHypothesis, List.map_append]
    simp only [List.foldl_cons, List.foldl_nil, List.map_cons, List.map_nil]
    by_cases first : n = 0
    · subst first
      simp [List.intercalate, List.intersperse]
    · rw [intercalate_append_singleton _ _ (by simpa using first)]
      simp [first]

/-- Writing `name[i]` for `i = 0, …, n - 1` on a value without that member leaves an
array of the `n` values. -/
theorem elements_foldl_update_index (v : JsonValue) (name : JsonKey) (f : Nat → JsonValue) (n : Nat)
    (empty : (v.member name).elements = []) :
    (((List.range n).foldl (fun output i => output.update [.key name, .index i] (f i)) v).member name).elements =
      (List.range n).map f := by
  induction n with
  | zero => exact empty
  | succ n inductionHypothesis =>
    rw [List.range_succ, List.foldl_append, List.map_append]
    generalize (List.range n).foldl (fun output i => output.update [.key name, .index i] (f i)) v = w
      at inductionHypothesis
    have appended := JsonValue.elements_setElement_length (w.member name) (f n)
    rw [inductionHypothesis, List.length_map, List.length_range] at appended
    simp [JsonValue.update, appended, inductionHypothesis]

/-- The categories only write below `NVVS_NAME`. -/
theorem helperJsonBuildOutput_member (drd : RunDiag) (output : JsonValue) (diagResult : DiagResponse)
    (gpuIndices : List (Fin dcgmMaxNumDevices)) (name : JsonKey) (distinct : name ≠ .nvvsName) :
    (helperJsonBuildOutput drd output diagResult gpuIndices).member name =
      (jsonHeaderFields diagResult output).member name := by
  have keeps : ∀ output categoryIndex category categoryCount,
      (helperJsonAddCategory output categoryIndex category categoryCount).1.member name = output.member name := by
    intro output categoryIndex category categoryCount
    unfold helperJsonAddCategory
    split <;> simp [distinct]
  simp [helperJsonBuildOutput, keeps, helperJsonAddBasicTests, distinct]

/-- The header fields of the JSON report: the two versions, and the device ids as an array. -/
theorem jsonHeaderFields_fields (diagResult : DiagResponse) :
    (jsonHeaderFields diagResult .null).member .nvvsVersionStr = .string diagResult.dcgmVersion ∧
      (jsonHeaderFields diagResult .null).member .nvvsDriverVersion = .string diagResult.driverVersion ∧
      ((jsonHeaderFields diagResult .null).member .nvvsGpuDevIds).elements =
        (List.range diagResult.gpuCount).map fun i => .string (diagResult.devId i) := by
  have serials : ∀ (name : JsonKey), name ≠ .nvvsGpuSerials → ∀ (w : JsonValue) (i : Fin dcgmMaxNumDevices),
      (if diagResult.devSerials i != dcgmStrBlank then
        w.update [.key .nvvsGpuSerials, .key (.text (Nat.repr i.val).toList)] (.string (diagResult.devSerials i))
      else w).member name = w.member name := fun name distinct w i => by
    split <;> simp [distinct]
  have devIds : ∀ (name : JsonKey), name ≠ .nvvsGpuDevIds → ∀ (w : JsonValue) (i : Nat),
      (w.update [.key .nvvsGpuDevIds, .index i] (.string (diagResult.devId i))).member name = w.member name :=
    fun name distinct w i => by simp [distinct]
  refine ⟨?_, ?_, elements_foldl_update_index _ _ _ _ ?_⟩
  · rw [jsonHeaderFields, member_foldl _ _ _ _ (devIds _ (by decide)), member_foldl _ _ _ _ (serials _ (by decide))]
    simp
  · rw [jsonHeaderFields, member_foldl _ _ _ _ (devIds _ (by decide)), member_foldl _ _ _ _ (serials _ (by decide))]
    simp
  · rw [member_foldl _ _ _ _ (serials _ (by decide))]
    simp [JsonValue.elements]

/-- The Metadata rows of the text report and the header fields of the JSON report,
rendered from one response, show the same DCGM and driver versions, and the row of
device ids, split at its commas, is the JSON report's array of device ids, in order,
whenever no device id is empty or contains a comma. -/
theorem metadata_agrees (drd : RunDiag) (diagResult : DiagResponse) (gpuIndices : List (Fin dcgmMaxNumDevices))
    (plainIds : ∀ i < diagResult.gpuCount, diagResult.devId i ≠ [] ∧ ',' ∉ diagResult.devId i) :
    ∃ version driver ids, helperDisplayVersionAndDevIds diagResult =
        [.text diagInfoBanner, .row "DCGM Version".toList version, .row "Driver Version Detected".toList driver,
          .row "GPU Device IDs Detected".toList ids] ∧
      (helperJsonBuildOutput drd .null diagResult gpuIndices).member .nvvsVersionStr = .string version ∧
      (helperJsonBuildOutput drd .null diagResult gpuIndices).member .nvvsDriverVersion = .string driver ∧
      ((helperJsonBuildOutput drd .null diagResult gpuIndices).member .nvvsGpuDevIds).elements =
        (dcgmTokenizeString ids ',').map .string := by
  obtain ⟨version, driver, devIds⟩ := jsonHeaderFields_fields diagResult
  refine ⟨_, _, _, rfl, by rw [helperJsonBuildOutput_member _ _ _ _ _ (by decide), version],
    by rw [helperJsonBuildOutput_member _ _ _ _ _ (by decide), driver], ?_⟩
  rw [helperJsonBuildOutput_member _ _ _ _ _ (by decide), devIds, devIdList_eq]
  cases counted : diagResult.gpuCount with
  | zero => rfl
  | succ n =>
    have noComma : ∀ token ∈ (List.range (n + 1)).map diagResult.devId, ',' ∉ token := by
      simp only [List.mem_map, List.mem_range]
      rintro _ ⟨i, below, rfl⟩
      exact (plainIds i (by omega)).2
    have nonEmpty : ([','].intercalate ((List.range (n + 1)).map diagResult.devId)).isEmpty = false := by
      have first := (plainIds 0 (by omega)).1
      rw [List.range_succ_eq_map, List.map_cons]
      cases (List.range n).map Nat.succ |>.map diagResult.devId <;>
        simp [List.intercalate, List.intersperse, first]
    rw [dcgmTokenizeString, nonEmpty, if_neg Bool.false_ne_true, List.splitOn_intercalate _ ',' noComma (by simp)]
    simp

/-- A response for two GPUs of one device id. -/
def twoGpus : DiagResponse :=
  { DiagResponse.zero with gpuCount := 2, gpuCountInRange := by decide, devIds := fun _ => "20b0".toList }

/-- The Metadata agreement for two GPUs. -/
theorem metadata_agrees_two_gpus :
    (∀ i < twoGpus.gpuCount, twoGpus.devId i ≠ [] ∧ ',' ∉ twoGpus.devId i) ∧
      ∃ version driver ids, helperDisplayVersionAndDevIds twoGpus =
          [.text diagInfoBanner, .row "DCGM Version".toList version, .row "Driver Version Detected".toList driver,
            .row "GPU Device IDs Detected".toList ids] ∧
        (helperJsonBuildOutput ⟨0, 0, [], [], 0, 0⟩ .null twoGpus []).member .nvvsVersionStr = .string version ∧
        (helperJsonBuildOutput ⟨0, 0, [], [], 0, 0⟩ .null twoGpus []).member .nvvsDriverVersion = .string driver ∧
        ((helperJsonBuildOutput ⟨0, 0, [], [], 0, 0⟩ .null twoGpus []).member .nvvsGpuDevIds).elements =
          (dcgmTokenizeString ids ',').map .string :=
  ⟨by decide, metadata_agrees _ _ _ (by decide)⟩

end DcgmiDiag
