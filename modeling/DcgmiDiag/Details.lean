import DcgmiDiag.TextReport

/-!
# When a per-GPU test shows its messages

`HelperDisplayGpuResults` prints a test's summary rows, then calls `HelperDisplayDetails`
with a `force` flag chosen by its branch, then, for a Diagnostic test that warned on
every GPU, the hardware return code. `HelperDisplayDetails` prints the error and info
messages of every GPU of the list, or none of them: there is no per-GPU filter.

This file splits `HelperDisplayGpuResults` into those three parts and computes the flag.
The buckets behind the summary rows sort every GPU of the list that ran the test into
exactly one of them, and no other GPU.
On every branch it is true exactly when some GPU of the list failed, warned or skipped
the test, so the messages of every GPU, passing GPUs included, are shown when the run is
verbose or some GPU did not pass, and none are shown otherwise.
-/

namespace DcgmiDiag

/-- The rows `HelperDisplayGpuResults` prints before the details: one `All` row when
every GPU of the list is in one bucket, one row a non-empty bucket otherwise. -/
def gpuSummaryRows (displayName : List Char) (buckets : Buckets) (numGpus : Nat) : List Printed :=
  if buckets.passed.length = numGpus then [.row displayName "Pass - All".toList]
  else if buckets.skipped.length = numGpus then [.row displayName "Skip - All".toList]
  else if buckets.failed.length = numGpus then [.row displayName "Fail - All".toList]
  else if buckets.warned.length = numGpus then [.row displayName "Warn - All".toList]
  else (bucketRows displayName buckets).1

/-- The row `HelperDisplayGpuResults` prints after the details: the hardware return code
of a Diagnostic test that warned on every GPU. -/
def gpuCodeRows (dataName : List Char) (buckets : Buckets) (numGpus hwDiagnosticReturn : Nat) :
    List Printed :=
  if buckets.passed.length ≠ numGpus ∧ buckets.skipped.length ≠ numGpus ∧
      buckets.failed.length ≠ numGpus ∧ buckets.warned.length = numGpus ∧ dataName = "Diagnostic".toList then
    [.row [] (eudReturnCode hwDiagnosticReturn)]
  else []

/-- `HelperDisplayGpuResults` is its summary rows, its details forced by the branch
taken, and its return-code row. -/
theorem helperDisplayGpuResults_eq (drd : RunDiag) (dataName : List Char) (testIndex : Nat)
    (diagResults : Fin dcgmMaxNumDevices → PerGpuResponse) (gpuIndices : List (Fin dcgmMaxNumDevices)) :
    helperDisplayGpuResults drd dataName testIndex diagResults gpuIndices =
      let resultIndex := if testIndex = dcgmContextCreateIndex then 0 else testIndex
      let buckets := gpuBuckets diagResults resultIndex gpuIndices
      gpuSummaryRows (helperGetPluginName drd testIndex) buckets gpuIndices.length ++
        helperDisplayDetails drd
          (if buckets.passed.length = gpuIndices.length then false
            else if buckets.skipped.length = gpuIndices.length ∨ buckets.failed.length = gpuIndices.length ∨
              buckets.warned.length = gpuIndices.length then true
            else (bucketRows [] buckets).2) gpuIndices resultIndex diagResults ++
        gpuCodeRows dataName buckets gpuIndices.length (diagResults ⟨0, by decide⟩).hwDiagnosticReturn := by
  unfold helperDisplayGpuResults gpuSummaryRows gpuCodeRows
  dsimp only
  generalize gpuBuckets diagResults (if testIndex = dcgmContextCreateIndex then 0 else testIndex) gpuIndices = buckets
  by_cases allPassed : buckets.passed.length = gpuIndices.length
  · simp [allPassed]
  by_cases allSkipped : buckets.skipped.length = gpuIndices.length
  · simp [allPassed, allSkipped]
  by_cases allFailed : buckets.failed.length = gpuIndices.length
  · simp [allPassed, allSkipped, allFailed]
  by_cases allWarned : buckets.warned.length = gpuIndices.length
  · by_cases diagnostic : dataName = "Diagnostic".toList <;>
      simp [allPassed, allSkipped, allFailed, allWarned, diagnostic]
  · simp [allPassed, allSkipped, allFailed, allWarned]
    rfl

/-- The statuses that show a test's details when it is not all-pass are those of the
failed, warned and skipped buckets. -/
theorem contains_iff_bucketOf (status : DiagResult) :
    [DiagResult.fail, .warn, .skip].contains status = true ↔
      bucketOf status = some .failed ∨ bucketOf status = some .warned ∨ bucketOf status = some .skipped := by
  cases status <;> decide

theorem gpuBuckets_ids_eq_nil (diagResults : Fin dcgmMaxNumDevices → PerGpuResponse) (testIndex : Nat)
    (gpuIndices : List (Fin dcgmMaxNumDevices)) (bucket : Bucket) :
    (gpuBuckets diagResults testIndex gpuIndices).ids bucket = [] ↔
      ∀ gpuIndex ∈ gpuIndices, bucketOf ((diagResults gpuIndex).result testIndex).status ≠ some bucket := by
  rw [gpuBuckets_ids, List.filterMap_eq_nil_iff]
  simp only [ite_eq_right_iff, reduceCtorEq, imp_false, ne_eq]

theorem gpuBuckets_ids_length (diagResults : Fin dcgmMaxNumDevices → PerGpuResponse) (testIndex : Nat)
    (gpuIndices : List (Fin dcgmMaxNumDevices)) (bucket : Bucket) :
    ((gpuBuckets diagResults testIndex gpuIndices).ids bucket).length = gpuIndices.length ↔
      ∀ gpuIndex ∈ gpuIndices, bucketOf ((diagResults gpuIndex).result testIndex).status = some bucket := by
  rw [gpuBuckets_ids, List.filterMap_length_eq_length]
  exact forall₂_congr fun _ _ => by split <;> simp_all

/-- Sorting a list into the four buckets by a partial bucket function keeps, all four
together, exactly the elements that have a bucket. -/
theorem buckets_filterMap_perm {α : Type} (l : List α) (bucketOfItem : α → Option Bucket) (gpuId : α → Nat) :
    let bucketIds := fun bucket => l.filterMap fun item =>
      if bucketOfItem item = some bucket then some (gpuId item) else none
    (bucketIds .passed ++ bucketIds .failed ++ bucketIds .warned ++ bucketIds .skipped).Perm
      ((l.filter fun item => (bucketOfItem item).isSome).map gpuId) := by
  induction l with
  | nil => simp
  | cons item rest inductionHypothesis =>
    cases bucket : bucketOfItem item with
    | none => simpa [List.filterMap_cons, bucket] using inductionHypothesis
    | some b =>
      cases b <;> simp only [List.filterMap_cons, bucket, List.filter_cons, Option.isSome_some, if_true,
          List.map_cons, Option.some.injEq, reduceCtorEq, if_false, List.cons_append, List.append_assoc] <;>
        simp only [← List.append_assoc]
      · exact inductionHypothesis.cons _
      all_goals
        refine List.perm_middle.trans (List.Perm.cons _ ?_)
        simpa only [List.append_assoc] using inductionHypothesis

/-- The bucketing loop of `HelperDisplayGpuResults` loses no result and duplicates none:
the four buckets together hold the `gpuId` of every GPU of the list that ran the test,
each once, and of no other GPU. -/
theorem gpuBuckets_partition (diagResults : Fin dcgmMaxNumDevices → PerGpuResponse) (testIndex : Nat)
    (gpuIndices : List (Fin dcgmMaxNumDevices)) :
    ((gpuBuckets diagResults testIndex gpuIndices).passed ++ (gpuBuckets diagResults testIndex gpuIndices).failed ++
        (gpuBuckets diagResults testIndex gpuIndices).warned ++ (gpuBuckets diagResults testIndex gpuIndices).skipped).Perm
      ((gpuIndices.filter fun gpuIndex => (bucketOf ((diagResults gpuIndex).result testIndex).status).isSome).map
        fun gpuIndex => (diagResults gpuIndex).gpuId) := by
  have ids := gpuBuckets_ids diagResults testIndex gpuIndices
  have perm := buckets_filterMap_perm gpuIndices (fun gpuIndex => bucketOf ((diagResults gpuIndex).result testIndex).status)
    fun gpuIndex => (diagResults gpuIndex).gpuId
  dsimp only at perm
  rwa [← ids .passed, ← ids .failed, ← ids .warned, ← ids .skipped] at perm

/-- The mixed case shows the details when some GPU failed, warned or skipped. -/
theorem bucketRows_forced (displayName : List Char) (diagResults : Fin dcgmMaxNumDevices → PerGpuResponse)
    (testIndex : Nat) (gpuIndices : List (Fin dcgmMaxNumDevices)) :
    (bucketRows displayName (gpuBuckets diagResults testIndex gpuIndices)).2 =
      gpuIndices.any fun gpuIndex =>
        [DiagResult.fail, .warn, .skip].contains ((diagResults gpuIndex).result testIndex).status := by
  have failedEmpty := gpuBuckets_ids_eq_nil diagResults testIndex gpuIndices .failed
  have warnedEmpty := gpuBuckets_ids_eq_nil diagResults testIndex gpuIndices .warned
  have skippedEmpty := gpuBuckets_ids_eq_nil diagResults testIndex gpuIndices .skipped
  simp only [Buckets.ids] at failedEmpty warnedEmpty skippedEmpty
  show (!(List.isEmpty _ && List.isEmpty _ && List.isEmpty _)) = _
  rw [Bool.eq_iff_iff, List.any_eq_true]
  simp only [contains_iff_bucketOf, Bool.not_eq_true', Bool.and_eq_false_iff, List.isEmpty_eq_false, ne_eq,
    failedEmpty, warnedEmpty, skippedEmpty, not_forall, not_not, exists_prop, or_assoc, and_or_left, exists_or]

/-- Every branch forces the details as the mixed case does: the all-pass branch has no
failed, warned or skipped GPU, and an all-skip, all-fail or all-warn branch has one. -/
theorem summaryForced_eq (diagResults : Fin dcgmMaxNumDevices → PerGpuResponse) (testIndex : Nat)
    (gpuIndices : List (Fin dcgmMaxNumDevices)) :
    (if (gpuBuckets diagResults testIndex gpuIndices).passed.length = gpuIndices.length then false
      else if (gpuBuckets diagResults testIndex gpuIndices).skipped.length = gpuIndices.length ∨
          (gpuBuckets diagResults testIndex gpuIndices).failed.length = gpuIndices.length ∨
          (gpuBuckets diagResults testIndex gpuIndices).warned.length = gpuIndices.length then true
      else (bucketRows [] (gpuBuckets diagResults testIndex gpuIndices)).2) =
      (bucketRows [] (gpuBuckets diagResults testIndex gpuIndices)).2 := by
  have every := gpuBuckets_ids_length diagResults testIndex gpuIndices
  split_ifs with allPassed someAll
  · rw [bucketRows_forced, eq_comm, List.any_eq_false]
    intro gpuIndex listed
    rw [contains_iff_bucketOf, (every .passed).mp allPassed gpuIndex listed]
    simp
  · obtain ⟨gpuIndex, listed⟩ := List.exists_mem_of_ne_nil gpuIndices
      (by rintro rfl; simp [gpuBuckets] at allPassed)
    rw [bucketRows_forced, eq_comm, List.any_eq_true]
    refine ⟨gpuIndex, listed, (contains_iff_bucketOf _).mpr ?_⟩
    rcases someAll with allSkipped | allFailed | allWarned
    · exact .inr (.inr ((every .skipped).mp allSkipped gpuIndex listed))
    · exact .inl ((every .failed).mp allFailed gpuIndex listed)
    · exact .inr (.inl ((every .warned).mp allWarned gpuIndex listed))
  · rfl

/-- `HelperDisplayDetails` prints everything or nothing. -/
theorem helperDisplayDetails_forced (drd : RunDiag) (forceVerbose : Bool)
    (gpuIndices : List (Fin dcgmMaxNumDevices)) (testIndex : Nat)
    (diagResults : Fin dcgmMaxNumDevices → PerGpuResponse) :
    helperDisplayDetails drd forceVerbose gpuIndices testIndex diagResults =
      if (drd.flags &&& dcgmRunFlagsVerbose != 0 || forceVerbose) = true then
        helperDisplayDetails drd true gpuIndices testIndex diagResults
      else [] := by
  cases forceVerbose <;> by_cases verbose : (drd.flags &&& dcgmRunFlagsVerbose != 0) = true <;>
    simp [helperDisplayDetails, verbose]

/-- `HelperDisplayGpuResults` prints its summary rows; then, when the run is verbose or
some GPU of the list failed, warned or skipped the test, the messages of every GPU of
the list, passing GPUs included: each non-empty error slot as `Warning` rows of its
sanitized text, GPU by GPU, and after them each non-empty info string as `Info` rows;
no message otherwise; and last the Diagnostic return-code row. -/
theorem helperDisplayGpuResults_details (drd : RunDiag) (dataName : List Char) (testIndex : Nat)
    (diagResults : Fin dcgmMaxNumDevices → PerGpuResponse) (gpuIndices : List (Fin dcgmMaxNumDevices)) :
    helperDisplayGpuResults drd dataName testIndex diagResults gpuIndices =
      let resultIndex := if testIndex = dcgmContextCreateIndex then 0 else testIndex
      let buckets := gpuBuckets diagResults resultIndex gpuIndices
      let cell := fun gpuIndex => (diagResults gpuIndex).result resultIndex
      gpuSummaryRows (helperGetPluginName drd testIndex) buckets gpuIndices.length ++
        (if (drd.flags &&& dcgmRunFlagsVerbose != 0 || gpuIndices.any fun gpuIndex =>
              [DiagResult.fail, .warn, .skip].contains (cell gpuIndex).status) = true then
          (gpuIndices.flatMap fun gpuIndex => (List.finRange dcgmMaxErrors).flatMap fun j =>
              if ((cell gpuIndex).error j).msg.isEmpty then []
              else displayVerboseInfo "Warning".toList (sanitized ((cell gpuIndex).error j).msg)) ++
            gpuIndices.flatMap fun gpuIndex =>
              if (cell gpuIndex).info.isEmpty then []
              else displayVerboseInfo "Info".toList (sanitized (cell gpuIndex).info)
        else []) ++
        gpuCodeRows dataName buckets gpuIndices.length (diagResults ⟨0, by decide⟩).hwDiagnosticReturn := by
  rw [helperDisplayGpuResults_eq]
  dsimp only
  rw [summaryForced_eq, bucketRows_forced, helperDisplayDetails_forced]
  simp only [helperDisplayDetails, Bool.true_or, if_true]

/-- Under any name but `Diagnostic`, `HelperDisplayGpuResults` is its summary rows and its
details, with no return-code row. -/
theorem helperDisplayGpuResults_of_ne (drd : RunDiag) (dataName : List Char) (testIndex : Nat)
    (diagResults : Fin dcgmMaxNumDevices → PerGpuResponse) (gpuIndices : List (Fin dcgmMaxNumDevices))
    (other : dataName ≠ "Diagnostic".toList) :
    helperDisplayGpuResults drd dataName testIndex diagResults gpuIndices =
      let resultIndex := if testIndex = dcgmContextCreateIndex then 0 else testIndex
      let buckets := gpuBuckets diagResults resultIndex gpuIndices
      gpuSummaryRows (helperGetPluginName drd testIndex) buckets gpuIndices.length ++
        helperDisplayDetails drd (bucketRows [] buckets).2 gpuIndices resultIndex diagResults := by
  rw [helperDisplayGpuResults_eq]
  simp only [summaryForced_eq, gpuCodeRows, other, and_false, if_false, List.append_nil]

/-- Two GPUs: the first passes the memory test with an info message, the second fails
it with an error. -/
def passedWithInfo : DiagResponse :=
  { DiagResponse.zero with
    perGpuResponses := fun i =>
      { PerGpuResponse.zero with
        gpuId := i.val
        results := fun j =>
          if j.val = dcgmMemoryIndex ∧ i.val = 0 then { TestResult.zero with info := "ok".toList }
          else if j.val = dcgmMemoryIndex ∧ i.val = 1 then
            { TestResult.zero with
              status := .fail
              error := fun k => if k.val = 0 then { ErrorDetail.zero with msg := "bad page".toList } else .zero }
          else .zero } }

/-- Without the verbose flag, the info message of the GPU that passed is shown, because
the other GPU failed. -/
theorem passing_gpu_details_shown :
    (helperDisplayGpuResults ⟨0, 0, [], [], 0, 0⟩ "GPU Memory".toList dcgmMemoryIndex passedWithInfo.perGpuResponses
        [⟨0, by decide⟩, ⟨1, by decide⟩]).filterMap Printed.row? =
      [(helperGetPluginName ⟨0, 0, [], [], 0, 0⟩ dcgmMemoryIndex, "Pass - GPU: 0   ".toList),
        ([], "Fail - GPU: 1   ".toList), ("Warning".toList, "bad page".toList), ("Info".toList, "ok".toList)] := by
  decide

end DcgmiDiag
