import DcgmiDiag.Structs
import Mathlib.Data.Fintype.Basic

/-!
# Classifying a response: `Diag::GetFailureResult`

The classification scans every level-one result below the reported count, then every
cell of every GPU slot, all 32 of them, since the engine writes results at GPU
indexes. A failing cell has each of its error slots looked up in the external
priority table: the first isolate-tier code returns at once, any other slot records
a generic diagnostic error and the scan goes on.

The early `return` is the error of an `Except` fold. Every step of the scan, from one
error slot up to the whole GPU matrix, has the same shape, `Escalates`: it either
stops with the isolate code or passes on the generic error or the value it was
given. One lemma computes a fold of such steps, and it applies at every level of the
nested loops, so the classification does not depend on scan order.
-/

namespace DcgmiDiag

section Classification

variable (lib : Library)

/-- One error slot of a failing cell: the isolate tier returns at once, any other
priority records `DCGM_ST_NVVS_ERROR`. -/
def checkError (_ret : DcgmReturn) (detail : ErrorDetail) : Except DcgmReturn DcgmReturn :=
  if lib.dcgmErrorGetPriorityByCode detail.code = .isolate then .error dcgmStNvvsIsolateError
  else .ok dcgmStNvvsError

/-- One result cell: only a `DCGM_DIAG_RESULT_FAIL` status scans its error slots. -/
def checkResult (ret : DcgmReturn) (result : TestResult) : Except DcgmReturn DcgmReturn :=
  if result.status = .fail then
    (List.finRange dcgmMaxErrors).foldlM (fun ret j => checkError lib ret (result.error j)) ret
  else .ok ret

/-- One GPU slot: the cells `0 .. DCGM_PER_GPU_TEST_COUNT_V8 - 1` in order. -/
def checkGpu (ret : DcgmReturn) (slot : PerGpuResponse) : Except DcgmReturn DcgmReturn :=
  (List.finRange dcgmPerGpuTestCountV8).foldlM (fun ret j => checkResult lib ret (slot.results j)) ret

/-- `Diag::GetFailureResult`: the level-one loop, then the loop over every device. -/
def getFailureResult (diagResult : DiagResponse) : DcgmReturn :=
  let scan : Except DcgmReturn DcgmReturn := do
    let ret ← (List.range diagResult.levelOneTestCount).foldlM
      (fun ret i => checkResult lib ret (diagResult.levelOne i)) dcgmStOk
    (List.finRange dcgmMaxNumDevices).foldlM
      (fun ret i => checkGpu lib ret (diagResult.perGpuResponses i)) ret
  match scan with
  | .ok ret => ret
  | .error early => early

/-- A cell that fails with an error slot of isolate priority. -/
def Isolates (cell : TestResult) : Prop :=
  cell.status = .fail ∧ ∃ k, lib.dcgmErrorGetPriorityByCode (cell.error k).code = .isolate

instance (cell : TestResult) : Decidable (Isolates lib cell) :=
  inferInstanceAs (Decidable (_ ∧ _))

/-- `Isolates` as the scan decides it. -/
def isolatesCell (cell : TestResult) : Bool :=
  cell.status == .fail &&
    (List.finRange dcgmMaxErrors).any (fun k => lib.dcgmErrorGetPriorityByCode (cell.error k).code == .isolate)

theorem isolatesCell_iff (cell : TestResult) : isolatesCell lib cell = true ↔ Isolates lib cell := by
  simp [isolatesCell, Isolates]

end Classification

/-- Some cell the classification is about satisfies `P`: a level-one result below the
reported count, or any result of any GPU slot. -/
def SomeCell (diagResult : DiagResponse) (P : TestResult → Prop) : Prop :=
  (∃ i : Fin dcgmSwtestCount, i.val < diagResult.levelOneTestCount ∧ P (diagResult.levelOneResults i)) ∨
    ∃ i j, P ((diagResult.perGpuResponses i).results j)

instance (diagResult : DiagResponse) (P : TestResult → Prop) [DecidablePred P] :
    Decidable (SomeCell diagResult P) :=
  inferInstanceAs (Decidable (_ ∨ _))

/-! ## Folds of escalating steps -/

/-- A scan step that stops with the isolate code when `isolates` holds, and otherwise
passes on the generic error when `fails` holds and its input when it does not. -/
def Escalates {α : Type} (step : DcgmReturn → α → Except DcgmReturn DcgmReturn)
    (isolates fails : α → Bool) : Prop :=
  ∀ ret x, step ret x =
    if isolates x then .error dcgmStNvvsIsolateError
    else .ok (if fails x then dcgmStNvvsError else ret)

/-- A fold of escalating steps stops exactly when some element isolates, and otherwise
records the generic error exactly when some element fails. -/
theorem foldlM_escalates {α : Type} {step : DcgmReturn → α → Except DcgmReturn DcgmReturn}
    {isolates fails : α → Bool} (escalates : Escalates step isolates fails)
    (xs : List α) (ret : DcgmReturn) :
    xs.foldlM step ret =
      if xs.any isolates then .error dcgmStNvvsIsolateError
      else .ok (if xs.any fails then dcgmStNvvsError else ret) := by
  induction xs generalizing ret with
  | nil => rfl
  | cons x rest inductionHypothesis =>
    rw [List.foldlM_cons, escalates]
    by_cases stops : isolates x
    · simp [stops]; rfl
    · by_cases failing : fails x <;> by_cases later : rest.any fails <;>
        simp [stops, failing, later, inductionHypothesis] <;> rfl

/-- Feeding a step the image of an index keeps it escalating. -/
theorem Escalates.comp {α β : Type} {step : DcgmReturn → α → Except DcgmReturn DcgmReturn}
    {isolates fails : α → Bool} (escalates : Escalates step isolates fails) (f : β → α) :
    Escalates (fun ret y => step ret (f y)) (fun y => isolates (f y)) (fun y => fails (f y)) :=
  fun ret y => escalates ret (f y)

section Classification

variable (lib : Library)

theorem checkError_escalates :
    Escalates (checkError lib)
      (fun detail => lib.dcgmErrorGetPriorityByCode detail.code == .isolate) (fun _ => true) := by
  intro ret detail
  by_cases isolate : lib.dcgmErrorGetPriorityByCode detail.code = .isolate <;>
    simp [checkError, isolate]

/-- A cell escalates on its own status: an error slot is scanned, and the generic
error recorded, only when the cell fails. -/
theorem checkResult_escalates :
    Escalates (checkResult lib) (isolatesCell lib) (fun cell => cell.status == .fail) := by
  intro ret cell
  unfold checkResult
  by_cases failing : cell.status = .fail
  · rw [if_pos failing, foldlM_escalates ((checkError_escalates lib).comp cell.error)]
    have slots : (List.finRange dcgmMaxErrors).any (fun _ => true) = true := by decide
    simp [isolatesCell, failing, slots]
  · simp [isolatesCell, failing]

theorem checkGpu_escalates :
    Escalates (checkGpu lib)
      (fun slot => (List.finRange dcgmPerGpuTestCountV8).any fun j => isolatesCell lib (slot.results j))
      (fun slot => (List.finRange dcgmPerGpuTestCountV8).any fun j => (slot.results j).status == .fail) :=
  fun ret slot => foldlM_escalates ((checkResult_escalates lib).comp slot.results) _ ret

/-- Below the reported count, the level-one loop reads exactly the level-one array. -/
theorem any_levelOne (diagResult : DiagResponse) (P : TestResult → Bool)
    (inRange : diagResult.levelOneTestCount ≤ dcgmSwtestCount) :
    (List.range diagResult.levelOneTestCount).any (fun i => P (diagResult.levelOne i)) = true ↔
      ∃ i : Fin dcgmSwtestCount, i.val < diagResult.levelOneTestCount ∧
        P (diagResult.levelOneResults i) = true := by
  simp only [List.any_eq_true, List.mem_range]
  constructor
  · rintro ⟨i, below, holds⟩
    exact ⟨⟨i, by omega⟩, below, by rwa [levelOne_of_lt _ _ (by omega)] at holds⟩
  · rintro ⟨i, below, holds⟩
    exact ⟨i, below, by rwa [levelOne_of_lt _ _ i.isLt]⟩

/-- Whether the two loops of the scan meet a cell satisfying `P`: a level-one result
below the count, or a result of a GPU slot. -/
def scanFinds (diagResult : DiagResponse) (P : TestResult → Bool) : Bool :=
  (List.range diagResult.levelOneTestCount).any (fun i => P (diagResult.levelOne i)) ||
    (List.finRange dcgmMaxNumDevices).any fun i => (List.finRange dcgmPerGpuTestCountV8).any
      fun j => P ((diagResult.perGpuResponses i).results j)

/-- The scan meets exactly the cells `SomeCell` names. -/
theorem scanFinds_iff (diagResult : DiagResponse) (P : TestResult → Bool)
    (inRange : diagResult.levelOneTestCount ≤ dcgmSwtestCount) :
    scanFinds diagResult P = true ↔ SomeCell diagResult (P · = true) := by
  simp only [scanFinds, Bool.or_eq_true, any_levelOne _ _ inRange, SomeCell, List.any_eq_true,
    List.mem_finRange, true_and]

/-- `Diag::GetFailureResult` as its two loops compute it: the isolate code as soon as a
failing cell has an isolate-tier slot, the generic error when some cell fails, and
success otherwise. -/
theorem getFailureResult_scans (diagResult : DiagResponse) :
    getFailureResult lib diagResult =
      if scanFinds diagResult (isolatesCell lib) then dcgmStNvvsIsolateError
      else if scanFinds diagResult (·.status == .fail) then dcgmStNvvsError else dcgmStOk := by
  unfold getFailureResult scanFinds
  rw [foldlM_escalates ((checkResult_escalates lib).comp diagResult.levelOne)]
  by_cases early : (List.range diagResult.levelOneTestCount).any
      (fun i => isolatesCell lib (diagResult.levelOne i)) = true
  · simp only [early, if_true, Bool.true_or]
    rfl
  · simp only [early, Bool.false_eq_true, if_false, Bool.false_or]
    dsimp only [bind, Except.bind]
    rw [foldlM_escalates ((checkGpu_escalates lib).comp diagResult.perGpuResponses)]
    generalize (List.range diagResult.levelOneTestCount).any (fun i => (diagResult.levelOne i).status == .fail) =
      levelOneFails
    by_cases late : ((List.finRange dcgmMaxNumDevices).any fun i => (List.finRange dcgmPerGpuTestCountV8).any
        fun j => isolatesCell lib ((diagResult.perGpuResponses i).results j)) = true
    · simp only [late, if_true]
    · simp only [late, Bool.false_eq_true, if_false]
      cases levelOneFails <;> simp

/-- An isolating cell is a failing one, so the scan that looks for failures meets it. -/
theorem scanFinds_fails_of_isolates (diagResult : DiagResponse)
    (isolating : scanFinds diagResult (isolatesCell lib) = true) :
    scanFinds diagResult (·.status == .fail) = true := by
  have failing : ∀ cell, isolatesCell lib cell = true → (cell.status == .fail) = true := fun cell found => by
    simp only [isolatesCell, Bool.and_eq_true] at found
    exact found.1
  simp only [scanFinds, Bool.or_eq_true, List.any_eq_true] at isolating ⊢
  rcases isolating with ⟨i, below, found⟩ | ⟨i, slot, j, cell, found⟩
  · exact .inl ⟨i, below, failing _ found⟩
  · exact .inr ⟨i, slot, j, cell, failing _ found⟩

/-- The classification is not success exactly when the scan meets a failing cell. -/
theorem getFailureResult_ne_ok (diagResult : DiagResponse) :
    getFailureResult lib diagResult ≠ dcgmStOk ↔ scanFinds diagResult (·.status == .fail) = true := by
  rw [getFailureResult_scans]
  by_cases isolating : scanFinds diagResult (isolatesCell lib) = true
  · simp [isolating, scanFinds_fails_of_isolates lib diagResult isolating, dcgmStNvvsIsolateError, dcgmStOk]
  · by_cases failing : scanFinds diagResult (·.status == .fail) = true <;>
      simp [isolating, failing, dcgmStNvvsError, dcgmStOk]

/-- `Diag::GetFailureResult` is `DCGM_ST_NVVS_ISOLATE_ERROR` when some failing cell has
an error slot of isolate priority, otherwise `DCGM_ST_NVVS_ERROR` when some cell fails,
otherwise `DCGM_ST_OK`; the cells are the level-one results below the reported count
and every result of every GPU slot, so the answer does not depend on where a cell sits
in the scan. -/
theorem getFailureResult_spec (diagResult : DiagResponse)
    (inRange : diagResult.levelOneTestCount ≤ dcgmSwtestCount) :
    getFailureResult lib diagResult =
      if SomeCell diagResult (Isolates lib) then dcgmStNvvsIsolateError
      else if SomeCell diagResult (·.status = .fail) then dcgmStNvvsError else dcgmStOk := by
  simp only [getFailureResult_scans, scanFinds_iff _ _ inRange, isolatesCell_iff, beq_iff_eq]

end Classification

/-- A response whose second level-one test failed with the error code 7 and whose GPU 3
failed the Diagnostic test with the code 95. -/
def failingCells : DiagResponse :=
  { DiagResponse.zero with
    levelOneTestCount := 2
    levelOneResults := fun i =>
      if i.val = 1 then
        { TestResult.zero with
          status := .fail
          error := fun k => if k.val = 0 then { ErrorDetail.zero with code := 7 } else .zero }
      else .zero
    perGpuResponses := fun i =>
      if i.val = 3 then
        { PerGpuResponse.zero with
          gpuId := 3
          results := fun j =>
            if j.val = dcgmDiagnosticIndex then
              { TestResult.zero with
                status := .fail
                error := fun k => if k.val = 0 then { ErrorDetail.zero with code := 95 } else .zero }
            else .zero }
      else .zero
    levelOneInRange := by decide }

/-- The law at `failingCells` with a priority table that isolates the code 95 alone: the
GPU cell, scanned after the level-one one, decides. -/
theorem getFailureResult_spec_isolating :
    failingCells.levelOneTestCount ≤ dcgmSwtestCount ∧
      getFailureResult ⟨fun code => if code = 95 then .isolate else .monitor, fun _ => [], []⟩ failingCells =
        if SomeCell failingCells (Isolates ⟨fun code => if code = 95 then .isolate else .monitor, fun _ => [], []⟩)
        then dcgmStNvvsIsolateError
        else if SomeCell failingCells (·.status = .fail) then dcgmStNvvsError else dcgmStOk :=
  ⟨by decide, getFailureResult_spec _ _ (by decide)⟩

/-! ## Where a GPU's results sit -/

/-- A permutation of the indices finds a property exactly when the indices do. -/
theorem any_finRange_perm {n : Nat} (σ : Equiv.Perm (Fin n)) (p : Fin n → Bool) :
    (List.finRange n).any (fun i => p (σ i)) = (List.finRange n).any p := by
  rw [Bool.eq_iff_iff]
  simp only [List.any_eq_true, List.mem_finRange, true_and]
  exact ⟨fun ⟨i, found⟩ => ⟨σ i, found⟩, fun ⟨i, found⟩ => ⟨σ.symm i, by simpa using found⟩⟩

/-- `Diag::GetFailureResult` does not depend on which slot of the per-GPU array holds which
GPU's results: permuting the slots, for any response and any priority table, leaves the
classification unchanged, early return included. -/
theorem getFailureResult_perm_slots (lib : Library) (diagResult : DiagResponse)
    (σ : Equiv.Perm (Fin dcgmMaxNumDevices)) :
    getFailureResult lib { diagResult with perGpuResponses := fun i => diagResult.perGpuResponses (σ i) } =
      getFailureResult lib diagResult := by
  have gpuScan : ∀ ret, (List.finRange dcgmMaxNumDevices).foldlM
      (fun ret i => checkGpu lib ret (diagResult.perGpuResponses (σ i))) ret =
        (List.finRange dcgmMaxNumDevices).foldlM (fun ret i => checkGpu lib ret (diagResult.perGpuResponses i)) ret :=
    fun ret => by
      rw [foldlM_escalates ((checkGpu_escalates lib).comp fun i => diagResult.perGpuResponses (σ i)),
        foldlM_escalates ((checkGpu_escalates lib).comp diagResult.perGpuResponses),
        any_finRange_perm σ fun y => (List.finRange dcgmPerGpuTestCountV8).any
          fun j => isolatesCell lib ((diagResult.perGpuResponses y).results j),
        any_finRange_perm σ fun y => (List.finRange dcgmPerGpuTestCountV8).any
          fun j => ((diagResult.perGpuResponses y).results j).status == .fail]
  unfold getFailureResult
  simp only [gpuScan]
  rfl

end DcgmiDiag
