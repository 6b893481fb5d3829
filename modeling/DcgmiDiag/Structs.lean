import Mathlib.Data.List.FinRange

/-!
# The diagnostic response record and the run request

The record `dcgmDiagResponse_t` that the host engine fills is a fixed-capacity C
struct: a level-one array indexed by the software-test enumeration, a per-GPU array
indexed by GPU id, and in each cell a status and a fixed number of error slots. The
capacities are the types of the arrays here, so a cell outside them cannot be named.
The two counts the engine reports, `levelOneTestCount` and `gpuCount`, bound the loops
that read the level-one array and the device ids; a count past its array would make
those loops read outside the record, which the source leaves undefined. The engine
fills the counts within the arrays, and the record carries that as two fields, so a
response with a count past its array cannot be built.

C strings are lists of characters up to the terminating NUL, so `msg[0] != '\0'`
is a non-empty list. The header `dcgm_structs.h` that declares these types is not in
this tree; the capacities and enumerations below carry its published values, and
the external lookups of this file (error priority, error text, build version) are
parameters collected in `Library`.
-/

namespace DcgmiDiag

/-- `DCGM_MAX_NUM_DEVICES`: capacity of the per-GPU arrays, and the sentinel id. -/
def dcgmMaxNumDevices : Nat := 32

/-- `DCGM_PER_GPU_TEST_COUNT_V8`: result cells per GPU in the v10 response. -/
def dcgmPerGpuTestCountV8 : Nat := 13

/-- `DCGM_MAX_ERRORS`: error slots per result cell. -/
def dcgmMaxErrors : Nat := 5

/-- `DCGM_SWTEST_COUNT`: capacity of the level-one array. -/
def dcgmSwtestCount : Nat := 10

/-- `DCGM_SWTEST_CUDA_RUNTIME_LIBRARY`, the level-one test the JSON report drops. -/
def dcgmSwtestCudaRuntimeLibrary : Nat := 3

/-- `DCGM_MEMORY_INDEX`. -/
def dcgmMemoryIndex : Nat := 0
/-- `DCGM_DIAGNOSTIC_INDEX`. -/
def dcgmDiagnosticIndex : Nat := 1
/-- `DCGM_PCI_INDEX`. -/
def dcgmPciIndex : Nat := 2
/-- `DCGM_SM_STRESS_INDEX`. -/
def dcgmSmStressIndex : Nat := 3
/-- `DCGM_TARGETED_STRESS_INDEX`. -/
def dcgmTargetedStressIndex : Nat := 4
/-- `DCGM_TARGETED_POWER_INDEX`. -/
def dcgmTargetedPowerIndex : Nat := 5
/-- `DCGM_MEMORY_BANDWIDTH_INDEX`. -/
def dcgmMemoryBandwidthIndex : Nat := 6
/-- `DCGM_MEMTEST_INDEX`. -/
def dcgmMemtestIndex : Nat := 7
/-- `DCGM_PULSE_TEST_INDEX`. -/
def dcgmPulseTestIndex : Nat := 8
/-- `DCGM_EUD_TEST_INDEX`. -/
def dcgmEudTestIndex : Nat := 9
/-- `DCGM_CONTEXT_CREATE_INDEX`, outside the per-GPU array; its result is stored in
cell 0. -/
def dcgmContextCreateIndex : Nat := 15

/-- `dcgmDiagResult_t`. Its zero bit pattern is `DCGM_DIAG_RESULT_PASS`, which is what a
zero-filled record holds in every status field. -/
inductive DiagResult where
  | pass
  | skip
  | warn
  | fail
  | notRun
  deriving DecidableEq, Repr

/-- `dcgmErrorPriority_t`; only the isolate tier is tested by this file. -/
inductive ErrorPriority where
  | monitor
  | isolate
  | unknown
  | triage
  | config
  | reset
  deriving DecidableEq, Repr

/-- `dcgmReturn_t` is a C enum of int codes, and the engine may return any of them. -/
abbrev DcgmReturn := Int

/-- `DCGM_ST_OK`. -/
def dcgmStOk : DcgmReturn := 0
/-- `DCGM_ST_NOT_SUPPORTED`. -/
def dcgmStNotSupported : DcgmReturn := -6
/-- `DCGM_ST_TIMEOUT`. -/
def dcgmStTimeout : DcgmReturn := -11
/-- `DCGM_ST_GROUP_INCOMPATIBLE`. -/
def dcgmStGroupIncompatible : DcgmReturn := -23
/-- `DCGM_ST_NVVS_ERROR`. -/
def dcgmStNvvsError : DcgmReturn := -30
/-- `DCGM_ST_NVVS_ISOLATE_ERROR`. -/
def dcgmStNvvsIsolateError : DcgmReturn := -51
/-- `DCGM_ST_NVVS_KILLED`. -/
def dcgmStNvvsKilled : DcgmReturn := -53
/-- `DCGM_ST_PAUSED`. -/
def dcgmStPaused : DcgmReturn := -54

/-- The collaborators this file calls but does not define: the error-code to priority
table, the text of a return code, and the build version string. -/
structure Library where
  dcgmErrorGetPriorityByCode : Nat → ErrorPriority
  errorString : DcgmReturn → List Char
  buildVersion : List Char

/-- `dcgmDiagErrorDetail_v2`: one error slot of a result cell. -/
structure ErrorDetail where
  msg : List Char
  gpuId : Int
  code : Nat
  category : Nat
  severity : Nat

/-- The zero-filled error slot. -/
def ErrorDetail.zero : ErrorDetail := ⟨[], 0, 0, 0, 0⟩

/-- `dcgmDiagTestResult_v3`: status, error slots and an info string of one cell. -/
structure TestResult where
  status : DiagResult
  error : Fin dcgmMaxErrors → ErrorDetail
  info : List Char

/-- The zero-filled cell: status pass, empty slots, empty info. -/
def TestResult.zero : TestResult := ⟨.pass, fun _ => .zero, []⟩

/-- `dcgmDiagResponsePerGpu_v5`: one GPU slot of the response. -/
structure PerGpuResponse where
  gpuId : Nat
  hwDiagnosticReturn : Nat
  results : Fin dcgmPerGpuTestCountV8 → TestResult

/-- The zero-filled GPU slot. -/
def PerGpuResponse.zero : PerGpuResponse := ⟨0, 0, fun _ => .zero⟩

/-- `dcgmDiagResponse_t` (version 10), with the fields this file reads, and the bounds
the engine keeps its two counts within. -/
structure DiagResponse where
  gpuCount : Nat
  levelOneTestCount : Nat
  levelOneResults : Fin dcgmSwtestCount → TestResult
  perGpuResponses : Fin dcgmMaxNumDevices → PerGpuResponse
  systemError : ErrorDetail
  devIds : Fin dcgmMaxNumDevices → List Char
  devSerials : Fin dcgmMaxNumDevices → List Char
  dcgmVersion : List Char
  driverVersion : List Char
  gpuCountInRange : gpuCount ≤ dcgmMaxNumDevices
  levelOneInRange : levelOneTestCount ≤ dcgmSwtestCount

/-- The record after `memset(&diagResult, 0, sizeof(diagResult))`. -/
def DiagResponse.zero : DiagResponse where
  gpuCount := 0
  levelOneTestCount := 0
  levelOneResults := fun _ => .zero
  perGpuResponses := fun _ => .zero
  systemError := .zero
  devIds := fun _ => []
  devSerials := fun _ => []
  dcgmVersion := []
  driverVersion := []
  gpuCountInRange := by decide
  levelOneInRange := by decide

/-- `levelOneResults[i]`. The loops read it below `levelOneTestCount`, which the record
keeps inside the array; no loop reaches the zero cell past it. -/
def DiagResponse.levelOne (diagResult : DiagResponse) (i : Nat) : TestResult :=
  if inside : i < dcgmSwtestCount then diagResult.levelOneResults ⟨i, inside⟩ else .zero

/-- `devIds[i]`, read below `gpuCount`, with the same convention past the array. -/
def DiagResponse.devId (diagResult : DiagResponse) (i : Nat) : List Char :=
  if inside : i < dcgmMaxNumDevices then diagResult.devIds ⟨i, inside⟩ else []

/-- `results[testIndex]` of one GPU slot; the per-GPU indices of this file are all
inside the array except `DCGM_CONTEXT_CREATE_INDEX`, which the renderers redirect. -/
def PerGpuResponse.result (slot : PerGpuResponse) (testIndex : Nat) : TestResult :=
  if inside : testIndex < dcgmPerGpuTestCountV8 then slot.results ⟨testIndex, inside⟩ else .zero

/-- `DCGM_RUN_FLAGS_VERBOSE`, the `-v` bit of the request's flags. -/
def dcgmRunFlagsVerbose : Nat := 0x0001

/-- `dcgmRunDiag_t`, with the fields the modelled functions read or write. The
`version` the `StartDiag` constructor stamps is read by none of them and is left
out. -/
structure RunDiag where
  groupId : Nat
  flags : Nat
  gpuList : List Char
  testNames : List (List Char)
  totalIterations : Nat
  currentIteration : Nat

@[simp] theorem levelOne_of_lt (diagResult : DiagResponse) (i : Nat) (inside : i < dcgmSwtestCount) :
    diagResult.levelOne i = diagResult.levelOneResults ⟨i, inside⟩ := by
  simp [DiagResponse.levelOne, inside]

@[simp] theorem result_of_fin (slot : PerGpuResponse) (testIndex : Fin dcgmPerGpuTestCountV8) :
    slot.result testIndex = slot.results testIndex := by
  simp [PerGpuResponse.result]

end DcgmiDiag
