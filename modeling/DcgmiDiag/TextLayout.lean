import Mathlib.Algebra.Group.Nat.Basic
import Mathlib.Data.Nat.Digits
import DcgmiDiag.Details
import DcgmiDiag.GpuList

/-!
# The layout of the text report

`DisplayVerboseInfo` cuts a message into cells of `DATA_INFO_TAG_LEN` characters, one
row each, with the label on the first row only. The first part of this file states
that cut once, as `infoCells`, and proves that the source's stride loop computes it:
`ceil(|s| / 45)` rows, every cell full but the last, and the cells concatenating back
to the message.

The second part reads the `DATA_INFO` cells of the report's sections. The deployment
section and the details of a per-GPU test print their long texts only through
`DisplayVerboseInfo`, so their cells fit the column. `HelperDisplayGpuResults` prints
its bucket lines whole, and `HelperDisplayVersionAndDevIds` its versions and its
device-id list, however long they are.

The third part follows one message to the screen: a per-GPU message is shown as the
rows of its sanitized text, a level-one message as the rows of the message itself.

The last part reads a bucket line back: its bucket and its ids are determined by the
text, however many ids it lists.
-/

namespace DcgmiDiag

/-! ## Wrapping a message -/

/-- The cells a message is cut into: `DATA_INFO_TAG_LEN` characters each, the last one
shorter. -/
def infoCells : List Char → List (List Char)
  | [] => []
  | c :: rest => (c :: rest).take dataInfoTagLen :: infoCells ((c :: rest).drop dataInfoTagLen)
termination_by info => info.length
decreasing_by simp only [List.length_drop, List.length_cons, dataInfoTagLen]; omega

theorem infoCells_eq_nil (info : List Char) : infoCells info = [] ↔ info = [] := by
  cases info <;> simp [infoCells]

/-- The cells concatenate back to the message. -/
theorem infoCells_flatten (info : List Char) : (infoCells info).flatten = info := by
  induction info using infoCells.induct with
  | case1 => simp [infoCells]
  | case2 c rest later => rw [infoCells, List.flatten_cons, later, List.take_append_drop]

/-- A message of `n` characters takes `ceil(n / DATA_INFO_TAG_LEN)` cells. -/
theorem infoCells_length (info : List Char) :
    (infoCells info).length = (info.length + dataInfoTagLen - 1) / dataInfoTagLen := by
  induction info using infoCells.induct with
  | case1 => simp [infoCells, dataInfoTagLen]
  | case2 c rest later =>
    rw [infoCells, List.length_cons, later]
    simp only [List.length_drop, List.length_cons, dataInfoTagLen]
    omega

theorem length_le_of_mem_infoCells (info cell : List Char) (inCells : cell ∈ infoCells info) :
    cell.length ≤ dataInfoTagLen := by
  induction info using infoCells.induct with
  | case1 => simp [infoCells] at inCells
  | case2 c rest later =>
    rw [infoCells, List.mem_cons] at inCells
    rcases inCells with rfl | inLater
    · simp
    · exact later inLater

/-- Every cell before the last is full. -/
theorem infoCells_dropLast (info : List Char) :
    ∀ cell ∈ (infoCells info).dropLast, cell.length = dataInfoTagLen := by
  induction info using infoCells.induct with
  | case1 => simp [infoCells]
  | case2 c rest later =>
    rw [infoCells]
    intro cell inCells
    by_cases lastCell : infoCells ((c :: rest).drop dataInfoTagLen) = []
    · simp [lastCell] at inCells
    · rw [List.dropLast_cons_of_ne_nil lastCell, List.mem_cons] at inCells
      rcases inCells with rfl | inLater
      · have longer : ¬(c :: rest).length ≤ dataInfoTagLen := by
          rwa [← List.drop_eq_nil_iff, ← infoCells_eq_nil]
        simp only [List.length_take]
        omega
      · exact later cell inLater

/-- The last cell holds between one and `DATA_INFO_TAG_LEN` characters. -/
theorem infoCells_getLast (info : List Char) :
    ∀ cell ∈ (infoCells info).getLast?, 0 < cell.length ∧ cell.length ≤ dataInfoTagLen := by
  induction info using infoCells.induct with
  | case1 => simp [infoCells]
  | case2 c rest later =>
    rw [infoCells]
    intro cell isLast
    by_cases lastCell : infoCells ((c :: rest).drop dataInfoTagLen) = []
    · simp only [lastCell, List.getLast?_singleton, Option.mem_def, Option.some.injEq] at isLast
      subst isLast
      simp [dataInfoTagLen]
    · rw [List.getLast?_cons, List.getLast?_eq_getLast _ lastCell] at isLast
      apply later cell
      rw [List.getLast?_eq_getLast _ lastCell]
      simpa using isLast

theorem rows_unlabelled (cells : List (List Char)) :
    (cells.head?.map (Printed.row [])).toList ++ cells.tail.map (Printed.row []) =
      cells.map (Printed.row []) := by
  cases cells <;> rfl

theorem infoCells_drop (info : List Char) (pos : Nat) (inside : pos < info.length) :
    infoCells (info.drop pos) =
      (info.drop pos).take dataInfoTagLen :: infoCells (info.drop (pos + dataInfoTagLen)) := by
  rw [List.drop_eq_getElem_cons inside, infoCells, ← List.drop_eq_getElem_cons inside, List.drop_drop]

/-- From position `pos`, with fuel for the characters left, the stride loop prints the
cells of the rest of the message, labelled only when it starts at the front. -/
theorem displayVerboseInfoLoop_eq (name info : List Char) (fuel pos : Nat)
    (enough : info.length - pos ≤ fuel) :
    displayVerboseInfoLoop name info fuel pos =
      ((infoCells (info.drop pos)).head?.map (.row (if pos = 0 then name else []))).toList ++
        (infoCells (info.drop pos)).tail.map (.row []) := by
  induction fuel generalizing pos with
  | zero => simp [displayVerboseInfoLoop, List.drop_eq_nil_of_le (by omega : info.length ≤ pos), infoCells]
  | succ fuel later =>
    by_cases inside : pos < info.length
    · have positive : 0 < dataInfoTagLen := by decide
      rw [displayVerboseInfoLoop, if_pos inside, later (pos + dataInfoTagLen) (by omega),
        infoCells_drop info pos inside, if_neg (show pos + dataInfoTagLen ≠ 0 by omega), rows_unlabelled]
      rfl
    · simp [displayVerboseInfoLoop, inside, List.drop_eq_nil_of_le (not_lt.mp inside), infoCells]

theorem displayVerboseInfo_eq (name info : List Char) :
    displayVerboseInfo name info =
      ((infoCells info).head?.map (.row name)).toList ++ (infoCells info).tail.map (.row []) := by
  simpa using displayVerboseInfoLoop_eq name info info.length 0 (by omega)

/-- `Diag::DisplayVerboseInfo` prints `ceil(|info| / 45)` rows, none for an empty message:
the first labelled `name`, the others unlabelled, every value but the last exactly
`DATA_INFO_TAG_LEN` characters and the last between one and `DATA_INFO_TAG_LEN`, and the
values concatenating, in order, to the message. -/
theorem displayVerboseInfo_wraps (name info : List Char) :
    ∃ values : List (List Char),
      displayVerboseInfo name info =
        (values.head?.map (Printed.row name)).toList ++ values.tail.map (Printed.row []) ∧
      values.length = (info.length + dataInfoTagLen - 1) / dataInfoTagLen ∧
      (∀ value ∈ values.dropLast, value.length = dataInfoTagLen) ∧
      (∀ value ∈ values.getLast?, 0 < value.length ∧ value.length ≤ dataInfoTagLen) ∧
      values.flatten = info :=
  ⟨infoCells info, displayVerboseInfo_eq name info, infoCells_length info, infoCells_dropLast info,
    infoCells_getLast info, infoCells_flatten info⟩

example : (displayVerboseInfo "Info".toList (List.replicate 50 'x')).filterMap Printed.row? =
    [("Info".toList, List.replicate 45 'x'), ([], List.replicate 5 'x')] := by
  decide

/-! ## The width of the `DATA_INFO` cells -/

/-- The `DATA_INFO` values of printed rows, in order. -/
def rowCells (printed : List Printed) : List (List Char) :=
  printed.filterMap fun item => item.row?.map Prod.snd

@[simp] theorem rowCells_nil : rowCells [] = [] := rfl

@[simp] theorem rowCells_cons_row (name info : List Char) (rest : List Printed) :
    rowCells (.row name info :: rest) = info :: rowCells rest := rfl

@[simp] theorem rowCells_cons_text (line : List Char) (rest : List Printed) :
    rowCells (.text line :: rest) = rowCells rest := rfl

@[simp] theorem rowCells_append (first second : List Printed) :
    rowCells (first ++ second) = rowCells first ++ rowCells second :=
  List.filterMap_append _ _ _

theorem rowCells_displayVerboseInfo (name info : List Char) :
    rowCells (displayVerboseInfo name info) = infoCells info := by
  rw [displayVerboseInfo_eq]
  cases infoCells info <;> simp [rowCells, Printed.row?, List.filterMap_map, Function.comp_def]

/-- Every `DATA_INFO` value of the rows in `printed` fits the column. -/
def CellsFit (printed : List Printed) : Prop :=
  ∀ cell ∈ rowCells printed, cell.length ≤ dataInfoTagLen

theorem cellsFit_nil : CellsFit [] := by simp [CellsFit]

theorem cellsFit_append {first second : List Printed} (fitsFirst : CellsFit first)
    (fitsSecond : CellsFit second) : CellsFit (first ++ second) := by
  simp only [CellsFit, rowCells_append, List.mem_append] at *
  rintro cell (inFirst | inSecond)
  exacts [fitsFirst cell inFirst, fitsSecond cell inSecond]

theorem cellsFit_cons_row (name info : List Char) {rest : List Printed}
    (short : info.length ≤ dataInfoTagLen) (fitsRest : CellsFit rest) : CellsFit (.row name info :: rest) := by
  simpa only [CellsFit, rowCells_cons_row, List.forall_mem_cons] using ⟨short, fitsRest⟩

theorem cellsFit_ite (condition : Prop) [Decidable condition] {yes no : List Printed}
    (fitsYes : CellsFit yes) (fitsNo : CellsFit no) : CellsFit (if condition then yes else no) := by
  split <;> assumption

theorem cellsFit_flatMap {α : Type} (l : List α) (f : α → List Printed) (fits : ∀ a ∈ l, CellsFit (f a)) :
    CellsFit (l.flatMap f) := by
  intro cell inCells
  obtain ⟨item, inFlat, isCell⟩ := List.mem_filterMap.mp inCells
  obtain ⟨a, inL, inF⟩ := List.mem_flatMap.mp inFlat
  exact fits a inL cell (List.mem_filterMap.mpr ⟨item, inF, isCell⟩)

theorem cellsFit_displayVerboseInfo (name info : List Char) : CellsFit (displayVerboseInfo name info) := by
  intro cell inCells
  rw [rowCells_displayVerboseInfo] at inCells
  exact length_le_of_mem_infoCells info cell inCells

theorem cellsFit_helperDisplayDeploymentResult (nameTag : List Char) (result : TestResult) :
    CellsFit (helperDisplayDeploymentResult nameTag result) := by
  refine cellsFit_ite _ ?_ cellsFit_nil
  have status : (helperDisplayDiagResult result.status).length ≤ dataInfoTagLen := by
    cases result.status <;> decide
  refine cellsFit_append (cellsFit_cons_row _ _ status (cellsFit_flatMap _ _ fun i _ => ?_))
    (cellsFit_ite _ cellsFit_nil (cellsFit_displayVerboseInfo _ _))
  exact cellsFit_ite _ cellsFit_nil (cellsFit_displayVerboseInfo _ _)

theorem cellsFit_helperDisplayDeployment (diagResult : DiagResponse) :
    CellsFit (helperDisplayDeployment diagResult) := by
  simp only [helperDisplayDeployment, CellsFit, rowCells_cons_text]
  exact cellsFit_flatMap _ _ fun i _ => cellsFit_helperDisplayDeploymentResult _ _

theorem cellsFit_helperDisplayDetails (drd : RunDiag) (forceVerbose : Bool)
    (gpuIndices : List (Fin dcgmMaxNumDevices)) (testIndex : Nat)
    (diagResults : Fin dcgmMaxNumDevices → PerGpuResponse) :
    CellsFit (helperDisplayDetails drd forceVerbose gpuIndices testIndex diagResults) := by
  refine cellsFit_append (cellsFit_ite _ (cellsFit_flatMap _ _ fun _ _ => cellsFit_flatMap _ _ fun _ _ => ?_)
    cellsFit_nil) (cellsFit_ite _ (cellsFit_flatMap _ _ fun _ _ => ?_) cellsFit_nil)
  all_goals exact cellsFit_ite _ cellsFit_nil (cellsFit_displayVerboseInfo _ _)

/-- The hardware return code row fits the column for every 32-bit code. -/
theorem eudReturnCode_length (hwDiagnosticReturn : Nat) (code : hwDiagnosticReturn < 2 ^ 32) :
    (eudReturnCode hwDiagnosticReturn).length ≤ dataInfoTagLen := by
  have digits := Nat.repr_length hwDiagnosticReturn 10 (by decide) (by omega)
  have same : (Nat.repr hwDiagnosticReturn).toList.length = (Nat.repr hwDiagnosticReturn).length := rfl
  have literals : "  Code: (".toList.length + ")".toList.length = 10 := rfl
  simp only [eudReturnCode, List.length_append, List.length_replicate, same, dataInfoTagLen]
  omega

theorem rowCells_bucketRows (displayName : List Char) (buckets : Buckets) :
    ∀ cell ∈ rowCells (bucketRows displayName buckets).1, ∃ label gpuIds, cell = bucketLine label gpuIds := by
  simp only [bucketRows, rowCells, List.filterMap_map, Function.comp_def, Printed.row?, Option.map_some']
  intro cell inCells
  obtain ⟨entry, -, same⟩ := List.mem_filterMap.mp inCells
  exact ⟨_, _, (Option.some.inj same).symm⟩

/-- The summary rows are an `All` row or bucket lines. -/
theorem gpuSummaryRows_cells (displayName : List Char) (buckets : Buckets) (numGpus : Nat) :
    ∀ cell ∈ rowCells (gpuSummaryRows displayName buckets numGpus),
      cell.length ≤ dataInfoTagLen ∨ ∃ label gpuIds, cell = bucketLine label gpuIds := by
  have allRow : ∀ text : String, text.length ≤ dataInfoTagLen → ∀ cell ∈ rowCells [.row displayName text.toList],
      cell.length ≤ dataInfoTagLen ∨ ∃ label gpuIds, cell = bucketLine label gpuIds := by
    intro text short cell inCells
    simp only [rowCells_cons_row, rowCells_nil, List.mem_singleton] at inCells
    exact .inl (inCells ▸ short)
  unfold gpuSummaryRows
  split_ifs
  iterate 4 exact allRow _ (by decide)
  exact fun cell inRows => .inr (rowCells_bucketRows _ _ cell inRows)

/-- Every value `HelperDisplayGpuResults` prints fits the column but its bucket lines. -/
theorem gpuResults_cells (drd : RunDiag) (dataName : List Char) (testIndex : Nat)
    (diagResults : Fin dcgmMaxNumDevices → PerGpuResponse) (gpuIndices : List (Fin dcgmMaxNumDevices))
    (code : (diagResults ⟨0, by decide⟩).hwDiagnosticReturn < 2 ^ 32) :
    ∀ cell ∈ rowCells (helperDisplayGpuResults drd dataName testIndex diagResults gpuIndices),
      cell.length ≤ dataInfoTagLen ∨ ∃ label gpuIds, cell = bucketLine label gpuIds := by
  rw [helperDisplayGpuResults_eq]
  intro cell inCells
  simp only [rowCells_append, List.mem_append] at inCells
  rcases inCells with (inSummary | inDetails) | inCode
  · exact gpuSummaryRows_cells _ _ _ cell inSummary
  · exact .inl (cellsFit_helperDisplayDetails _ _ _ _ _ cell inDetails)
  · exact .inl (cellsFit_ite _ (cellsFit_cons_row _ _ (eudReturnCode_length _ code) cellsFit_nil) cellsFit_nil
      cell inCode)

/-- The deployment section and the details of a per-GPU test keep every `DATA_INFO` value
within `DATA_INFO_TAG_LEN` characters, a long message going on over further rows;
`HelperDisplayGpuResults` does too, but for its bucket lines, which it prints whole. -/
theorem text_cells_fit_except_bucket_lines (diagResult : DiagResponse) (drd : RunDiag)
    (dataName : List Char) (forceVerbose : Bool) (testIndex : Nat)
    (diagResults : Fin dcgmMaxNumDevices → PerGpuResponse) (gpuIndices : List (Fin dcgmMaxNumDevices))
    (code : (diagResults ⟨0, by decide⟩).hwDiagnosticReturn < 2 ^ 32) :
    CellsFit (helperDisplayDeployment diagResult) ∧
      CellsFit (helperDisplayDetails drd forceVerbose gpuIndices testIndex diagResults) ∧
      ∀ cell ∈ rowCells (helperDisplayGpuResults drd dataName testIndex diagResults gpuIndices),
        cell.length ≤ dataInfoTagLen ∨ ∃ label gpuIds, cell = bucketLine label gpuIds :=
  ⟨cellsFit_helperDisplayDeployment diagResult,
    cellsFit_helperDisplayDetails drd forceVerbose gpuIndices testIndex diagResults,
    gpuResults_cells drd dataName testIndex diagResults gpuIndices code⟩

/-- A sixteen-GPU machine whose device ids are all `1DB8`; the first GPU fails the
memory test and the others pass it. -/
def sixteenGpus : DiagResponse :=
  { DiagResponse.zero with
    gpuCount := 16
    gpuCountInRange := by decide
    devIds := fun i => if i.val < 16 then "1DB8".toList else []
    perGpuResponses := fun i =>
      { PerGpuResponse.zero with
        gpuId := i.val
        results := fun j =>
          if j.val = dcgmMemoryIndex ∧ i.val = 0 then { TestResult.zero with status := .fail } else .zero } }

/-- The first sixteen GPU slots. -/
def firstSixteenSlots : List (Fin dcgmMaxNumDevices) := (List.finRange 16).map (Fin.castLE (by decide))

/-- On sixteen GPUs the device-id list is a 79-character value and the memory test's
`Pass - GPUs: 1, 2, ..., 15   ` bucket line a 65-character one; neither is wrapped. -/
theorem unwrapped_cells_exceed :
    sixteenGpus.gpuCount ≤ dcgmMaxNumDevices ∧ firstSixteenSlots ≠ [] ∧
      (rowCells (helperDisplayVersionAndDevIds sixteenGpus ++
        helperDisplayGpuResults ⟨0, 0, [], [], 0, 0⟩ "GPU Memory".toList dcgmMemoryIndex
          sixteenGpus.perGpuResponses firstSixteenSlots)).map List.length = [0, 0, 79, 65, 16] := by
  decide

/-! ## The text a message is shown as -/

theorem infix_flatMap {α β : Type} {l : List α} {a : α} (f : α → List β) (member : a ∈ l) :
    f a <:+: l.flatMap f :=
  List.infix_of_mem_flatten (List.mem_map_of_mem f member)

/-- `printed` holds, as consecutive rows, the `DisplayVerboseInfo` block of a message
under `label`, and `text` is what the block's `DATA_INFO` values concatenate to. -/
def ShowsBlock (printed : List Printed) (label text : List Char) : Prop :=
  ∃ rows, rows <:+: printed ∧ rows = displayVerboseInfo label text ∧ (rowCells rows).flatten = text

theorem showsBlock_of_infix {printed : List Printed} {label text : List Char}
    (shown : displayVerboseInfo label text <:+: printed) : ShowsBlock printed label text := by
  refine ⟨_, shown, rfl, ?_⟩
  rw [rowCells_displayVerboseInfo, infoCells_flatten]

theorem sanitize_sanitized (toOutput : List Char) : sanitize toOutput = some (sanitized toOutput) := by
  simp [sanitized, sanitize_eq]

/-- The rows of a message that is not empty are printed. -/
theorem displayVerboseInfo_infix_ite (label msg text : List Char) (nonEmpty : msg ≠ []) :
    displayVerboseInfo label text <:+: if msg.isEmpty then [] else displayVerboseInfo label text := by
  simp [nonEmpty]

/-- When `HelperDisplayDetails` shows a per-GPU error (as a warning) or info message, the
values of its rows concatenate to the message's `Sanitize`; the deployment section shows
a level-one error or info message as rows that concatenate to the message itself. -/
theorem shown_messages_cells (diagResult : DiagResponse) (drd : RunDiag) (forceVerbose : Bool)
    (gpuIndices : List (Fin dcgmMaxNumDevices)) (testIndex : Nat)
    (diagResults : Fin dcgmMaxNumDevices → PerGpuResponse) :
    ((forceVerbose || drd.flags &&& dcgmRunFlagsVerbose != 0) = true →
      (∀ gpuIndex ∈ gpuIndices, ∀ j, (((diagResults gpuIndex).result testIndex).error j).msg ≠ [] →
        ∃ text, sanitize (((diagResults gpuIndex).result testIndex).error j).msg = some text ∧
          ShowsBlock (helperDisplayDetails drd forceVerbose gpuIndices testIndex diagResults)
            "Warning".toList text) ∧
      (∀ gpuIndex ∈ gpuIndices, ((diagResults gpuIndex).result testIndex).info ≠ [] →
        ∃ text, sanitize ((diagResults gpuIndex).result testIndex).info = some text ∧
          ShowsBlock (helperDisplayDetails drd forceVerbose gpuIndices testIndex diagResults)
            "Info".toList text)) ∧
    (∀ i < diagResult.levelOneTestCount, (diagResult.levelOne i).status ≠ .notRun →
      (∀ j, ((diagResult.levelOne i).error j).msg ≠ [] →
        ShowsBlock (helperDisplayDeployment diagResult) "Error".toList ((diagResult.levelOne i).error j).msg) ∧
      ((diagResult.levelOne i).info ≠ [] →
        ShowsBlock (helperDisplayDeployment diagResult) "Info".toList (diagResult.levelOne i).info)) := by
  refine ⟨fun verbose => ⟨fun gpuIndex listed j nonEmpty => ⟨_, sanitize_sanitized _, showsBlock_of_infix ?_⟩,
    fun gpuIndex listed nonEmpty => ⟨_, sanitize_sanitized _, showsBlock_of_infix ?_⟩⟩,
    fun i below ran => ⟨fun j nonEmpty => showsBlock_of_infix ?_, fun nonEmpty => showsBlock_of_infix ?_⟩⟩
  · simp only [helperDisplayDetails, verbose, if_true]
    refine .trans ?_ (List.prefix_append _ _).isInfix
    refine .trans ?_ (infix_flatMap _ listed)
    refine .trans ?_ (infix_flatMap _ (List.mem_finRange j))
    exact displayVerboseInfo_infix_ite _ _ _ nonEmpty
  · simp only [helperDisplayDetails, verbose, if_true]
    refine .trans ?_ (List.suffix_append _ _).isInfix
    refine .trans ?_ (infix_flatMap _ listed)
    exact displayVerboseInfo_infix_ite _ _ _ nonEmpty
  · refine List.infix_cons (.trans ?_ (infix_flatMap _ (List.mem_range.mpr below)))
    simp only [helperDisplayDeploymentResult, if_pos ran]
    refine .trans ?_ (List.prefix_append _ _).isInfix
    refine List.infix_cons (.trans ?_ (infix_flatMap _ (List.mem_finRange j)))
    exact displayVerboseInfo_infix_ite _ _ _ nonEmpty
  · refine List.infix_cons (.trans ?_ (infix_flatMap _ (List.mem_range.mpr below)))
    simp only [helperDisplayDeploymentResult, if_pos ran]
    exact (displayVerboseInfo_infix_ite _ _ _ nonEmpty).trans (List.suffix_append _ _).isInfix

/-- The first level-one test, and GPU 0 in the memory test, failed with the same engine
message, which carries a log preamble. -/
def preambleMessage : DiagResponse :=
  let failed : TestResult :=
    { TestResult.zero with
      status := .fail
      error := fun j => if j.val = 0 then { ErrorDetail.zero with msg := "log***check failed".toList } else .zero }
  { DiagResponse.zero with
    levelOneTestCount := 1
    levelOneInRange := by decide
    levelOneResults := fun i => if i.val = 0 then failed else .zero
    perGpuResponses := fun i =>
      if i.val = 0 then { PerGpuResponse.zero with results := fun j => if j.val = dcgmMemoryIndex then failed else .zero }
      else .zero }

/-- The deployment section shows the message `log***check failed` as it is, while the
details of the memory test show the same message as its `Sanitize`, `check failed`. -/
theorem deployment_message_unsanitized :
    (helperDisplayDeployment preambleMessage).filterMap Printed.row? =
        [(levelOneTestName 0, "Fail".toList), ("Error".toList, "log***check failed".toList)] ∧
      (helperDisplayGpuResults ⟨0, 0, [], [], 0, 0⟩ "GPU Memory".toList dcgmMemoryIndex
          preambleMessage.perGpuResponses [⟨0, by decide⟩]).filterMap Printed.row? =
        [(helperGetPluginName ⟨0, 0, [], [], 0, 0⟩ dcgmMemoryIndex, "Fail - All".toList),
          ("Warning".toList, "check failed".toList)] ∧
      sanitize "log***check failed".toList = some "check failed".toList := by
  decide

/-! ## Bucket lines read back -/

/-- The ids of a bucket line from entry `k` on: the first id, then the closing spaces
or a comma and the others. -/
theorem bucketLine_ids_cons (gpuId : Nat) (rest : List Nat) (k : Nat) :
    ((gpuId :: rest).enumFrom k).flatMap (fun entry => (Nat.repr entry.2).toList ++
        if entry.1 + 1 = k + (gpuId :: rest).length then "   ".toList else ", ".toList) =
      (Nat.repr gpuId).toList ++ if rest = [] then "   ".toList else ", ".toList ++
        (rest.enumFrom (k + 1)).flatMap (fun entry => (Nat.repr entry.2).toList ++
          if entry.1 + 1 = (k + 1) + rest.length then "   ".toList else ", ".toList) := by
  cases rest with
  | nil => simp
  | cons next rest =>
    simp only [List.enumFrom_cons, List.flatMap_cons, List.length_cons, List.append_assoc, reduceCtorEq, if_false]
    rw [if_neg (by omega)]
    simp only [show k + 1 + (rest.length + 1) = k + (rest.length + 1 + 1) by omega]

/-- A string of digits in front of text that does not start with a digit is cut off
there. -/
theorem digits_append_inj {digits digits' text text' : List Char} (allDigits : ∀ c ∈ digits, c.isDigit = true)
    (allDigits' : ∀ c ∈ digits', c.isDigit = true) (stops : text.takeWhile Char.isDigit = [])
    (stops' : text'.takeWhile Char.isDigit = []) (same : digits ++ text = digits' ++ text') :
    digits = digits' ∧ text = text' := by
  have leading := congrArg (List.takeWhile Char.isDigit) same
  rw [List.takeWhile_append_of_pos allDigits, List.takeWhile_append_of_pos allDigits', stops, stops',
    List.append_nil, List.append_nil] at leading
  subst leading
  exact ⟨rfl, List.append_cancel_left same⟩

/-- The decimal text of an index determines it. -/
theorem repr_inj {gpuId gpuId' : Nat} (same : (Nat.repr gpuId).toList = (Nat.repr gpuId').toList) : gpuId = gpuId' := by
  obtain ⟨c, rest, text, -, read⟩ := repr_decimal gpuId
  obtain ⟨c', rest', text', -, read'⟩ := repr_decimal gpuId'
  rw [← read, ← read', ← text, ← text', same]

/-- The ids part of a bucket line determines the ids. -/
theorem bucketLine_ids_inj (gpuIds gpuIds' : List Nat) (k k' : Nat)
    (same : (gpuIds.enumFrom k).flatMap (fun entry => (Nat.repr entry.2).toList ++
        if entry.1 + 1 = k + gpuIds.length then "   ".toList else ", ".toList) =
      (gpuIds'.enumFrom k').flatMap (fun entry => (Nat.repr entry.2).toList ++
        if entry.1 + 1 = k' + gpuIds'.length then "   ".toList else ", ".toList)) :
    gpuIds = gpuIds' := by
  induction gpuIds generalizing gpuIds' k k' with
  | nil =>
    cases gpuIds' with
    | nil => rfl
    | cons gpuId' rest' =>
      obtain ⟨c, digits, text, -, -⟩ := repr_decimal gpuId'
      have empty := congrArg List.isEmpty same
      rw [bucketLine_ids_cons, text] at empty
      simp at empty
  | cons gpuId rest inductionHypothesis =>
    cases gpuIds' with
    | nil =>
      obtain ⟨c, digits, text, -, -⟩ := repr_decimal gpuId
      have empty := congrArg List.isEmpty same
      rw [bucketLine_ids_cons, text] at empty
      simp at empty
    | cons gpuId' rest' =>
      rw [bucketLine_ids_cons, bucketLine_ids_cons] at same
      obtain ⟨c, digits, text, allDigits, -⟩ := repr_decimal gpuId
      obtain ⟨c', digits', text', allDigits', -⟩ := repr_decimal gpuId'
      have stops : ∀ (last : Prop) [Decidable last] (more : List Char),
          (if last then "   ".toList else ", ".toList ++ more).takeWhile Char.isDigit = [] := by
        intro last _ more
        split <;> rfl
      obtain ⟨sameDigits, sameRest⟩ := digits_append_inj (fun d member => allDigits d (text ▸ member))
        (fun d member => allDigits' d (text' ▸ member)) (stops (rest = []) _) (stops (rest' = []) _) same
      rw [repr_inj sameDigits]
      cases rest with
      | nil => cases rest' with
        | nil => rfl
        | cons _ _ => simp at sameRest
      | cons next rest => cases rest' with
        | nil => simp at sameRest
        | cons next' rest' =>
          simp only [reduceCtorEq, if_false, List.append_cancel_left_eq] at sameRest
          rw [inductionHypothesis _ _ _ sameRest]

/-- A bucket line names its bucket and its ids: no two buckets, or two id lists, print the
same line, so the summary rows of `HelperDisplayGpuResults` can be read back. -/
theorem bucketLine_injective : Function.Injective fun line : Bucket × List Nat => bucketLine line.1.label line.2 := by
  rintro ⟨bucket, gpuIds⟩ ⟨bucket', gpuIds'⟩ same
  have fourLetters : ∀ b : Bucket, b.label.length = 4 := by intro b; cases b <;> rfl
  simp only [bucketLine, List.append_assoc] at same
  obtain ⟨sameLabel, afterLabel⟩ := List.append_inj same (by rw [fourLetters, fourLetters])
  have sameBucket : bucket = bucket' := by
    cases bucket <;> cases bucket' <;> first | rfl | exact absurd sameLabel (by decide)
  rw [List.append_cancel_left_eq] at afterLabel
  subst sameBucket
  refine Prod.ext rfl (bucketLine_ids_inj gpuIds gpuIds' 0 0 ?_)
  simp only [List.enum, Nat.zero_add] at afterLabel ⊢
  by_cases single : gpuIds.length = 1 <;> by_cases single' : gpuIds'.length = 1
  · rw [if_pos single, if_pos single'] at afterLabel
    exact List.append_cancel_left afterLabel
  · rw [if_pos single, if_neg single'] at afterLabel
    simp at afterLabel
  · rw [if_neg single, if_pos single'] at afterLabel
    simp at afterLabel
  · rw [if_neg single, if_neg single'] at afterLabel
    exact List.append_cancel_left afterLabel

end DcgmiDiag
