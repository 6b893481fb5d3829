import Mathlib.Algebra.Group.Nat.Basic
import Mathlib.Algebra.Group.Int
import DcgmiDiag.Structs

/-!
# The GPU set of a run

A run renders the GPUs named by the request's filter, or, when the filter is empty,
the GPUs it recovers from the response. Recovery relies on a sentinel:
`InitializeDiagResponse` marks every slot with the out-of-range id
`DCGM_MAX_NUM_DEVICES`, and `PopulateGpuList` takes the slots whose id was
overwritten and that ran some test, until it has `gpuCount` of them.

The explicit filter is checked by `StartDiag::validGpuListFormat`, which looks only at
the first character of each token, and parsed by `strtol` into unsigned indices.
Nothing bounds the parsed values, so an accepted filter can name a slot past the
per-GPU array.
-/

namespace DcgmiDiag

/-- `Diag::InitializeDiagResponse`: the zero-filled record with the sentinel id
`DCGM_MAX_NUM_DEVICES` in every GPU slot. -/
def initializeDiagResponse : DiagResponse :=
  { DiagResponse.zero with
    perGpuResponses := fun _ => { PerGpuResponse.zero with gpuId := dcgmMaxNumDevices } }

/-- The inner loop of `PopulateGpuList`: some result of the slot has a status other
than `DCGM_DIAG_RESULT_NOT_RUN` (the loop breaks at the first). -/
def someTestRan (slot : PerGpuResponse) : Bool :=
  (List.finRange dcgmPerGpuTestCountV8).any fun j => (slot.results j).status != .notRun

/-- The loop of `PopulateGpuList` over the remaining slot indices. Its condition
`gpuVec.size() < gpuCount` is checked before each index and ends the loop. -/
def populateGpuListLoop (diagResult : DiagResponse) : List (Fin dcgmMaxNumDevices) → List Nat → List Nat
  | [], gpuVec => gpuVec
  | i :: rest, gpuVec =>
    if gpuVec.length < diagResult.gpuCount then
      let slot := diagResult.perGpuResponses i
      populateGpuListLoop diagResult rest
        (if slot.gpuId != dcgmMaxNumDevices && someTestRan slot then gpuVec ++ [i.val] else gpuVec)
    else gpuVec

/-- `Diag::PopulateGpuList`, appending to the caller's vector. -/
def populateGpuList (diagResult : DiagResponse) (gpuVec : List Nat) : List Nat :=
  populateGpuListLoop diagResult (List.finRange dcgmMaxNumDevices) gpuVec

/-- From any vector, the loop appends the next qualifying slots, in order, until the
vector holds `gpuCount` entries or the slots run out. -/
theorem populateGpuListLoop_eq (diagResult : DiagResponse) (indices : List (Fin dcgmMaxNumDevices))
    (gpuVec : List Nat) :
    populateGpuListLoop diagResult indices gpuVec =
      gpuVec ++ ((indices.filter fun i => (diagResult.perGpuResponses i).gpuId != dcgmMaxNumDevices &&
        someTestRan (diagResult.perGpuResponses i)).map Fin.val).take (diagResult.gpuCount - gpuVec.length) := by
  induction indices generalizing gpuVec with
  | nil => simp [populateGpuListLoop]
  | cons i rest later =>
    by_cases room : gpuVec.length < diagResult.gpuCount
    · obtain ⟨left, hLeft⟩ : ∃ left, diagResult.gpuCount - gpuVec.length = left + 1 :=
        ⟨_, (Nat.succ_pred_eq_of_pos (by omega)).symm⟩
      by_cases taken : ((diagResult.perGpuResponses i).gpuId != dcgmMaxNumDevices &&
          someTestRan (diagResult.perGpuResponses i)) = true
      · have fewer : diagResult.gpuCount - (gpuVec.length + 1) = left := by omega
        simp only [populateGpuListLoop, room, if_true, taken, later, List.filter_cons, List.map_cons,
          hLeft, List.take_succ_cons, List.length_append, List.length_singleton, List.append_assoc,
          List.singleton_append, fewer]
      · simp only [populateGpuListLoop, room, if_true, taken, later, List.filter_cons, Bool.false_eq_true,
          if_false]
    · simp [populateGpuListLoop, room, Nat.sub_eq_zero_of_le (not_lt.mp room)]

/-- From an empty vector, `PopulateGpuList` collects the first `gpuCount` slot indices, in
increasing order, whose id is not the sentinel and which ran some test (all of them when
fewer qualify). -/
theorem populateGpuList_first_qualifying (diagResult : DiagResponse) :
    populateGpuList diagResult [] =
      (((List.finRange dcgmMaxNumDevices).filter fun i =>
          (diagResult.perGpuResponses i).gpuId != dcgmMaxNumDevices &&
            (List.finRange dcgmPerGpuTestCountV8).any fun j =>
              ((diagResult.perGpuResponses i).results j).status != .notRun).map Fin.val).take
        diagResult.gpuCount := by
  simpa [someTestRan] using populateGpuListLoop_eq diagResult (List.finRange dcgmMaxNumDevices) []

/-- Modelled from the spec: `dcgmTokenizeString` (DcgmStringHelpers, not in this tree)
splits a delimiter-separated list at every delimiter, empty tokens included; an empty
source has no tokens. -/
def dcgmTokenizeString (src : List Char) (delimiter : Char) : List (List Char) :=
  if src.isEmpty then [] else src.splitOn delimiter

/-- `StartDiag::validGpuListFormat`: every token's first character, `'\0'` for an
empty token, is a digit. -/
def validGpuListFormat (gpuList : List Char) : Bool :=
  (dcgmTokenizeString gpuList ',').all fun token =>
    match token with
    | c :: _ => c.isDigit
    | [] => false

/-- `isspace` in the C locale, which `strtol` skips first. -/
def isCSpace (c : Char) : Bool :=
  c == ' ' || c == '\t' || c == '\n' || c == '\x0b' || c == '\x0c' || c == '\r'

/-- The decimal value of a string of digits. -/
def decimalValue (digits : List Char) : Nat :=
  digits.foldl (fun value c => 10 * value + (c.toNat - '0'.toNat)) 0

/-- The decimal value of the leading digits of a string, zero if there are none. -/
def leadingDigitsValue (s : List Char) : Nat := decimalValue (s.takeWhile Char.isDigit)

/-- `LONG_MAX` of the 64-bit `long` that `strtol` returns. -/
def longMax : Nat := 2 ^ 63 - 1

/-- `strtol(s, NULL, 10)`: spaces, an optional sign, then the leading digits; a value
out of range saturates at `LONG_MAX` or `LONG_MIN`. -/
def strtol (s : List Char) : Int :=
  match s.dropWhile isCSpace with
  | '-' :: rest => -(min (leadingDigitsValue rest) (longMax + 1) : Nat)
  | '+' :: rest => (min (leadingDigitsValue rest) longMax : Nat)
  | digits => (min (leadingDigitsValue digits) longMax : Nat)

/-- `gpuVec.push_back(value)` converts the `long` to `unsigned int`, modulo `2^32`. -/
def toUnsignedInt (value : Int) : Nat := (value % 2 ^ 32).toNat

/-- The explicit-filter branch of `Diag::RunDiagOnce`: tokenise on `,` and store
`strtol` of each token. -/
def parseGpuList (gpuList : List Char) : List Nat :=
  (dcgmTokenizeString gpuList ',').map fun token => toUnsignedInt (strtol token)

/-- The index of a token that starts with a digit: its leading digits, saturated at
`LONG_MAX`, modulo `2^32`. -/
theorem toUnsignedInt_strtol_digit (c : Char) (rest : List Char) (digit : c.isDigit = true) :
    toUnsignedInt (strtol (c :: rest)) = min (leadingDigitsValue (c :: rest)) longMax % 2 ^ 32 := by
  have notSpace : ¬isCSpace c = true := by
    intro space
    simp only [isCSpace, Bool.or_eq_true, beq_iff_eq] at space
    rcases space with ((((rfl | rfl) | rfl) | rfl) | rfl) | rfl <;> exact absurd digit (by decide)
  unfold strtol
  rw [List.dropWhile_cons_of_neg notSpace]
  split
  next same =>
    rw [(List.cons.inj same).1] at digit
    exact absurd digit (by decide)
  next same =>
    rw [(List.cons.inj same).1] at digit
    exact absurd digit (by decide)
  next =>
    simp only [toUnsignedInt]
    omega

/-- Every token of an accepted filter starts with a digit. -/
theorem startsWithDigit_of_valid (gpuList : List Char) (accepted : validGpuListFormat gpuList = true)
    (token : List Char) (member : token ∈ dcgmTokenizeString gpuList ',') :
    ∃ c rest, token = c :: rest ∧ c.isDigit = true := by
  have starts := List.all_eq_true.mp accepted token member
  match token, starts with
  | c :: rest, digit => exact ⟨c, rest, rfl, digit⟩

/-- The leading digits of a string of digits are the whole string. -/
theorem leadingDigitsValue_of_digits (digits : List Char) (allDigits : ∀ c ∈ digits, c.isDigit = true) :
    leadingDigitsValue digits = decimalValue digits := by
  rw [leadingDigitsValue, List.takeWhile_eq_self_iff.mpr allDigits]

/-- For an accepted filter whose tokens are numbers, `RunDiagOnce` stores for each token
its decimal value, saturated at `LONG_MAX` and taken modulo `2^32`; no step bounds it,
so the indices stay inside the per-GPU array exactly when each such value is below
`DCGM_MAX_NUM_DEVICES`. -/
theorem parseGpuList_of_valid (gpuList : List Char) (accepted : validGpuListFormat gpuList = true)
    (numbers : ∀ token ∈ dcgmTokenizeString gpuList ',', ∀ c ∈ token, c.isDigit = true) :
    parseGpuList gpuList = (dcgmTokenizeString gpuList ',').map
        (fun token => min (decimalValue token) longMax % 2 ^ 32) ∧
      ((∀ gpuIndex ∈ parseGpuList gpuList, gpuIndex < dcgmMaxNumDevices) ↔
        ∀ token ∈ dcgmTokenizeString gpuList ',',
          min (decimalValue token) longMax % 2 ^ 32 < dcgmMaxNumDevices) := by
  have values : parseGpuList gpuList = (dcgmTokenizeString gpuList ',').map
      (fun token => min (decimalValue token) longMax % 2 ^ 32) := by
    apply List.map_congr_left
    intro token member
    obtain ⟨c, rest, rfl, digit⟩ := startsWithDigit_of_valid gpuList accepted token member
    rw [toUnsignedInt_strtol_digit c rest digit, leadingDigitsValue_of_digits _ (numbers _ member)]
  refine ⟨values, ?_⟩
  rw [values]
  simp

/-- The filter `32` passes `validGpuListFormat` and parses to the index 32, one past the
per-GPU array. -/
theorem parseGpuList_accepts_past_array :
    validGpuListFormat "32".toList = true ∧ parseGpuList "32".toList = [32] ∧
      ¬32 < dcgmMaxNumDevices := by
  decide

/-- The law at the filter `3,40`, whose second index is past the per-GPU array. -/
theorem parseGpuList_of_valid_past_array :
    validGpuListFormat "3,40".toList = true ∧
      (∀ token ∈ dcgmTokenizeString "3,40".toList ',', ∀ c ∈ token, c.isDigit = true) ∧
      parseGpuList "3,40".toList = (dcgmTokenizeString "3,40".toList ',').map
          (fun token => min (decimalValue token) longMax % 2 ^ 32) ∧
        ((∀ gpuIndex ∈ parseGpuList "3,40".toList, gpuIndex < dcgmMaxNumDevices) ↔
          ∀ token ∈ dcgmTokenizeString "3,40".toList ',',
            min (decimalValue token) longMax % 2 ^ 32 < dcgmMaxNumDevices) :=
  ⟨by decide, by decide, parseGpuList_of_valid _ (by decide) (by decide)⟩

/-! ## Typed GPU lists read back -/

/-- A GPU list as it is typed: decimal indices separated by commas. -/
def gpuListText (gpuIndices : List Nat) : List Char :=
  [','].intercalate (gpuIndices.map fun gpuIndex => (Nat.repr gpuIndex).toList)

/-- The digit `Nat.digitChar` writes for a value below ten reads back as that value. -/
theorem digitChar_decimal : ∀ d, d < 10 → (Nat.digitChar d).isDigit = true ∧ (Nat.digitChar d).toNat - '0'.toNat = d := by
  decide

/-- `Nat.toDigitsCore` in base ten, with enough fuel, puts in front of its accumulator the
non-empty digit string that `leadingDigitsValue`'s fold reads back as the value. -/
theorem toDigitsCore_decimal (fuel n : Nat) (ds : List Char) (enough : n < fuel) :
    ∃ digits, Nat.toDigitsCore 10 fuel n ds = digits ++ ds ∧ digits ≠ [] ∧ (∀ c ∈ digits, c.isDigit = true) ∧
      digits.foldl (fun value c => 10 * value + (c.toNat - '0'.toNat)) 0 = n := by
  induction fuel generalizing n ds with
  | zero => omega
  | succ fuel inductionHypothesis =>
    obtain ⟨digit, value⟩ := digitChar_decimal (n % 10) (Nat.mod_lt _ (by decide))
    have step : Nat.toDigitsCore 10 (fuel + 1) n ds = if n / 10 = 0 then Nat.digitChar (n % 10) :: ds
        else Nat.toDigitsCore 10 fuel (n / 10) (Nat.digitChar (n % 10) :: ds) := rfl
    by_cases last : n / 10 = 0
    · refine ⟨[Nat.digitChar (n % 10)], by simp [step, last], by simp, by simpa using digit, ?_⟩
      simp only [List.foldl_cons, List.foldl_nil, value]
      omega
    · obtain ⟨digits, core, nonEmpty, allDigits, read⟩ :=
        inductionHypothesis (n / 10) (Nat.digitChar (n % 10) :: ds) (by omega)
      refine ⟨digits ++ [Nat.digitChar (n % 10)], by simp [step, last, core], by simp,
        fun c member => ?_, ?_⟩
      · rcases List.mem_append.mp member with early | late
        · exact allDigits c early
        · simpa [List.mem_singleton.mp late] using digit
      · simp only [List.foldl_append, read, List.foldl_cons, List.foldl_nil, value]
        omega

/-- The decimal text of an index is a non-empty string of digits whose leading digits
read back as the index. -/
theorem repr_decimal (gpuIndex : Nat) :
    ∃ c rest, (Nat.repr gpuIndex).toList = c :: rest ∧ (∀ d ∈ c :: rest, d.isDigit = true) ∧
      leadingDigitsValue (c :: rest) = gpuIndex := by
  obtain ⟨digits, core, nonEmpty, allDigits, read⟩ := toDigitsCore_decimal (gpuIndex + 1) gpuIndex [] (by omega)
  obtain ⟨c, rest, rfl⟩ := List.exists_cons_of_ne_nil nonEmpty
  refine ⟨c, rest, by rw [List.append_nil] at core; exact core, allDigits, ?_⟩
  rw [leadingDigitsValue_of_digits _ allDigits]
  exact read

/-- The tokens of a typed GPU list are the indices' decimal texts. -/
theorem dcgmTokenizeString_gpuListText (gpuIndices : List Nat) :
    dcgmTokenizeString (gpuListText gpuIndices) ',' = gpuIndices.map fun gpuIndex => (Nat.repr gpuIndex).toList := by
  cases gpuIndices with
  | nil => rfl
  | cons first rest =>
    obtain ⟨c, digits, text, _, _⟩ := repr_decimal first
    have noComma : ∀ token ∈ (first :: rest).map (fun gpuIndex => (Nat.repr gpuIndex).toList), ',' ∉ token := by
      simp only [List.mem_map]
      rintro _ ⟨gpuIndex, _, rfl⟩ comma
      obtain ⟨d, more, text, allDigits, _⟩ := repr_decimal gpuIndex
      rw [text] at comma
      exact absurd (allDigits ',' comma) (by decide)
    have nonEmpty : (gpuListText (first :: rest)).isEmpty = false := by
      cases rest <;> simp [gpuListText, List.intercalate, show (Nat.repr first).data = c :: digits from text]
    rw [dcgmTokenizeString, nonEmpty, if_neg Bool.false_ne_true]
    exact List.splitOn_intercalate _ ',' noComma (by simp)

/-- Every GPU list typed as decimal indices separated by commas passes
`validGpuListFormat` and parses back to its indices, each saturated at `LONG_MAX` and
taken modulo `2^32`: the indices below `2^32` come back unchanged. -/
theorem gpuListText_round_trip (gpuIndices : List Nat) :
    validGpuListFormat (gpuListText gpuIndices) = true ∧
      parseGpuList (gpuListText gpuIndices) = gpuIndices.map fun gpuIndex => min gpuIndex longMax % 2 ^ 32 := by
  rw [validGpuListFormat, parseGpuList, dcgmTokenizeString_gpuListText, List.map_map]
  refine ⟨List.all_eq_true.mpr ?_, List.map_congr_left fun gpuIndex _ => ?_⟩
  · simp only [List.mem_map]
    rintro _ ⟨gpuIndex, _, rfl⟩
    obtain ⟨c, rest, text, allDigits, _⟩ := repr_decimal gpuIndex
    simp [show (Nat.repr gpuIndex).data = c :: rest from text, allDigits c (List.mem_cons_self _ _)]
  · obtain ⟨c, rest, text, allDigits, read⟩ := repr_decimal gpuIndex
    simp only [Function.comp_apply, text]
    rw [toUnsignedInt_strtol_digit c rest (allDigits c (List.mem_cons_self _ _)), read]

end DcgmiDiag
