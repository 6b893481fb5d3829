import Mathlib.Data.List.DropRight

/-!
# Sanitizing engine messages

`Diag::Sanitize` cuts an engine message after the delimiter `***` and trims the
whitespace set of `Diag::isWhitespace` from both ends. The model keeps the three
steps of the source: a `find` with `substr`, a loop erasing the last character, and
a loop advancing a position with the checked accessor `at`. Every `std::string`
accessor that throws `std::out_of_range` answers `none` here, so a run that
completes is a run in which no accessor was out of range.

`find` answers the first occurrence. The sanitized text is therefore the suffix
after the first delimiter, and it may still contain a later one; sanitizing twice
changes a message exactly when that happens.
-/

namespace DcgmiDiag

/-- `Diag::isWhitespace`: space, newline, tab, carriage return and form feed. -/
def isWhitespace (c : Char) : Bool :=
  match c with
  | ' ' | '\n' | '\t' | '\r' | '\x0c' => true
  | _ => false

/-- The literal `"***"` that ends an engine log preamble. -/
def delimiter : List Char := ['*', '*', '*']

/-- `std::string::find`: the first position at which `needle` starts, `none` for
`npos`. -/
def find (haystack needle : List Char) : Option Nat :=
  match haystack with
  | [] => if needle.isEmpty then some 0 else none
  | c :: rest => if needle.isPrefixOf (c :: rest) then some 0 else (find rest needle).map (· + 1)

/-- `std::string::substr(pos)`: the suffix from `pos`, `std::out_of_range` past the
end. -/
def substr (s : List Char) (pos : Nat) : Option (List Char) :=
  if pos ≤ s.length then some (s.drop pos) else none

/-- The trailing loop of `Sanitize`: while the string is non-empty and `at(size() - 1)`
is whitespace, erase the last character. Each pass erases one character, so the
`size()` passes given as fuel are all the loop can make. -/
def eraseTrailingWhitespace : Nat → List Char → Option (List Char)
  | 0, sanitized => some sanitized
  | fuel + 1, sanitized =>
    if 0 < sanitized.length then do
      let last ← sanitized[sanitized.length - 1]?
      if isWhitespace last then eraseTrailingWhitespace fuel sanitized.dropLast else pure sanitized
    else pure sanitized

/-- The leading loop of `Sanitize`: while the string is non-empty and `at(pos)` is
whitespace, advance `pos`. The guard does not bound `pos`; `at` throws past the end,
so `size() + 1` passes are all the loop can make. -/
def skipLeadingWhitespace (sanitized : List Char) : Nat → Nat → Option Nat
  | 0, pos => some pos
  | fuel + 1, pos =>
    if 0 < sanitized.length then do
      let c ← sanitized[pos]?
      if isWhitespace c then skipLeadingWhitespace sanitized fuel (pos + 1) else pure pos
    else pure pos

/-- The first statement of `Sanitize`: remove `***` and everything before it, if
present. -/
def cutPreamble (toOutput : List Char) : Option (List Char) :=
  match find toOutput delimiter with
  | some pos => substr toOutput (pos + 3)
  | none => some toOutput

/-- `Diag::Sanitize`; `none` is an uncaught `std::out_of_range`. -/
def sanitize (toOutput : List Char) : Option (List Char) := do
  let sanitized ← cutPreamble toOutput
  let sanitized ← eraseTrailingWhitespace sanitized.length sanitized
  let pos ← skipLeadingWhitespace sanitized (sanitized.length + 1) 0
  substr sanitized pos

/-! ## What the three steps compute -/

/-- The suffix after the first occurrence of the delimiter, `none` when it does not
occur. -/
def afterFirstDelimiter : List Char → Option (List Char)
  | [] => none
  | c :: rest =>
    if delimiter.isPrefixOf (c :: rest) then some ((c :: rest).drop 3) else afterFirstDelimiter rest

/-- The suffix after the last occurrence of the delimiter, `none` when it does not
occur. -/
def afterLastDelimiter : List Char → Option (List Char)
  | [] => none
  | c :: rest =>
    match afterLastDelimiter rest with
    | some suffix => some suffix
    | none => if delimiter.isPrefixOf (c :: rest) then some ((c :: rest).drop 3) else none

/-- Leading and trailing characters of the whitespace set removed. -/
def trimWhitespace (s : List Char) : List Char :=
  (s.rdropWhile isWhitespace).dropWhile isWhitespace

/-- `find` locates the delimiter where `afterFirstDelimiter` cuts, and the cut
position leaves room for the delimiter. -/
theorem find_delimiter (s : List Char) :
    (find s delimiter).map (fun pos => s.drop (pos + 3)) = afterFirstDelimiter s ∧
      ∀ pos, find s delimiter = some pos → pos + 3 ≤ s.length := by
  induction s with
  | nil => simp [find, delimiter, afterFirstDelimiter]
  | cons c rest inductionHypothesis =>
    by_cases found : delimiter.isPrefixOf (c :: rest)
    · have bound : 3 ≤ (c :: rest).length := by
        simpa [delimiter] using (List.isPrefixOf_iff_prefix.mp found).length_le
      refine ⟨by simp [find, afterFirstDelimiter, found], fun pos located => ?_⟩
      simp only [find, found, if_true, Option.some.injEq] at located
      omega
    · obtain ⟨same, bound⟩ := inductionHypothesis
      refine ⟨by simpa [find, afterFirstDelimiter, found, Option.map_map, Function.comp_def]
        using same, fun pos located => ?_⟩
      simp only [find, found, Bool.false_eq_true, if_false] at located
      obtain ⟨earlier, inRest, rfl⟩ := Option.map_eq_some'.mp located
      have := bound earlier inRest
      simp only [List.length_cons]
      omega

/-- The cut step finds the first delimiter and its `substr` stays in range. -/
theorem cutPreamble_eq (toOutput : List Char) :
    cutPreamble toOutput = some ((afterFirstDelimiter toOutput).getD toOutput) := by
  obtain ⟨same, bound⟩ := find_delimiter toOutput
  unfold cutPreamble
  cases located : find toOutput delimiter with
  | none =>
    rw [located] at same
    simp [← same]
  | some pos =>
    rw [located] at same
    simp [← same, substr, bound pos located]

/-- With enough fuel the trailing loop removes exactly the trailing whitespace; its
`at(size() - 1)` is always in range. -/
theorem eraseTrailingWhitespace_eq (fuel : Nat) (sanitized : List Char)
    (enough : sanitized.length ≤ fuel) :
    eraseTrailingWhitespace fuel sanitized = some (sanitized.rdropWhile isWhitespace) := by
  induction fuel generalizing sanitized with
  | zero =>
    obtain rfl : sanitized = [] := List.length_eq_zero.mp (Nat.le_zero.mp enough)
    rfl
  | succ fuel inductionHypothesis =>
    cases sanitized using List.reverseRecOn with
    | nil => simp [eraseTrailingWhitespace, List.rdropWhile_nil]
    | append_singleton init last =>
      have shorter : init.length ≤ fuel := by simp at enough; omega
      by_cases white : isWhitespace last
      · simp [eraseTrailingWhitespace, white, inductionHypothesis init shorter,
          List.rdropWhile_concat_pos _ _ _ white]
      · simp [eraseTrailingWhitespace, white, List.rdropWhile_concat_neg _ _ _ white]

/-- On a string that ends in a non-whitespace character, the leading loop stops at the
first such character, before the end. -/
theorem skipLeadingWhitespace_eq (sanitized : List Char) (nonEmpty : sanitized ≠ [])
    (lastKept : isWhitespace (sanitized.getLast nonEmpty) = false) (fuel pos : Nat)
    (inside : pos < sanitized.length) (enough : sanitized.length < fuel + pos) :
    skipLeadingWhitespace sanitized fuel pos =
      some (pos + ((sanitized.drop pos).takeWhile isWhitespace).length) := by
  induction fuel generalizing pos with
  | zero => omega
  | succ fuel inductionHypothesis =>
    have positive : 0 < sanitized.length := List.length_pos.mpr nonEmpty
    by_cases white : isWhitespace sanitized[pos]
    · have notLast : pos + 1 < sanitized.length := by
        by_contra atEnd
        have same : sanitized[pos] = sanitized.getLast nonEmpty := by
          rw [List.getLast_eq_getElem]; congr 1; omega
        simp_all
      have advanced : (sanitized.drop pos).takeWhile isWhitespace =
          sanitized[pos] :: (sanitized.drop (pos + 1)).takeWhile isWhitespace := by
        rw [List.drop_eq_getElem_cons inside, List.takeWhile_cons_of_pos white]
      simp [skipLeadingWhitespace, positive, List.getElem?_eq_getElem inside, white,
        inductionHypothesis (pos + 1) notLast (by omega), advanced]
      omega
    · have stopped : (sanitized.drop pos).takeWhile isWhitespace = [] := by
        rw [List.drop_eq_getElem_cons inside, List.takeWhile_cons_of_neg white]
      simp [skipLeadingWhitespace, positive, List.getElem?_eq_getElem inside, white, stopped]

/-- Dropping the leading run of a predicate is dropping its length. -/
theorem drop_takeWhile_length (p : Char → Bool) (s : List Char) :
    s.drop (s.takeWhile p).length = s.dropWhile p := by
  have split := List.drop_left (s.takeWhile p) (s.dropWhile p)
  rwa [List.takeWhile_append_dropWhile] at split

/-- The trailing loop leaves the string empty or ending in a character it keeps. -/
theorem rdropWhile_trimmed (s : List Char) :
    s.rdropWhile isWhitespace = [] ∨
      ∃ nonEmpty, isWhitespace ((s.rdropWhile isWhitespace).getLast nonEmpty) = false := by
  by_cases empty : s.rdropWhile isWhitespace = []
  · exact .inl empty
  · exact .inr ⟨empty, by simpa using List.rdropWhile_last_not isWhitespace s empty⟩

/-- On such a string the leading loop stops at the first kept character, which is inside
the string: every `at(pos)` it calls is in range. -/
theorem skipLeadingWhitespace_stops (kept : List Char)
    (trimmed : kept = [] ∨ ∃ nonEmpty, isWhitespace (kept.getLast nonEmpty) = false) :
    skipLeadingWhitespace kept (kept.length + 1) 0 = some (kept.takeWhile isWhitespace).length ∧
      (kept.takeWhile isWhitespace).length ≤ kept.length - 1 := by
  rcases trimmed with rfl | ⟨nonEmpty, lastKept⟩
  · simp [skipLeadingWhitespace]
  · have positive := List.length_pos.mpr nonEmpty
    refine ⟨by simpa using skipLeadingWhitespace_eq kept nonEmpty lastKept _ 0 positive (by omega), ?_⟩
    have shorter : (kept.takeWhile isWhitespace).length ≠ kept.length := by
      intro same
      have whole := List.takeWhile_eq_self_iff.mp ((List.takeWhile_prefix isWhitespace).eq_of_length same)
      simp [whole _ (List.getLast_mem nonEmpty)] at lastKept
    have := (List.takeWhile_prefix (l := kept) isWhitespace).length_le
    omega

/-- Sanitize completes on every string, with the trimmed suffix after the first
delimiter. -/
theorem sanitize_eq (toOutput : List Char) :
    sanitize toOutput = some (trimWhitespace ((afterFirstDelimiter toOutput).getD toOutput)) := by
  simp only [sanitize, cutPreamble_eq, Option.bind_eq_bind, Option.some_bind]
  generalize (afterFirstDelimiter toOutput).getD toOutput = cut
  have bound := (List.takeWhile_prefix (l := cut.rdropWhile isWhitespace) isWhitespace).length_le
  rw [eraseTrailingWhitespace_eq _ _ le_rfl, Option.some_bind,
    (skipLeadingWhitespace_stops _ (rdropWhile_trimmed cut)).1, Option.some_bind]
  simp [substr, bound, trimWhitespace, drop_takeWhile_length]

/-- `Diag::Sanitize` never indexes out of range. The `find`/`substr` step stays in
range; the trailing loop, whose `at(size() - 1)` is guarded by `size() > 0`, leaves the
string empty or ending in a kept character; so the leading loop, whose guard does not
bound `pos`, only calls `at(pos)` inside the string and stops at `size() - 1` at the
latest; and the final `substr(pos)` is in range. An out-of-range access would end the
model's run with `none`. -/
theorem sanitize_in_range (toOutput : List Char) :
    ∃ cut kept pos,
      cutPreamble toOutput = some cut ∧
      eraseTrailingWhitespace cut.length cut = some kept ∧
      (kept = [] ∨ ∃ nonEmpty, isWhitespace (kept.getLast nonEmpty) = false) ∧
      skipLeadingWhitespace kept (kept.length + 1) 0 = some pos ∧
      pos ≤ kept.length - 1 ∧
      sanitize toOutput = some (kept.drop pos) := by
  obtain ⟨stops, inside⟩ :=
    skipLeadingWhitespace_stops _ (rdropWhile_trimmed ((afterFirstDelimiter toOutput).getD toOutput))
  refine ⟨_, _, _, cutPreamble_eq toOutput, eraseTrailingWhitespace_eq _ _ le_rfl,
    rdropWhile_trimmed _, stops, inside, ?_⟩
  rw [sanitize_eq, trimWhitespace, drop_takeWhile_length]

/-- The last character survives `dropWhile`, whenever something does. -/
theorem getLast_dropWhile (p : Char → Bool) (y : List Char) (nonEmpty : y.dropWhile p ≠ []) :
    (y.dropWhile p).getLast nonEmpty = y.getLast (fun empty => nonEmpty (by simp [empty])) := by
  have split := List.takeWhile_append_dropWhile p y
  conv_rhs => arg 1; rw [← split]
  exact (List.getLast_append_of_ne_nil nonEmpty).symm

/-- Trimming a trimmed string changes nothing: its ends are already kept characters. -/
theorem trimWhitespace_idempotent (s : List Char) :
    trimWhitespace (trimWhitespace s) = trimWhitespace s := by
  unfold trimWhitespace
  suffices ends : ((s.rdropWhile isWhitespace).dropWhile isWhitespace).rdropWhile isWhitespace =
      (s.rdropWhile isWhitespace).dropWhile isWhitespace by
    rw [ends, List.dropWhile_idempotent]
  rw [List.rdropWhile_eq_self_iff]
  intro nonEmpty
  rw [getLast_dropWhile]
  exact List.rdropWhile_last_not _ _ _

/-- Trimming never lengthens a string. -/
theorem length_trimWhitespace_le (s : List Char) : (trimWhitespace s).length ≤ s.length :=
  calc (trimWhitespace s).length
      ≤ (s.rdropWhile isWhitespace).length := (List.dropWhile_suffix isWhitespace).length_le
    _ ≤ s.length := (List.rdropWhile_prefix isWhitespace s).length_le

/-- The suffix after a delimiter is shorter than the string by the delimiter at least. -/
theorem afterFirstDelimiter_length (s suffix : List Char)
    (cut : afterFirstDelimiter s = some suffix) : suffix.length + 3 ≤ s.length := by
  obtain ⟨same, bound⟩ := find_delimiter s
  rw [cut] at same
  obtain ⟨pos, located, rfl⟩ := Option.map_eq_some'.mp same
  have := bound pos located
  simp only [List.length_drop]
  omega

/-- `Diag::Sanitize` returns the suffix after the first `***` (all of the message if it
has none) with the whitespace set trimmed from both ends, and never throws. Sanitizing
that result again changes it exactly when it still contains `***`. -/
theorem sanitize_after_first_delimiter (toOutput : List Char) :
    sanitize toOutput = some (trimWhitespace ((afterFirstDelimiter toOutput).getD toOutput)) ∧
      ((sanitize toOutput).bind sanitize = sanitize toOutput ↔
        afterFirstDelimiter (trimWhitespace ((afterFirstDelimiter toOutput).getD toOutput)) =
          none) := by
  refine ⟨sanitize_eq toOutput, ?_⟩
  rw [sanitize_eq, Option.some_bind, sanitize_eq]
  generalize sanitized : trimWhitespace ((afterFirstDelimiter toOutput).getD toOutput) = text
  cases again : afterFirstDelimiter text with
  | none => simp [← sanitized, trimWhitespace_idempotent]
  | some suffix =>
    have shorter := afterFirstDelimiter_length text suffix again
    have trimmed := length_trimWhitespace_le suffix
    simp only [Option.getD_some, Option.some.injEq, reduceCtorEq, iff_false]
    intro same
    rw [same] at trimmed
    omega

/-- The message `a***b***c`: `Sanitize` keeps `b***c`, the text after the first
delimiter, not `c`, the text after the last one; and a second pass changes it to `c`. -/
theorem sanitize_keeps_later_delimiter :
    sanitize "a***b***c".toList ≠
        some (trimWhitespace ((afterLastDelimiter "a***b***c".toList).getD "a***b***c".toList)) ∧
      (sanitize "a***b***c".toList).bind sanitize ≠ sanitize "a***b***c".toList := by
  decide

/-! ## What a sanitized message is made of -/

/-- The cut step keeps a suffix of the message. -/
theorem afterFirstDelimiter_suffix (s : List Char) : (afterFirstDelimiter s).getD s <:+ s := by
  obtain ⟨same, -⟩ := find_delimiter s
  cases located : find s delimiter with
  | none =>
    rw [located] at same
    simp [← same]
  | some pos =>
    rw [located] at same
    simpa [← same] using List.drop_suffix (pos + 3) s

/-- Trimming keeps a piece of the string, with a kept character at each end. -/
theorem trimWhitespace_infix (s : List Char) :
    trimWhitespace s <:+: s ∧ (trimWhitespace s = [] ∨ ∃ nonEmpty,
      isWhitespace ((trimWhitespace s).head nonEmpty) = false ∧
        isWhitespace ((trimWhitespace s).getLast nonEmpty) = false) := by
  refine ⟨(List.dropWhile_suffix isWhitespace).isInfix.trans (List.rdropWhile_prefix isWhitespace s).isInfix, ?_⟩
  by_cases empty : trimWhitespace s = []
  · exact .inl empty
  · refine .inr ⟨empty, List.head_dropWhile_not _ _ empty, ?_⟩
    unfold trimWhitespace
    rw [getLast_dropWhile]
    simpa using List.rdropWhile_last_not isWhitespace s _

/-- `Diag::Sanitize` never invents text: the message it returns is a piece of the engine's
message, empty or with a character outside the whitespace set at each end. -/
theorem sanitize_infix (toOutput : List Char) :
    ∃ sanitized, sanitize toOutput = some sanitized ∧ sanitized <:+: toOutput ∧
      (sanitized = [] ∨ ∃ nonEmpty, isWhitespace (sanitized.head nonEmpty) = false ∧
        isWhitespace (sanitized.getLast nonEmpty) = false) := by
  obtain ⟨piece, ends⟩ := trimWhitespace_infix ((afterFirstDelimiter toOutput).getD toOutput)
  exact ⟨_, sanitize_eq toOutput, piece.trans (afterFirstDelimiter_suffix toOutput).isInfix, ends⟩

end DcgmiDiag
