import Mathlib.Data.List.Basic

/-!
# `Json::Value` and its indexing operators

The JSON report is built with jsoncpp's non-const `operator[]`: indexing a member of a
null value turns it into an object, and writing element `i` of a shorter array, or of
a null value, first pads it with null elements up to `i`. The report functions only
ever index null values, objects and arrays, and the model treats any other value as
null there, as jsoncpp's assertions would leave no other run.

Keys are the `NVVS_*` macros of `NvvsJsonStrings.h`, which is not in this tree, and the
run-time keys built with `std::to_string`. A write through a chain of `[]` is an
`update` along a path of selectors; reading back is `get`, and the lemmas below say
what a read sees after a write.
-/

namespace DcgmiDiag

/-- The object keys of the report. -/
inductive JsonKey where
  | nvvsName
  | nvvsVersionStr
  | nvvsRuntimeError
  | nvvsIterations
  | nvvsResult
  | nvvsWarning
  | nvvsHeaders
  | nvvsHeader
  | nvvsTests
  | nvvsTestName
  | nvvsResults
  | nvvsStatus
  | nvvsGpuId
  | nvvsWarnings
  | nvvsErrorId
  | nvvsErrorCategory
  | nvvsErrorSeverity
  | nvvsInfo
  | nvvsDriverVersion
  | nvvsGpuSerials
  | nvvsGpuDevIds
  | text (name : List Char)
  deriving DecidableEq, Repr

/-- `Json::Value`, with the value types the report stores. -/
inductive JsonValue where
  | null
  | int (value : Int)
  | uint (value : Nat)
  | string (value : List Char)
  | array (elements : List JsonValue)
  | object (members : List (JsonKey × JsonValue))
  deriving Inhabited

/-- One `[]` of a chain: a member name or an array index. -/
inductive Selector where
  | key (name : JsonKey)
  | index (position : Nat)

namespace JsonValue

/-- The value is null. -/
def isNull : JsonValue → Bool
  | null => true
  | _ => false

/-- The text of a string value. -/
def str? : JsonValue → Option (List Char)
  | string value => some value
  | _ => none

/-- Member `name` of an object, null when absent. -/
def member (v : JsonValue) (name : JsonKey) : JsonValue :=
  match v with
  | object members => ((members.find? (·.1 == name)).map (·.2)).getD null
  | _ => null

/-- Element `i` of an array, null when absent. -/
def element (v : JsonValue) (i : Nat) : JsonValue :=
  match v with
  | array elements => elements.getD i null
  | _ => null

/-- The elements of an array, none for any other value. -/
def elements : JsonValue → List JsonValue
  | array elements => elements
  | _ => []

/-- Replace member `name`, adding it when absent; a `std::map` keeps one value a key,
and the report never depends on member order. -/
def setMembers (members : List (JsonKey × JsonValue)) (name : JsonKey) (x : JsonValue) :
    List (JsonKey × JsonValue) :=
  (name, x) :: members.filter (·.1 != name)

/-- `v[name] = x`: a non-object becomes an object first. -/
def setMember (v : JsonValue) (name : JsonKey) (x : JsonValue) : JsonValue :=
  match v with
  | object members => object (setMembers members name x)
  | _ => object [(name, x)]

/-- Pad with nulls up to `i`, then replace element `i`. -/
def padSet (elements : List JsonValue) (i : Nat) (x : JsonValue) : List JsonValue :=
  (elements ++ List.replicate (i + 1 - elements.length) null).set i x

/-- `v[i] = x`: a non-array becomes an empty array first. -/
def setElement (v : JsonValue) (i : Nat) (x : JsonValue) : JsonValue :=
  array (padSet v.elements i x)

/-- A chain of `[]` ending in an assignment. -/
def update : JsonValue → List Selector → JsonValue → JsonValue
  | _, [], x => x
  | v, .key name :: rest, x => v.setMember name ((v.member name).update rest x)
  | v, .index i :: rest, x => v.setElement i ((v.element i).update rest x)

/-- A chain of `[]` read on a value, null where something is absent. -/
def get : JsonValue → List Selector → JsonValue
  | v, [] => v
  | v, .key name :: rest => (v.member name).get rest
  | v, .index i :: rest => (v.element i).get rest

/-! ## Reading after writing -/

theorem find?_setMembers_of_ne (members : List (JsonKey × JsonValue)) (name other : JsonKey)
    (x : JsonValue) (distinct : other ≠ name) :
    (setMembers members name x).find? (·.1 == other) = members.find? (·.1 == other) := by
  have skipped : (name == other) = false := by simpa using Ne.symm distinct
  simp only [setMembers, List.find?_cons, skipped]
  induction members with
  | nil => rfl
  | cons m rest inductionHypothesis =>
    by_cases found : m.1 = other
    · have kept : m.1 ≠ name := found ▸ distinct
      simp [List.filter_cons, kept, found, distinct]
    · by_cases dropped : m.1 = name <;>
        simp [List.filter_cons, List.find?_cons, dropped, found, inductionHypothesis, skipped]

@[simp] theorem member_setMember_self (v : JsonValue) (name : JsonKey) (x : JsonValue) :
    (v.setMember name x).member name = x := by
  cases v <;> simp [setMember, member, setMembers]

@[simp] theorem member_setMember_of_ne (v : JsonValue) (name other : JsonKey) (x : JsonValue)
    (distinct : other ≠ name) : (v.setMember name x).member other = v.member other := by
  cases v <;> simp [setMember, member, find?_setMembers_of_ne _ _ _ _ distinct, Ne.symm distinct]

theorem length_padSet (elements : List JsonValue) (i : Nat) (x : JsonValue) :
    i < (padSet elements i x).length := by
  simp [padSet]
  omega

@[simp] theorem element_setElement_self (v : JsonValue) (i : Nat) (x : JsonValue) :
    (v.setElement i x).element i = x := by
  have inside := length_padSet v.elements i x
  simp only [padSet, List.length_set] at inside
  simp [setElement, element, padSet, List.getElem?_set_self inside]

/-- Reading an element of any value reads its elements, of which a non-array has none. -/
theorem element_eq_getD (v : JsonValue) (i : Nat) : v.element i = v.elements.getD i null := by
  cases v <;> simp [element, elements]

@[simp] theorem element_setElement_of_ne (v : JsonValue) (i j : Nat) (x : JsonValue)
    (distinct : j ≠ i) : (v.setElement i x).element j = v.element j := by
  have unpadded : (v.elements ++ List.replicate (i + 1 - v.elements.length) null)[j]?.getD null =
      v.elements[j]?.getD null := by
    by_cases before : j < v.elements.length
    · rw [List.getElem?_append_left before]
    · have absent : v.elements[j]? = none := List.getElem?_eq_none (by omega)
      rw [List.getElem?_append_right (by omega), absent, List.getElem?_replicate]
      split <;> rfl
  rw [element_eq_getD, element_eq_getD]
  simpa [setElement, elements, padSet, List.getElem?_set_ne (Ne.symm distinct)] using unpadded

@[simp] theorem member_null (name : JsonKey) : null.member name = null := rfl

@[simp] theorem element_null (i : Nat) : null.element i = null := rfl

@[simp] theorem get_null (path : List Selector) : null.get path = null := by
  induction path with
  | nil => rfl
  | cons step path inductionHypothesis => cases step <;> exact inductionHypothesis

@[simp] theorem get_nil (v : JsonValue) : v.get [] = v := rfl

@[simp] theorem get_key (v : JsonValue) (name : JsonKey) (rest : List Selector) :
    v.get (.key name :: rest) = (v.member name).get rest := rfl

@[simp] theorem get_index (v : JsonValue) (i : Nat) (rest : List Selector) :
    v.get (.index i :: rest) = (v.element i).get rest := rfl

@[simp] theorem update_nil (v x : JsonValue) : v.update [] x = x := rfl

@[simp] theorem member_update_key_self (v : JsonValue) (name : JsonKey) (rest : List Selector)
    (x : JsonValue) : (v.update (.key name :: rest) x).member name = (v.member name).update rest x := by
  simp [update]

@[simp] theorem member_update_key_of_ne (v : JsonValue) (name other : JsonKey) (rest : List Selector)
    (x : JsonValue) (distinct : other ≠ name) :
    (v.update (.key name :: rest) x).member other = v.member other := by
  simp [update, distinct]

@[simp] theorem element_update_index_self (v : JsonValue) (i : Nat) (rest : List Selector)
    (x : JsonValue) : (v.update (.index i :: rest) x).element i = (v.element i).update rest x := by
  simp [update]

@[simp] theorem element_update_index_of_ne (v : JsonValue) (i j : Nat) (rest : List Selector)
    (x : JsonValue) (distinct : j ≠ i) :
    (v.update (.index i :: rest) x).element j = v.element j := by
  simp [update, distinct]

/-- An array has no members. -/
@[simp] theorem member_update_index (v : JsonValue) (i : Nat) (rest : List Selector) (x : JsonValue)
    (name : JsonKey) : (v.update (.index i :: rest) x).member name = null := by
  simp [update, setElement, member]

/-- Writing at the end of an array appends. -/
theorem elements_setElement_length (v : JsonValue) (x : JsonValue) :
    (v.setElement v.elements.length x).elements = v.elements ++ [x] := by
  simp [setElement, elements, padSet]

/-- A read below a path sees what was written there. -/
theorem get_update_append (v : JsonValue) (path rest : List Selector) (x : JsonValue) :
    (v.update path x).get (path ++ rest) = x.get rest := by
  induction path generalizing v with
  | nil => rfl
  | cons step path inductionHypothesis =>
    cases step <;> simp [update, get, inductionHypothesis]

end JsonValue

end DcgmiDiag
