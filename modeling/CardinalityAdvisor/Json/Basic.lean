import CardinalityAdvisor.Sorting

/-!
# JSON values

Parse trees, clauses and settings are JSON values. Integers are exact, other numbers are doubles,
and an object keeps its fields in the order in which they were given.

## Main definitions

* `Json`: a value
* `Json.lookup`: the value of a field
* `Json.inKeyOrder`: the value with the fields of every object in the order of their names
-/

namespace CardinalityAdvisor

/-- A JSON value. An object is the list of its fields, each with a name of its own. -/
inductive Json where
  | null
  | bool (value : Bool)
  | int (value : Int)
  | float (value : Float)
  | text (value : String)
  | list (items : List Json)
  | object (fields : List (String × Json))
  deriving Inhabited, Repr

namespace Json

mutual
/-- Equality of values is decided field by field. -/
def decideEq : (a b : Json) → Decidable (a = b)
  | .null, .null => isTrue rfl
  | .bool a, .bool b => decidable_of_iff (a = b) (by simp)
  | .int a, .int b => decidable_of_iff (a = b) (by simp)
  | .float a, .float b => decidable_of_iff (a = b) (by simp)
  | .text a, .text b => decidable_of_iff (a = b) (by simp)
  | .list a, .list b =>
    haveI := decideItemsEq a b
    decidable_of_iff (a = b) (by simp)
  | .object a, .object b =>
    haveI := decideFieldsEq a b
    decidable_of_iff (a = b) (by simp)
  | .null, .bool _ | .null, .int _ | .null, .float _ | .null, .text _ | .null, .list _
  | .null, .object _ | .bool _, .null | .bool _, .int _ | .bool _, .float _ | .bool _, .text _
  | .bool _, .list _ | .bool _, .object _ | .int _, .null | .int _, .bool _ | .int _, .float _
  | .int _, .text _ | .int _, .list _ | .int _, .object _ | .float _, .null | .float _, .bool _
  | .float _, .int _ | .float _, .text _ | .float _, .list _ | .float _, .object _
  | .text _, .null | .text _, .bool _ | .text _, .int _ | .text _, .float _ | .text _, .list _
  | .text _, .object _ | .list _, .null | .list _, .bool _ | .list _, .int _ | .list _, .float _
  | .list _, .text _ | .list _, .object _ | .object _, .null | .object _, .bool _
  | .object _, .int _ | .object _, .float _ | .object _, .text _ | .object _, .list _ =>
    isFalse (by simp)

/-- Equality of lists of values. -/
def decideItemsEq : (a b : List Json) → Decidable (a = b)
  | [], [] => isTrue rfl
  | x :: xs, y :: ys =>
    haveI := decideEq x y
    haveI := decideItemsEq xs ys
    decidable_of_iff (x = y ∧ xs = ys) (by simp)
  | [], _ :: _ => isFalse (by simp)
  | _ :: _, [] => isFalse (by simp)

/-- Equality of lists of fields. -/
def decideFieldsEq : (a b : List (String × Json)) → Decidable (a = b)
  | [], [] => isTrue rfl
  | (k, x) :: xs, (l, y) :: ys =>
    haveI := decideEq x y
    haveI := decideFieldsEq xs ys
    decidable_of_iff ((k = l ∧ x = y) ∧ xs = ys) (by simp)
  | [], _ :: _ => isFalse (by simp)
  | _ :: _, [] => isFalse (by simp)
end

instance : DecidableEq Json := decideEq

/-- The order of two fields by their names, character by character. -/
def fieldLe {α : Type} (a b : String × α) : Bool := decide (a.1 ≤ b.1)

mutual
/-- The value with the fields of every object in the order of their names. -/
def inKeyOrder : Json → Json
  | .list items => .list (itemsInKeyOrder items)
  | .object fields => .object (sortBy fieldLe (fieldsInKeyOrder fields))
  | other => other

/-- Every item with its objects in key order; the items stay where they are. -/
def itemsInKeyOrder : List Json → List Json
  | [] => []
  | item :: rest => inKeyOrder item :: itemsInKeyOrder rest

/-- Every field with its value in key order; the fields stay where they are. -/
def fieldsInKeyOrder : List (String × Json) → List (String × Json)
  | [] => []
  | (name, value) :: rest => (name, inKeyOrder value) :: fieldsInKeyOrder rest
end

/-- The value of a field, if the value is an object that has the field. -/
def lookup (name : String) : Json → Option Json
  | .object fields => fields.lookup name
  | _ => none

end Json

end CardinalityAdvisor
