import CardinalityAdvisor.Json.Basic

/-!
# The canonical form of a parse tree

Queries that differ only in their constants have the same canonical form: the value of a constant
is erased, a list of constants becomes a single constant, and positions in the source text are
left out. Columns may be replaced on the way, for instance by the class of the columns that are
equal to them.

## Main definitions

* `isErased`: whether an attribute is a position in the source text
* `Json.isConstant`: whether a node is a constant, possibly under casts
* `canonical`: the canonical form of a tree
-/

namespace CardinalityAdvisor

/-- The attributes that are positions or lengths in the source text. -/
def erasedAttributes : List String := ["location", "stmt_len"]

/-- The ends of the names of other attributes that are positions in the source text. -/
def erasedEndings : List String := ["_location", "_list_start", "_list_end"]

/-- Whether an attribute is a position in the source text. -/
def isErased (name : String) : Bool :=
  erasedAttributes.contains name ||
    erasedEndings.any fun ending => ending.toList.isSuffixOf name.toList

/-- Whether fields consist of a single one with a name. -/
def isOnlyField (name : String) : List (String × Json) → Bool
  | [(only, _)] => only == name
  | _ => false

mutual
/-- Whether a node is a constant, possibly under casts. -/
def Json.isConstant : Json → Bool
  | .object [(tag, value)] => tag == "A_Const" || (tag == "TypeCast" && value.castsConstant)
  | _ => false

/-- Whether the attributes of a cast say that it casts a constant. -/
def Json.castsConstant : Json → Bool
  | .object fields => argumentIsConstant fields
  | _ => false

/-- Whether the first argument among the attributes of a cast is a constant. -/
def argumentIsConstant : List (String × Json) → Bool
  | [] => false
  | (name, value) :: rest => if name == "arg" then value.isConstant else argumentIsConstant rest
end

/-- A constant without its value. -/
def erasedConstant : Json := .object [("A_Const", .null)]

mutual
/-- The canonical form of a tree, where `replace` may put something else in the place of a column
reference. -/
def canonicalWith (replace : Json → Option Json) : Json → Json
  | .list items =>
    if !items.isEmpty && items.all Json.isConstant then .list [erasedConstant]
    else .list (canonicalItems replace items)
  | .object fields =>
    if isOnlyField "A_Const" fields then erasedConstant
    else
      match if isOnlyField "ColumnRef" fields then replace (.object fields) else none with
      | some replacement => replacement
      | none => .object (canonicalFields replace fields)
  | other => other

/-- The canonical forms of the items of a list. -/
def canonicalItems (replace : Json → Option Json) : List Json → List Json
  | [] => []
  | item :: rest => canonicalWith replace item :: canonicalItems replace rest

/-- The attributes that are not erased, with the canonical forms of their values. -/
def canonicalFields (replace : Json → Option Json) : List (String × Json) → List (String × Json)
  | [] => []
  | (name, value) :: rest =>
    if isErased name then canonicalFields replace rest
    else (name, canonicalWith replace value) :: canonicalFields replace rest
end

/-- The canonical form of a tree. -/
def canonical : Json → Json := canonicalWith fun _ => none

end CardinalityAdvisor
