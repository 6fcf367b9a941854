import CardinalityAdvisor.Text.Pieces
import CardinalityAdvisor.Value.Text

/-!
# Access to parse trees

A parse tree is a JSON value. A node is an object with one field, whose name is the node's type
and whose value holds the node's attributes. Trees come from outside, so every access says what
was wrong with the tree it met.

## Main definitions

* `TreeFault`: what is wrong with a tree
* `Json.field`: a field that must be there
* `Json.field?`: a field that may be missing
* `Json.entry`: what stands at a key, be it a name or a position
* `Json.mentions`: whether a value has a field, an item or a part with a name
* `Json.elements`: the values that a value consists of
* `nodeType`: the type of a node
-/

namespace CardinalityAdvisor

/-- What is wrong with a parse tree. -/
inductive TreeFault where
  /-- A value that should be a node has no or several fields. -/
  | notANode (shown : String)
  /-- A field that must be there is missing. -/
  | missing (name : String)
  /-- A list has no item at a position. -/
  | outOfRange
  /-- A value is of a kind that does not allow the access. -/
  | wrongKind
  /-- A field that may be missing was asked of something that cannot have fields. -/
  | noFields
  /-- A name is no text. -/
  | notText
  deriving DecidableEq, Repr

/-- A result read from a tree. -/
abbrev TreeResult (α : Type) := Except TreeFault α

namespace Json

/-- The value of a field that must be there. -/
def field (name : String) : Json → TreeResult Json
  | .object fields =>
    match fields.lookup name with
    | some value => .ok value
    | none => .error (.missing name)
  | _ => .error .wrongKind

/-- The value of a field that may be missing; a field that is null counts as missing. -/
def field? (name : String) : Json → TreeResult (Option Json)
  | .object fields =>
    match fields.lookup name with
    | some .null | none => .ok none
    | some value => .ok (some value)
  | _ => .error .noFields

/-- The item of a list at a position. Positions below zero count from the end. -/
def itemAt (position : Int) (items : List Json) : TreeResult Json :=
  let index := if position < 0 then position + items.length else position
  if index < 0 then .error .outOfRange
  else
    match items[index.toNat]? with
    | some found => .ok found
    | none => .error .outOfRange

/-- What stands at a key: the field of an object with a name, or the item of a list at a position.
A truth value counts as the position zero or one. -/
def entry (whole key : Json) : TreeResult Json :=
  match whole, key with
  | .object _, .text name => whole.field name
  | .list items, .int position => itemAt position items
  | .list items, .bool b => itemAt (if b then 1 else 0) items
  | _, _ => .error .wrongKind

/-- Whether an object has a field, a list an item or a text a part with a name. -/
def mentions (name : String) : Json → TreeResult Bool
  | .object fields => .ok (fields.any fun (n, _) => n == name)
  | .list items => .ok (items.any (· == .text name))
  | .text s => .ok (Text.occursIn name.toList s.toList)
  | _ => .error .wrongKind

/-- The values that a value consists of: the items of a list, the names of an object's fields, the
characters of a text. -/
def elements : Json → TreeResult (List Json)
  | .list items => .ok items
  | .object fields => .ok (fields.map fun (name, _) => .text name)
  | .text s => .ok (s.toList.map fun c => .text (String.singleton c))
  | _ => .error .wrongKind

end Json

/-- The type of a node: the name of its only field. -/
def nodeType (node : Json) : TreeResult Json := do
  match ← node.elements with
  | [only] => .ok only
  | _ => .error (.notANode node.display)

end CardinalityAdvisor
