import CardinalityAdvisor.Value.Layout

/-!
# Values exported as JSON texts

Modes and join types are exported by their names, sets of integers as lists in ascending order,
other sets as lists, and records as objects. The layout of the text can be chosen. Values of
unknown kinds cannot be exported, and a layout may refuse numbers that are not finite; an indented
one says which number it was.

## Main definitions

* `Value.plain`: a value reduced to JSON data and unknown values
* `Value.toJson`: the text of a value
* `Value.exported`: the text of a value in a layout that is chosen by name
-/

namespace CardinalityAdvisor

namespace Value

mutual
/-- A value reduced to JSON data and values of unknown kinds. -/
def plain : Value → Value
  | .list items => .list (plainItems items)
  | .object fields => .object (plainFields fields)
  | .set members => .list (membersInOrder (plainItems members))
  | .mode m => .text m.name
  | .joinType j => .text j.name
  | .queryClass c => .object (classFields c)
  | .policy p => .object (policyFields p)
  | .sample s => .object (sampleFields s)
  | other => other

/-- The items of a list, reduced. -/
def plainItems : List Value → List Value
  | [] => []
  | item :: rest => plain item :: plainItems rest

/-- The fields of an object with their values reduced. -/
def plainFields : List (String × Value) → List (String × Value)
  | [] => []
  | (name, value) :: rest => (name, plain value) :: plainFields rest
end

/-- A line break with the indentation of a level, if the layout has one. -/
def lineBreak (layout : Layout) (level : Nat) : String :=
  match layout.indent with
  | none => ""
  | some indent => "\n" ++ String.join (List.replicate level indent)

/-- Texts between brackets, laid out for a level. -/
def bracketed (layout : Layout) (level : Nat) (left right : String) (texts : List String) :
    String :=
  if texts.isEmpty then left ++ right
  else
    left ++ lineBreak layout (level + 1) ++
      (layout.itemSeparator ++ lineBreak layout (level + 1)).intercalate texts ++
      lineBreak layout level ++ right

/-- The results in a row, or the first fault. -/
def sequence {α : Type} : List (Except Fault α) → Except Fault (List α)
  | [] => .ok []
  | first :: rest => do
    let a ← first
    let as ← sequence rest
    .ok (a :: as)

mutual
/-- The text of a reduced value at a level of nesting. -/
def write (layout : Layout) (level : Nat) : Value → Except Fault String
  | .null => .ok "null"
  | .bool b => .ok (if b then "true" else "false")
  | .int i => .ok (String.ofList (Json.integerText i))
  | .float x =>
    if (x.isNaN || x.isInf) && !layout.allowSpecial then
      .error (.notFinite (layout.indent.map fun _ => Decimal.shortest x))
    else .ok (String.ofList (Json.floatText x))
  | .text s => .ok (String.ofList (Json.string layout.charset s))
  | .list items => do
    let texts ← sequence (writeItems layout (level + 1) items)
    .ok (bracketed layout level "[" "]" texts)
  | .object fields => do
    let written := writeFields layout (level + 1) fields
    let written := if layout.sortFields then sortBy Json.fieldLe written else written
    let texts ← sequence <| written.map fun (name, value) =>
      value.map fun v =>
        String.ofList (Json.string layout.charset name) ++ layout.nameSeparator ++ v
    .ok (bracketed layout level "\x7b" "\x7d" texts)
  | .set _ | .mode _ | .joinType _ | .queryClass _ | .policy _ | .sample _ | .foreign =>
    .error .wrongKind

/-- The texts of the items of a list. -/
def writeItems (layout : Layout) (level : Nat) : List Value → List (Except Fault String)
  | [] => []
  | item :: rest => write layout level item :: writeItems layout level rest

/-- The names of the fields of an object with the texts of their values. -/
def writeFields (layout : Layout) (level : Nat) :
    List (String × Value) → List (String × Except Fault String)
  | [] => []
  | (name, value) :: rest => (name, write layout level value) :: writeFields layout level rest
end

/-- The JSON text of a value. -/
def toJson (layout : Layout) (v : Value) : Except Fault String := write layout 0 v.plain

/-- The JSON text of a value in the layout that named choices give. -/
def exported (choices : List (String × Value)) (v : Value) : Except Fault String := do
  v.toJson (← Layout.ofChoices choices)

end Value

/-- The JSON text of a policy, as it is logged. -/
def PlanningPolicy.jsonText (p : PlanningPolicy) : String :=
  match Value.toJson {} (.policy p) with
  | .ok text => text
  | .error _ => ""

end CardinalityAdvisor
