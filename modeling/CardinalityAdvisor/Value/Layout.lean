import CardinalityAdvisor.Fault
import CardinalityAdvisor.Value.Condition

/-!
# The layout of a JSON text

A layout can be chosen by naming the choices. What is not chosen stays as it is by default; with an
indentation, items are separated by a comma alone, since a line break follows it.

## Main definitions

* `Layout`: the choices
* `Layout.ofChoices`: the layout that named choices give
-/

namespace CardinalityAdvisor

/-- The choices of the layout of a JSON text. -/
structure Layout where
  /-- What stands between two items. -/
  itemSeparator : String := ", "
  /-- What stands between a name and its value. -/
  nameSeparator : String := ": "
  /-- The indentation of one level; without one all stands on one line. -/
  indent : Option String := none
  /-- Whether the fields of an object stand in the order of their names. -/
  sortFields : Bool := false
  charset : Json.Charset := .ascii
  /-- Whether infinities and NaN are written. -/
  allowSpecial : Bool := true

namespace Layout

/-- The names of the choices, among them those that make no difference to the text. -/
def choiceNames : List String := [
  "skipkeys", "ensure_ascii", "check_circular", "allow_nan", "cls", "indent", "separators",
  "default", "sort_keys"]

/-- The separators that a pair of texts gives. -/
def separatorsOf (given : Value) : Except Fault (String × String) :=
  match given.members? with
  | some [.text item, .text name] => .ok (item, name)
  | some [_, _] | none => .error .wrongKind
  | some members => .error (.rowWidth 2 members.length)

/-- The indentation that a value gives: a text, or a number of blanks. -/
def indentOf (given : Value) : Except Fault (Option String) :=
  match given with
  | .null => .ok none
  | .text indent => .ok (some indent)
  | other =>
    match other.asInt? with
    | some width => .ok (some (String.ofList (List.replicate width.toNat ' ')))
    | none => .error .wrongKind

/-- Whether a value is an indentation at all. -/
def isIndented : Value → Bool
  | .null => false
  | _ => true

/-- The separators if none are chosen. -/
def defaultSeparators (indented : Bool) : String × String := (if indented then "," else ", ", ": ")

/-- The layout that named choices give. -/
def ofChoices (choices : List (String × Value)) : Except Fault Layout := do
  if choices.any fun (name, _) => !choiceNames.contains name then .error .wrongKind
  let chosen (name : String) (missing : Bool) :=
    ((choices.lookup name).map Value.holds).getD missing
  let indentation := (choices.lookup "indent").getD .null
  let (itemSeparator, nameSeparator) ← match choices.lookup "separators" with
    | none | some .null => .ok (defaultSeparators (isIndented indentation))
    | some given => separatorsOf given
  let indent ← indentOf indentation
  .ok { itemSeparator, nameSeparator, indent
        sortFields := chosen "sort_keys" false
        charset := if chosen "ensure_ascii" true then .ascii else .unicode
        allowSpecial := chosen "allow_nan" true }

end Layout

end CardinalityAdvisor
