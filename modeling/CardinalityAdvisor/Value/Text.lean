import CardinalityAdvisor.Json.Writer
import CardinalityAdvisor.Value.Basic

/-!
# Values in messages

A message shows a value in a notation that tells texts from other values: texts are quoted, lists
stand in brackets and objects in braces. A text that is itself the message is shown as it is.

## Main definitions

* `Value.literal`: the notation of a value inside a message
* `Value.display`: a value as a message
* `Json.display`: JSON data as a message
-/

namespace CardinalityAdvisor

namespace Value

/-- Texts in a row with a comma and a blank between them. -/
def commaJoined (texts : List String) : String := ", ".intercalate texts

/-- The notation of a value that contains no other values. -/
def scalarLiteral : Value → String
  | .null => "None"
  | .bool b => if b then "True" else "False"
  | .int i => String.ofList (Json.integerText i)
  | .float x => Decimal.shortest x
  | .text s => Text.quoted s
  | .mode m => "<AqoMode." ++ m.title ++ ": " ++ Text.quoted m.name ++ ">"
  | .joinType j => "<JoinType." ++ j.title ++ ": " ++ Text.quoted j.name ++ ">"
  | _ => "<object>"

/-- The notation of a record, whose fields contain no other values. -/
def recordLiteral (name : String) (fields : List (String × Value)) : String :=
  name ++ "(" ++ commaJoined (fields.map fun (f, v) => f ++ "=" ++ scalarLiteral v) ++ ")"

mutual
/-- The notation of a value inside a message. -/
def literal : Value → String
  | .list items => "[" ++ commaJoined (itemLiterals items) ++ "]"
  | .object fields => "\x7b" ++ commaJoined (fieldLiterals fields) ++ "\x7d"
  | .set [] => "set()"
  | .set (first :: rest) =>
    "\x7b" ++ commaJoined (literal first :: itemLiterals rest) ++ "\x7d"
  | .queryClass c => recordLiteral "QueryClass" (classFields c)
  | .policy p => ((record? (.policy p)).map fun (n, fs) => recordLiteral n fs).getD ""
  | .sample s => recordLiteral "Sample" (sampleFields s)
  | other => scalarLiteral other

/-- The notations of the items of a list. -/
def itemLiterals : List Value → List String
  | [] => []
  | item :: rest => literal item :: itemLiterals rest

/-- The notations of the fields of an object. -/
def fieldLiterals : List (String × Value) → List String
  | [] => []
  | (name, value) :: rest =>
    (Text.quoted name ++ ": " ++ literal value) :: fieldLiterals rest
end

/-- A value as a message: a text stands for itself and a mode for its name. -/
def display : Value → String
  | .text s => s
  | .mode m => m.name
  | .joinType j => "JoinType." ++ j.title
  | other => literal other

end Value

/-- JSON data as a message: a text stands for itself. -/
def Json.display (j : Json) : String := (Value.ofJson j).display

end CardinalityAdvisor
