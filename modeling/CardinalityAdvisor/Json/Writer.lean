import CardinalityAdvisor.Decimal.Shortest
import CardinalityAdvisor.Json.Basic
import CardinalityAdvisor.Text.Quoted

/-!
# The compact text of a JSON value

A value is fingerprinted by its compact text: no blanks, the fields of an object in the order of
their names, and only ASCII characters. Characters outside ASCII are written as the numbers of
their UTF-16 units, so a character beyond U+FFFF takes two of them.

## Main definitions

* `integerText`: the decimal text of an integer
* `escaped`: a character inside a JSON string
* `string`: a JSON string
* `compact`: the compact text of a value
-/

namespace CardinalityAdvisor.Json

/-- The decimal text of an integer. -/
def integerText (i : Int) : List Char :=
  if i < 0 then '-' :: Decimal.digitsOf i.natAbs else Decimal.digitsOf i.natAbs

/-- A UTF-16 unit, written by its number. -/
def unitEscape (n : Nat) : List Char := '\\' :: 'u' :: Text.hexDigits 4 n

/-- A character written as the numbers of its one or two UTF-16 units. Half of a surrogate pair is
one unit. -/
def unitEscapes (c : Char) : List Char :=
  let n := Text.numberOf c
  if n < 0x10000 then unitEscape n
  else unitEscape (Text.highHalf n) ++ unitEscape (Text.lowHalf n)

/-- Which characters outside ASCII stand for themselves in a string. -/
inductive Charset where
  /-- Only ASCII characters stand for themselves. -/
  | ascii
  /-- All characters but the control characters stand for themselves. -/
  | unicode
  deriving DecidableEq, Repr

/-- Whether a character other than the quote and the backslash stands for itself. -/
def Charset.plain (charset : Charset) (c : Char) : Bool :=
  match charset with
  | .ascii => 0x20 ≤ c.toNat && c.toNat < 0x7f
  | .unicode => 0x20 ≤ c.toNat

/-- A character inside a JSON string. -/
def escaped (charset : Charset) (c : Char) : List Char :=
  if c = '"' ∨ c = '\\' then ['\\', c]
  else if c = '\n' then ['\\', 'n']
  else if c = '\r' then ['\\', 'r']
  else if c = '\t' then ['\\', 't']
  else if c = '\x08' then ['\\', 'b']
  else if c = '\x0c' then ['\\', 'f']
  else if charset.plain c then [c]
  else unitEscapes c

/-- A JSON string. -/
def string (charset : Charset) (s : String) : List Char :=
  '"' :: s.toList.flatMap (escaped charset) ++ ['"']

/-- The text of a number that is not an integer. -/
def floatText (x : Float) : List Char :=
  if x.isNaN then "NaN".toList
  else if x.isInf then (if x < 0 then "-Infinity" else "Infinity").toList
  else (Decimal.shortest x).toList

/-- Texts in a row with commas between them. -/
def commaSeparated (texts : List (List Char)) : List Char := [','].intercalate texts

mutual
/-- The compact text of a value. -/
def compact : Json → List Char
  | .null => "null".toList
  | .bool b => (if b then "true" else "false").toList
  | .int i => integerText i
  | .float x => floatText x
  | .text s => string .ascii s
  | .list items => '[' :: commaSeparated (compactItems items) ++ [']']
  | .object fields =>
    let written := (sortBy fieldLe (compactFields fields)).map fun (name, value) =>
      string .ascii name ++ ':' :: value
    '{' :: commaSeparated written ++ ['}']

/-- The compact texts of the items of a list. -/
def compactItems : List Json → List (List Char)
  | [] => []
  | item :: rest => compact item :: compactItems rest

/-- The names of the fields with the compact texts of their values. -/
def compactFields : List (String × Json) → List (String × List Char)
  | [] => []
  | (name, value) :: rest => (name, compact value) :: compactFields rest
end

/-- The compact text of a value as a string. -/
def compactText (j : Json) : String := String.ofList (compact j)

example : compactText (.object [("b", .list [.int (-5), .null]), ("a", .text "é")]) =
    "\x7b\"a\":\"\\u00e9\",\"b\":[-5,null]\x7d" := by decide +kernel

end CardinalityAdvisor.Json
