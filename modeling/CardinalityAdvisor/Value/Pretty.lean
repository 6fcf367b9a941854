import CardinalityAdvisor.Text.Blank
import CardinalityAdvisor.Value.Condition
import CardinalityAdvisor.Value.Text

/-!
# Values laid out over several lines

A value is written on one line if it fits into a line of eighty characters. If it does not, a
list has one item, a set one member and an object one field on each line, the members in order and
the fields in the order of their names; a long text is cut after its line breaks and between its
words, and the pieces stand below one another.

## Main definitions

* `lineWidth`: the width of a line
* `Value.precedes`: the order of the members of a set
* `Value.pretty`: the text of a value
-/

namespace CardinalityAdvisor

/-- The width of a line. -/
def lineWidth : Nat := 80

namespace Value

/-- Whether a character ends a line. -/
def endsLine (c : Char) : Bool :=
  let n := c.toNat
  (0xa ≤ n && n ≤ 0xd) || (0x1c ≤ n && n ≤ 0x1e) || n == 0x85 || n == 0x2028 || n == 0x2029

/-- The lines of a text, each with the characters that end it; `current` is the line so far. A
carriage return and a line feed end a line together. -/
def splitLines (current : List Char) : List Char → List (List Char)
  | [] => if current.isEmpty then [] else [current]
  | '\r' :: '\n' :: rest => (current ++ ['\r', '\n']) :: splitLines [] rest
  | c :: rest =>
    if endsLine c then (current ++ [c]) :: splitLines [] rest
    else splitLines (current ++ [c]) rest

/-- The words of a line, each with the blanks after it; `current` is the word so far and `spaced`
says whether blanks have followed it. -/
def splitWords (current : List Char) (spaced : Bool) : List Char → List (List Char)
  | [] => if current.isEmpty then [] else [current]
  | c :: rest =>
    if Text.isBlank c then splitWords (current ++ [c]) true rest
    else if spaced then current :: splitWords [c] false rest
    else splitWords (current ++ [c]) false rest

/-- Characters in quotes. -/
def quotedPiece (cs : List Char) : String := Text.quoted (String.ofList cs)

/-- Words packed into pieces that are at most `width` wide in quotes; the piece with the last word
leaves `spare` columns free. A word that is too wide is a piece of its own. -/
def packWords (width spare : Nat) (current : List Char) : List (List Char) → List String
  | [] => if current.isEmpty then [] else [quotedPiece current]
  | word :: rest =>
    let spare' := if rest.isEmpty then spare else 0
    let candidate := current ++ word
    if width < (quotedPiece candidate).length + spare' then
      if current.isEmpty then packWords width spare word rest
      else quotedPiece current :: packWords width spare word rest
    else packWords width spare candidate rest

/-- The pieces of the lines of a text. -/
def packLines (width spare : Nat) : List (List Char) → List String
  | [] => []
  | line :: rest =>
    let spare' := if rest.isEmpty then spare else 0
    let whole := quotedPiece line
    if whole.length + spare' ≤ width then whole :: packLines width spare rest
    else packWords width spare' [] (splitWords [] false line) ++ packLines width spare rest

/-- A line break and an indentation. -/
def newLine (indent : Nat) : String := "\n" ++ String.ofList (List.replicate indent ' ')

/-- A text in pieces below one another. On the outermost level they stand in parentheses. -/
def prettyText (indent spare : Nat) (outermost : Bool) (s : String) : String :=
  let indent := if outermost then indent + 1 else indent
  let spare := if outermost then spare + 1 else spare
  let pieces := packLines (lineWidth - indent) spare (splitLines [] s.toList)
  if s.isEmpty ∨ pieces.length = 1 then Text.quoted s
  else
    let body := (newLine indent).intercalate pieces
    if outermost then "(" ++ body ++ ")" else body

/-- Texts that are laid out once it is known how many columns to leave free: those after the last
one leave `spare`, all others one for the comma. -/
def joinLaidOut (indent spare : Nat) : List (Nat → String) → String
  | [] => ""
  | [last] => last spare
  | item :: rest => item 1 ++ "," ++ newLine indent ++ joinLaidOut indent spare rest

/-- A record with one field on each line. -/
def prettyRecord (indent spare : Nat) (name : String) (fields : List (String × Value)) : String :=
  let indent := indent + name.length + 1
  name ++ "(" ++
    joinLaidOut indent spare (fields.map fun (f, v) _ => f ++ "=" ++ scalarLiteral v) ++ ")"

/-- Whether a text fits between an indentation and the columns to leave free. -/
def fits (indent spare : Nat) (s : String) : Bool := s.length + indent + spare ≤ lineWidth

/-- The place of a value's kind among the kinds that cannot be compared with each other. -/
def kindRank : Value → Nat
  | .null => 0
  | .queryClass _ => 1
  | .sample _ => 2
  | .bool _ => 3
  | .float _ => 4
  | .int _ => 5
  | .foreign => 6
  | .text _ => 7
  | .mode _ => 8
  | .joinType _ => 9
  | .list _ | .object _ | .set _ | .policy _ => 10

/-- Whether a member of a set stands before another one: numbers are ordered by their amounts and
texts by their characters, all other members by their kinds. -/
def precedes (a b : Value) : Bool :=
  match a, b with
  | .text a, .text b => decide (a < b)
  | a, b =>
    match a.asInt?, b.asInt? with
    | some i, some j => decide (i < j)
    | _, _ =>
      match a.toFloat?, b.toFloat? with
      | some x, some y => x < y
      | _, _ => decide (a.kindRank < b.kindRank)

mutual
/-- A value laid out from a column on, with `spare` columns left free at its end. -/
def layOut (indent : Nat) (outermost : Bool) : Value → Nat → String
  | .text s => fun spare =>
    if fits indent spare (Text.quoted s) then Text.quoted s else prettyText indent spare outermost s
  | .list items => fun spare =>
    let flat := literal (.list items)
    if fits indent spare flat then flat
    else "[" ++ joinLaidOut (indent + 1) (spare + 1) (layOutItems (indent + 1) items) ++ "]"
  | .set members => fun spare =>
    let flat := literal (.set members)
    if fits indent spare flat then flat
    else
      let sorted := sortBy (fun a b => !precedes b.1 a.1) (layOutMembers (indent + 1) members)
      "\x7b" ++ joinLaidOut (indent + 1) (spare + 1) (sorted.map fun (_, laidOut) => laidOut) ++
        "\x7d"
  | .object fields => fun spare =>
    let flat := literal (.object fields)
    if fits indent spare flat then flat
    else
      let sorted := sortBy Json.fieldLe (layOutFields (indent + 1) fields)
      "\x7b" ++ joinLaidOut (indent + 1) (spare + 1) (sorted.map fun (_, field) => field) ++ "\x7d"
  | other => fun spare =>
    let flat := literal other
    if fits indent spare flat then flat
    else
      match record? other with
      | some (name, fields) => prettyRecord indent spare name fields
      | none => flat

/-- The items of a list, each laid out. -/
def layOutItems (indent : Nat) : List Value → List (Nat → String)
  | [] => []
  | item :: rest => layOut indent false item :: layOutItems indent rest

/-- The members of a set, each with itself laid out. -/
def layOutMembers (indent : Nat) : List Value → List (Value × (Nat → String))
  | [] => []
  | member :: rest => (member, layOut indent false member) :: layOutMembers indent rest

/-- The fields of an object by their names, each laid out behind its name. -/
def layOutFields (indent : Nat) : List (String × Value) → List (String × (Nat → String))
  | [] => []
  | (name, value) :: rest =>
    let label := Text.quoted name ++ ": "
    (name, fun spare => label ++ layOut (indent + label.length) false value spare) ::
      layOutFields indent rest
end

/-- A value laid out over as many lines as it needs. -/
def pretty (v : Value) : String := layOut 0 true v 0

end Value

end CardinalityAdvisor
