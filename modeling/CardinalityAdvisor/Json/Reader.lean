import CardinalityAdvisor.Association
import CardinalityAdvisor.Decimal.Reading
import CardinalityAdvisor.Json.Basic
import CardinalityAdvisor.Text.Half

/-!
# Reading JSON texts

Settings are read from a JSON text. Besides the standard notation, the words `NaN`, `Infinity` and
`-Infinity` are numbers. A number with a point or an exponent is a double, every other number an
exact integer. If an object names a field twice, the last value counts and stands where the field
was named first. Half of a surrogate pair that stands alone is kept as it is.

## Main definitions

* `ReadFault`: why a text is not a JSON value
* `read`: the value that a text denotes
-/

namespace CardinalityAdvisor.Json

/-- Why a text is not a JSON value. -/
inductive ReadFault where
  /-- The text does not follow the notation. -/
  | malformed
  /-- An integer has more digits than are converted. -/
  | tooLong (digits : Nat)
  deriving DecidableEq, Repr

/-- A reader takes what it understands from the front of a text. -/
abbrev Reader (α : Type) := List Char → Except ReadFault (α × List Char)

/-- The text without the blanks in front of it. -/
def skipBlanks (cs : List Char) : List Char :=
  cs.dropWhile fun c => c = ' ' || c = '\t' || c = '\n' || c = '\r'

/-- The value of a hexadecimal digit. -/
def hexValue? (c : Char) : Option Nat :=
  if '0' ≤ c ∧ c ≤ '9' then some (c.toNat - 48)
  else if 'a' ≤ c ∧ c ≤ 'f' then some (c.toNat - 87)
  else if 'A' ≤ c ∧ c ≤ 'F' then some (c.toNat - 55)
  else none

/-- The UTF-16 unit written in four hexadecimal digits at the front of a text. -/
def readUnit : List Char → Option (Nat × List Char)
  | a :: b :: c :: d :: rest => do
    let a ← hexValue? a
    let b ← hexValue? b
    let c ← hexValue? c
    let d ← hexValue? d
    some (((a * 16 + b) * 16 + c) * 16 + d, rest)
  | _ => none

/-- The character that a backslash and a letter stand for. -/
def shortEscape? : Char → Option Char
  | '"' => some '"'
  | '\\' => some '\\'
  | '/' => some '/'
  | 'b' => some '\x08'
  | 'f' => some '\x0c'
  | 'n' => some '\n'
  | 'r' => some '\r'
  | 't' => some '\t'
  | _ => none

/-- The units written at the front of a text as one symbol: a pair of surrogates or one unit. -/
def readUnitEscape (cs : List Char) : Option (Text.Symbol × List Char) := do
  let (n, rest) ← readUnit cs
  if 0xd800 ≤ n ∧ n < 0xdc00 then
    match rest with
    | '\\' :: 'u' :: more =>
      match readUnit more with
      | some (low, after) =>
        if 0xdc00 ≤ low ∧ low < 0xe000 then some (.char (Text.ofHalves n low), after)
        else some (.ofUnit n, rest)
      | none => some (.ofUnit n, rest)
    | _ => some (.ofUnit n, rest)
  else some (.ofUnit n, rest)

/-- The rest of a string after its opening quote; `taken` are its symbols so far, the last one
first. Every step takes at least one character, so the length of the text is fuel enough. -/
def readString (taken : List Text.Symbol) : (fuel : Nat) → Reader String
  | 0, _ => .error .malformed
  | fuel + 1, cs =>
    match cs with
    | [] => .error .malformed
    | '"' :: rest => .ok (String.ofList (taken.reverse.flatMap Text.Symbol.kept), rest)
    | '\\' :: 'u' :: rest =>
      match readUnitEscape rest with
      | some (symbol, rest) => readString (symbol :: taken) fuel rest
      | none => .error .malformed
    | '\\' :: letter :: rest =>
      match shortEscape? letter with
      | some c => readString (.char c :: taken) fuel rest
      | none => .error .malformed
    | c :: rest =>
      if c.toNat < 0x20 then .error .malformed else readString (.char c :: taken) fuel rest

/-- The ASCII digits at the front of a text. -/
def asciiDigits (cs : List Char) : List Char × List Char :=
  (cs.takeWhile Char.isDigit, cs.dropWhile Char.isDigit)

/-- The number written in ASCII digits. -/
def asciiNumber (ds : List Char) : Nat := Decimal.ofDigits (ds.map fun d => d.toNat - 48)

/-- The digits before a decimal point. A zero in front is the only one of them. -/
def wholeDigits : List Char → List Char × List Char
  | '0' :: cs => (['0'], cs)
  | cs => asciiDigits cs

/-- The digits after a decimal point at the front of a text, nothing if there is no point with a
digit behind it. -/
def fractionDigits : List Char → Option (List Char) × List Char
  | '.' :: cs =>
    let (ds, rest) := asciiDigits cs
    if ds.isEmpty then (none, '.' :: cs) else (some ds, rest)
  | cs => (none, cs)

/-- The sign and the digits of an exponent at the front of a text, nothing if there is none with a
digit in it. -/
def exponentDigits : List Char → Option (Bool × List Char) × List Char
  | c :: cs =>
    if c = 'e' ∨ c = 'E' then
      let (negative, afterSign) := Decimal.splitSign cs
      let (ds, rest) := asciiDigits afterSign
      if ds.isEmpty then (none, c :: cs) else (some (negative, ds), rest)
    else (none, c :: cs)
  | [] => (none, [])

/-- A number without its minus sign: the longest one at the front of a text. -/
def readNumber (negative : Bool) : Reader Json := fun cs =>
  let (whole, cs) := wholeDigits cs
  let (part, cs) := fractionDigits cs
  let (exponent, cs) := exponentDigits cs
  if whole.isEmpty then .error .malformed
  else
    match part, exponent with
    | none, none =>
      if Decimal.maxIntegerDigits < whole.length then .error (.tooLong whole.length)
      else .ok (.int (if negative then -(asciiNumber whole : Int) else asciiNumber whole), cs)
    | _, _ =>
      let part := part.getD []
      let exponent : Int := match exponent with
        | none => 0
        | some (negative, ds) => if negative then -(asciiNumber ds : Int) else asciiNumber ds
      .ok (.float (Decimal.decimal negative (asciiNumber (whole ++ part))
        (exponent - part.length)), cs)

/-- A word or a number at the front of a text. -/
def readScalar : Reader Json
  | 'n' :: 'u' :: 'l' :: 'l' :: rest => .ok (.null, rest)
  | 't' :: 'r' :: 'u' :: 'e' :: rest => .ok (.bool true, rest)
  | 'f' :: 'a' :: 'l' :: 's' :: 'e' :: rest => .ok (.bool false, rest)
  | 'N' :: 'a' :: 'N' :: rest => .ok (.float (0 / 0), rest)
  | 'I' :: 'n' :: 'f' :: 'i' :: 'n' :: 'i' :: 't' :: 'y' :: rest => .ok (.float (1 / 0), rest)
  | '-' :: 'I' :: 'n' :: 'f' :: 'i' :: 'n' :: 'i' :: 't' :: 'y' :: rest =>
    .ok (.float (-1 / 0), rest)
  | '-' :: rest => readNumber true rest
  | rest => readNumber false rest

mutual
/-- The value at the front of a text. -/
def readValue : (fuel : Nat) → Reader Json
  | 0, _ => .error .malformed
  | fuel + 1, cs =>
    match cs with
    | '"' :: rest => do
      let (s, rest) ← readString [] fuel rest
      .ok (.text s, rest)
    | '[' :: rest =>
      match skipBlanks rest with
      | ']' :: rest => .ok (.list [], rest)
      | rest => readItems [] fuel rest
    | '{' :: rest =>
      match skipBlanks rest with
      | '}' :: rest => .ok (.object [], rest)
      | rest => readFields [] fuel rest
    | rest => readScalar rest

/-- The items of a list from one item on; `taken` are the items so far, the last one first. -/
def readItems (taken : List Json) : (fuel : Nat) → Reader Json
  | 0, _ => .error .malformed
  | fuel + 1, cs => do
    let (item, rest) ← readValue fuel cs
    match skipBlanks rest with
    | ',' :: rest => readItems (item :: taken) fuel (skipBlanks rest)
    | ']' :: rest => .ok (.list (item :: taken).reverse, rest)
    | _ => .error .malformed

/-- The fields of an object from one field on; `taken` are the fields so far. -/
def readFields (taken : List (String × Json)) : (fuel : Nat) → Reader Json
  | 0, _ => .error .malformed
  | fuel + 1, cs =>
    match cs with
    | '"' :: rest => do
      let (name, rest) ← readString [] fuel rest
      match skipBlanks rest with
      | ':' :: rest => do
        let (value, rest) ← readValue fuel (skipBlanks rest)
        let taken := put name value taken
        match skipBlanks rest with
        | ',' :: rest => readFields taken fuel (skipBlanks rest)
        | '}' :: rest => .ok (.object taken, rest)
        | _ => .error .malformed
      | _ => .error .malformed
    | _ => .error .malformed
end

/-- The value that a text denotes. -/
def read (s : String) : Except ReadFault Json := do
  let cs := s.toList
  let (value, rest) ← readValue (2 * cs.length + 2) (skipBlanks cs)
  if (skipBlanks rest).isEmpty then .ok value else .error .malformed

end CardinalityAdvisor.Json
