import CardinalityAdvisor.Text.Blank
import CardinalityAdvisor.Text.Digit

/-!
# Numbers read from texts

A number in a setting may be written in the digits of any script, with blanks around it, with a
sign, and with single underscores between its digits. A double may also have a decimal point and
an exponent, or be one of the words for infinity and NaN.

## Main definitions

* `digitRun`: the digits at the front of a text
* `decimal`: the double nearest to a decimal number
* `readInteger`: the integer that a text denotes
* `readDouble`: the double that a text denotes
-/

namespace CardinalityAdvisor.Decimal

open Text

/-- Blanks around a number. The four separators among the ASCII control characters do not count. -/
def isNumberBlank (c : Char) : Bool := isBlank c && !(0x1c ≤ c.toNat && c.toNat ≤ 0x1f)

/-- Whether a text begins with a digit. -/
def startsWithDigit : List Char → Bool
  | [] => false
  | c :: _ => (digitValue? c).isSome

/-- The digits at the front of a text and what follows them. An underscore is passed over if it
stands between two digits; `after` says whether a digit precedes. -/
def digitRun (after : Bool) : List Char → List Nat × List Char
  | [] => ([], [])
  | c :: cs =>
    match digitValue? c with
    | some v =>
      let (ds, rest) := digitRun true cs
      (v :: ds, rest)
    | none =>
      if c = '_' && after && startsWithDigit cs then digitRun false cs else ([], c :: cs)

/-- The number with the given digits, most significant first. -/
def ofDigits (ds : List Nat) : Nat := ds.foldl (fun n d => 10 * n + d) 0

/-- A text without the sign in front of it, and whether that is a minus sign. -/
def splitSign : List Char → Bool × List Char
  | '-' :: cs => (true, cs)
  | '+' :: cs => (false, cs)
  | cs => (false, cs)

/-- The double nearest to `± mantissa · 10 ^ exponent`. Exponents that lead beyond the largest or
below the least double are settled by the position of the first digit alone. -/
def decimal (negative : Bool) (mantissa : Nat) (exponent : Int) : Float :=
  let position : Int := (Nat.toDigits 10 mantissa).length + exponent
  let magnitude : Float :=
    if mantissa = 0 ∨ position < -330 then 0
    else if position > 310 then 1 / 0
    else if exponent < 0 then Float.ofScientific mantissa true exponent.natAbs
    else Float.ofScientific mantissa false exponent.natAbs
  if negative then -magnitude else magnitude

/-- Why a text denotes no integer. -/
inductive IntegerFault where
  /-- The text is not an integer. -/
  | malformed
  /-- The text has more digits than are converted. -/
  | tooLong (digits : Nat)
  deriving DecidableEq, Repr

/-- How many digits of an integer are converted at most. -/
def maxIntegerDigits : Nat := 4300

/-- The integer that a text denotes. -/
def readInteger (s : String) : Except IntegerFault Int :=
  let (negative, cs) := splitSign (trimBy isNumberBlank s.toList)
  let (ds, rest) := digitRun false cs
  if maxIntegerDigits < ds.length ∧ rest.head? ≠ some '_' then .error (.tooLong ds.length)
  else if ds.isEmpty ∨ ¬rest.isEmpty then .error .malformed
  else .ok (if negative then -(ofDigits ds : Int) else ofDigits ds)

/-- The exponent part of a number: nothing at all, or `e`, a sign and digits. -/
def readExponent : List Char → Option Int
  | [] => some 0
  | c :: cs =>
    if c = 'e' ∨ c = 'E' then
      let (negative, cs) := splitSign cs
      let (ds, rest) := digitRun false cs
      if ds.isEmpty ∨ ¬rest.isEmpty then none
      else some (if negative then -(ofDigits ds : Int) else ofDigits ds)
    else none

/-- The digits after the decimal point, if there is a point, and what follows them. -/
def readFraction : List Char → List Nat × List Char
  | '.' :: cs => digitRun false cs
  | cs => ([], cs)

/-- The double that a text without blanks and sign denotes. -/
def readMagnitude (negative : Bool) (cs : List Char) : Option Float :=
  let word := cs.map Char.toLower
  if word = "inf".toList ∨ word = "infinity".toList then some (if negative then -1 / 0 else 1 / 0)
  else if word = "nan".toList then some (0 / 0)
  else
    let (whole, cs) := digitRun false cs
    let (part, cs) := readFraction cs
    if whole.isEmpty ∧ part.isEmpty then none
    else
      (readExponent cs).map fun e => decimal negative (ofDigits (whole ++ part)) (e - part.length)

/-- The double that a text denotes. -/
def readDouble (s : String) : Option Float :=
  let (negative, cs) := splitSign (trimBy isNumberBlank s.toList)
  readMagnitude negative cs

end CardinalityAdvisor.Decimal
