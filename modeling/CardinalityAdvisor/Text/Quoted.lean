import CardinalityAdvisor.Text.Half
import CardinalityAdvisor.Text.Printable

/-!
# Quoted texts

Messages show a text that was given to the library between quotes. Single quotes are the rule; a
text that holds a single quote and no double quote stands between double quotes, so that nothing
has to be escaped. The quote itself and the backslash are escaped by a backslash, and characters
that cannot be printed are written by their number.

## Main definitions

* `hexDigits width n`: a number in hexadecimal digits
* `quoteOf s`: the quote in which a text is written
* `quoted s`: the quoted text
-/

namespace CardinalityAdvisor.Text

/-- The hexadecimal digit of a number below sixteen. -/
def hexDigit (n : Nat) : Char :=
  if n < 10 then Char.ofNat (48 + n) else Char.ofNat (87 + n)

/-- The last `width` hexadecimal digits of a number, in lower case. -/
def hexDigits : (width : Nat) → (n : Nat) → List Char
  | 0, _ => []
  | width + 1, n => hexDigits width (n / 16) ++ [hexDigit (n % 16)]

/-- The quote in which a text is written. -/
def quoteOf (cs : List Char) : Char :=
  if cs.contains '\'' && !cs.contains '"' then '"' else '\''

/-- What cannot be printed, by its number. -/
def numberEscape (n : Nat) : List Char :=
  if n < 0x100 then '\\' :: 'x' :: hexDigits 2 n
  else if n < 0x10000 then '\\' :: 'u' :: hexDigits 4 n
  else '\\' :: 'U' :: hexDigits 8 n

/-- A character inside a quoted text. -/
def quotedChar (quote c : Char) : List Char :=
  if c = quote ∨ c = '\\' then ['\\', c]
  else if c = '\n' then ['\\', 'n']
  else if c = '\r' then ['\\', 'r']
  else if c = '\t' then ['\\', 't']
  else if isPrintable c then [c]
  else numberEscape c.toNat

/-- A symbol inside a quoted text. Half of a surrogate pair cannot be printed. -/
def quotedSymbol (quote : Char) : Symbol → List Char
  | .char c => quotedChar quote c
  | .half n => numberEscape n

/-- A text between quotes. -/
def quoted (s : String) : String :=
  let quote := quoteOf s.toList
  String.ofList (quote :: (symbols s.toList).flatMap (quotedSymbol quote) ++ [quote])

example : quoted "it's" = "\"it's\"" ∧ quoted "a\\b\n" = "'a\\\\b\\n'" := by decide +kernel

end CardinalityAdvisor.Text
