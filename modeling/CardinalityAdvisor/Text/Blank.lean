/-!
# Blanks and plain words

Settings may be written with blanks around them and in capital letters. Blank are the white space
characters of all scripts together with the four separators of the ASCII control characters.

## Main definitions

* `isBlank`: whether a character is blank
* `strip`: a text without the blanks at its ends
* `foldCase`: a text with the letters A to Z in lower case

## Main results

* `isBlank_of_isWhitespace`: every white space character of ASCII is blank
-/

namespace CardinalityAdvisor.Text

/-- Whether a character is blank. -/
def isBlank (c : Char) : Bool :=
  let n := c.toNat
  (0x9 ≤ n && n ≤ 0xd) || (0x1c ≤ n && n ≤ 0x20) || n == 0x85 || n == 0xa0 || n == 0x1680 ||
    (0x2000 ≤ n && n ≤ 0x200a) || n == 0x2028 || n == 0x2029 || n == 0x202f || n == 0x205f ||
    n == 0x3000

/-- Every white space character of ASCII is blank. -/
theorem isBlank_of_isWhitespace {c : Char} (h : c.isWhitespace) : isBlank c := by
  simp only [Char.isWhitespace, Bool.or_eq_true, decide_eq_true_eq] at h
  rcases h with (((rfl | rfl) | rfl) | rfl) <;> decide

/-- The characters without those at both ends that satisfy the test. -/
def trimBy (drop : Char → Bool) (cs : List Char) : List Char :=
  ((cs.dropWhile drop).reverse.dropWhile drop).reverse

/-- A text without the blanks at its ends. -/
def strip (s : String) : String := String.ofList (trimBy isBlank s.toList)

/-- A text with the letters A to Z in lower case. Of the other letters none has an ASCII lower
case that occurs in the words which settings are compared with. -/
def foldCase (s : String) : String := String.ofList (s.toList.map Char.toLower)

end CardinalityAdvisor.Text
