/-!
# Halves of surrogate pairs

A text that is written in escapes can name one half of a surrogate pair without the other. Such a
half is no character, yet it has a number of its own by which it is shown. It is kept as a character
of the last private plane, whose number is 0x100000 above that of the half. A character whose place
is taken by a half is kept as the two halves of its own surrogate pair instead, which a text that is
read has side by side for no other reason.

## Main definitions

* `ofUnit n`: the character that is kept for a UTF-16 unit
* `isHalf c`: whether a character stands for a half
* `numberOf c`: the number by which a kept character is shown
* `kept c`, `joined? c d`: the characters that are kept for a character, and the way back
* `Symbol`: a character, or half of a surrogate pair that stands alone
* `symbols cs`: the symbols for which characters are kept
* `isWhole s`: no half of a surrogate pair stands alone in a text
* `written s`: a text with its characters themselves

## Main results

* `numberOf_ofUnit`: a unit is shown by its own number
-/

namespace CardinalityAdvisor.Text

/-- Whether a number is that of a half of a surrogate pair. -/
def isSurrogate (n : Nat) : Bool := 0xd800 ≤ n && n < 0xe000

/-- How far the character for a half is above the number of the half. -/
def halfOffset : Nat := 0x100000

/-- The character that is kept for a UTF-16 unit. -/
def ofUnit (n : Nat) : Char :=
  if isSurrogate n then Char.ofNat (halfOffset + n) else Char.ofNat n

/-- Whether a character stands for a half of a surrogate pair. -/
def isHalf (c : Char) : Bool := halfOffset ≤ c.toNat && isSurrogate (c.toNat - halfOffset)

/-- The number by which a kept character is shown. -/
def numberOf (c : Char) : Nat := if isHalf c then c.toNat - halfOffset else c.toNat

/-- The first half of the surrogate pair of a number above U+FFFF. -/
def highHalf (n : Nat) : Nat := 0xd800 + (n - 0x10000) / 0x400

/-- The second half of the surrogate pair of a number above U+FFFF. -/
def lowHalf (n : Nat) : Nat := 0xdc00 + (n - 0x10000) % 0x400

/-- The character of a surrogate pair. -/
def ofHalves (high low : Nat) : Char :=
  Char.ofNat (0x10000 + (high - 0xd800) * 0x400 + (low - 0xdc00))

/-- The characters that are kept for a character: itself, or the halves of its surrogate pair if its
place is taken by a half. -/
def kept (c : Char) : List Char :=
  if isHalf c then [ofUnit (highHalf c.toNat), ofUnit (lowHalf c.toNat)] else [c]

/-- The character for which two characters are kept. -/
def joined? (c d : Char) : Option Char :=
  let joined := ofHalves (numberOf c) (numberOf d)
  if isHalf c && kept joined == [c, d] then some joined else none

/-- What a text is made of. -/
inductive Symbol where
  /-- A character. -/
  | char (c : Char)
  /-- Half of a surrogate pair, which stands alone. -/
  | half (n : Nat)
  deriving DecidableEq, Repr

namespace Symbol

/-- The symbol that a UTF-16 unit stands for alone. -/
def ofUnit (n : Nat) : Symbol := if isSurrogate n then .half n else .char (Char.ofNat n)

/-- The characters that are kept for a symbol. -/
def kept : Symbol → List Char
  | .char c => Text.kept c
  | .half n => [Text.ofUnit n]

/-- The symbol for which a character is kept alone. -/
def ofKept (c : Char) : Symbol := if isHalf c then .half (numberOf c) else .char c

/-- A symbol as a character. -/
def char? : Symbol → Option Char
  | .char c => some c
  | .half _ => none

end Symbol

/-- The symbols for which characters are kept. -/
def symbols : List Char → List Symbol
  | [] => []
  | [c] => [.ofKept c]
  | c :: d :: rest =>
    match joined? c d with
    | some joined => .char joined :: symbols rest
    | none => .ofKept c :: symbols (d :: rest)

/-- Whether no half of a surrogate pair stands alone in a text. -/
def isWhole (s : String) : Bool := (symbols s.toList).all fun symbol => symbol.char?.isSome

/-- A text with its characters themselves, as it is written to the outside. Halves of surrogate
pairs that stand alone have no bytes there. -/
def written (s : String) : String := String.ofList ((symbols s.toList).filterMap Symbol.char?)

/-- A character made from a number has that number. -/
theorem toNat_ofNat {n : Nat} (h : n.isValidChar) : (Char.ofNat n).toNat = n := by
  rw [Char.ofNat, dif_pos h]
  rfl

/-- A unit is shown by its own number. -/
theorem numberOf_ofUnit {n : Nat} (h : n < 0x10000) : numberOf (ofUnit n) = n := by
  by_cases surrogate : isSurrogate n
  · have bounds : 0xd800 ≤ n ∧ n < 0xe000 := by simpa [isSurrogate] using surrogate
    have kept : (ofUnit n).toNat = halfOffset + n := by
      rw [ofUnit, if_pos surrogate]
      exact toNat_ofNat (by simp only [Nat.isValidChar, halfOffset]; omega)
    have half : isHalf (ofUnit n) = true := by
      rw [isHalf, kept, Nat.add_sub_cancel_left, surrogate, Bool.and_true, decide_eq_true_eq]
      exact Nat.le_add_right _ _
    rw [numberOf, if_pos half, kept, Nat.add_sub_cancel_left]
  · have bounds : ¬(0xd800 ≤ n ∧ n < 0xe000) := by simpa [isSurrogate] using surrogate
    have kept : (ofUnit n).toNat = n := by
      rw [ofUnit, if_neg surrogate]
      exact toNat_ofNat (by simp only [Nat.isValidChar]; omega)
    have whole : isHalf (ofUnit n) = false := by
      rw [isHalf, kept, Bool.and_eq_false_iff, decide_eq_false_iff_not]
      exact .inl fun le => absurd (Nat.lt_of_le_of_lt le h) (by decide)
    rw [numberOf, whole, if_neg Bool.false_ne_true, kept]

end CardinalityAdvisor.Text
