import CardinalityAdvisor.Json.Reader
import CardinalityAdvisor.Json.Writer
import Mathlib.Tactic.SplitIfs

/-!
# The UTF-16 units of a JSON string

A JSON string is written unit by unit, and its units are read back from the front of a text. A
character beyond U+FFFF is written as two units, the halves of a surrogate pair; a half that stands
alone is a unit like any other.

## Main definitions

* `Text.units s`: the UTF-16 units of a text
* `Json.unitText u`: a unit inside a JSON string

## Main results

* `Text.isWhole_iff`: a whole text is what is kept for characters
* `Text.units_inj`: whole texts are told by their units
* `Json.readUnitText_unitText`: a unit of a JSON string is read back
* `Json.string_eq`: a JSON string is written unit by unit
* `Json.string_append_inj`: the units of a JSON string are told by the front of a text
-/

namespace CardinalityAdvisor

/-! ## Kept characters -/

namespace Text

theorem numberOf_of_whole {c : Char} (whole : isHalf c = false) : numberOf c = c.toNat := by
  rw [numberOf, whole, if_neg Bool.false_ne_true]

/-- The halves of a surrogate pair are units. -/
theorem halves_lt {n : Nat} (valid : n.isValidChar) :
    highHalf n < 0x10000 ∧ lowHalf n < 0x10000 := by
  simp only [Nat.isValidChar] at valid
  simp only [highHalf, lowHalf]
  omega

/-- The halves of its surrogate pair tell a character. -/
theorem ofHalves_halves {c : Char} (large : 0x10000 ≤ c.toNat) :
    ofHalves (highHalf c.toNat) (lowHalf c.toNat) = c := by
  have number : 0x10000 + (highHalf c.toNat - 0xd800) * 0x400 + (lowHalf c.toNat - 0xdc00) =
      c.toNat := by
    simp only [highHalf, lowHalf]
    omega
  rw [ofHalves, number, Char.ofNat_toNat]

theorem large_of_isHalf {c : Char} (half : isHalf c = true) : 0x10000 ≤ c.toNat := by
  simp only [isHalf, Bool.and_eq_true, decide_eq_true_eq] at half
  exact Nat.le_trans (by decide) half.1

theorem isHalf_ofUnit_highHalf {n : Nat} (valid : n.isValidChar) :
    isHalf (ofUnit (highHalf n)) = true := by
  simp only [Nat.isValidChar] at valid
  have surrogate : isSurrogate (highHalf n) = true := by
    simp only [isSurrogate, Bool.and_eq_true, decide_eq_true_eq]
    rw [highHalf]
    omega
  have number : (ofUnit (highHalf n)).toNat = halfOffset + highHalf n := by
    rw [ofUnit, if_pos surrogate]
    refine toNat_ofNat ?_
    simp only [Nat.isValidChar, halfOffset, highHalf]
    omega
  rw [isHalf, number, Nat.add_sub_cancel_left, surrogate, Bool.and_true, decide_eq_true_eq]
  exact Nat.le_add_right _ _

/-- Two characters are joined iff they are kept for one. -/
theorem joined?_eq_some_iff {c d joined : Char} :
    joined? c d = some joined ↔ kept joined = [c, d] := by
  constructor
  · intro h
    simp only [joined?, Option.ite_none_right_eq_some, Bool.and_eq_true, beq_iff_eq,
      Option.some.injEq] at h
    exact h.2 ▸ h.1.2
  · intro h
    have both := h
    rw [kept] at both
    split at both
    case isFalse => cases both
    case isTrue half =>
      have large := large_of_isHalf half
      have small : highHalf joined.toNat < 0x10000 ∧ lowHalf joined.toNat < 0x10000 :=
        halves_lt joined.valid
      have first : isHalf (ofUnit (highHalf joined.toNat)) = true :=
        isHalf_ofUnit_highHalf joined.valid
      simp only [List.cons.injEq, and_true] at both
      obtain ⟨rfl, rfl⟩ := both
      rw [joined?, numberOf_ofUnit small.1, numberOf_ofUnit small.2, ofHalves_halves large, h,
        first, beq_self_eq_true, Bool.and_self, if_pos rfl]

/-- A character that stands for itself is kept as it is. -/
theorem kept_of_ofKept {c : Char} (whole : (Symbol.ofKept c).char?.isSome = true) :
    kept c = [c] := by
  rw [Symbol.ofKept] at whole
  split at whole
  case isTrue => cases whole
  case isFalse half => exact if_neg half

/-- The characters of a text are told by what is kept for them. -/
theorem symbols_flatMap_kept (cs : List Char) : symbols (cs.flatMap kept) = cs.map .char := by
  induction cs with
  | nil => rfl
  | cons c cs ih =>
    rw [List.flatMap_cons, List.map_cons, ← ih]
    by_cases half : isHalf c = true
    · have pair : kept c = [ofUnit (highHalf c.toNat), ofUnit (lowHalf c.toNat)] := if_pos half
      rw [pair, List.cons_append, List.cons_append, List.nil_append, symbols,
        joined?_eq_some_iff.mpr pair]
    · have single : kept c = [c] := if_neg half
      have alone : Symbol.ofKept c = .char c := if_neg half
      rw [single, List.cons_append, List.nil_append]
      cases cs.flatMap kept with
      | nil => rw [symbols, symbols, alone]
      | cons d rest =>
        have apart : joined? c d = none := by simp [joined?, half]
        rw [symbols, apart, alone]

/-- **A whole text** is what is kept for characters. -/
theorem isWhole_iff {s : String} :
    isWhole s = true ↔ ∃ cs : List Char, s.toList = cs.flatMap kept := by
  rw [isWhole]
  generalize s.toList = ks
  constructor
  · intro whole
    induction ks using symbols.induct with
    | case1 => exact ⟨[], rfl⟩
    | case2 c =>
      rw [symbols, List.all_cons, Bool.and_eq_true] at whole
      exact ⟨[c], by rw [List.flatMap_singleton, kept_of_ofKept whole.1]⟩
    | case3 c d rest joined pair ih =>
      rw [symbols, pair, List.all_cons, Bool.and_eq_true] at whole
      obtain ⟨cs, rfl⟩ := ih whole.2
      exact ⟨joined :: cs, by rw [List.flatMap_cons, joined?_eq_some_iff.mp pair]; rfl⟩
    | case4 c d rest apart ih =>
      rw [symbols, apart, List.all_cons, Bool.and_eq_true] at whole
      obtain ⟨cs, later⟩ := ih whole.2
      exact ⟨c :: cs, by rw [List.flatMap_cons, kept_of_ofKept whole.1, later]; rfl⟩
  · rintro ⟨cs, rfl⟩
    rw [symbols_flatMap_kept, List.all_map]
    exact List.all_eq_true.mpr fun _ _ => rfl

/-! ## Units -/

/-- The one or two UTF-16 units of a kept character. Half of a surrogate pair is one unit. -/
def unitsOf (c : Char) : List Nat :=
  let n := numberOf c
  if n < 0x10000 then [n] else [highHalf n, lowHalf n]

/-- The UTF-16 units of a text. -/
def units (s : String) : List Nat := s.toList.flatMap unitsOf

/-- The one or two UTF-16 units of a character. -/
def utf16 (c : Char) : List Nat :=
  if c.toNat < 0x10000 then [c.toNat] else [highHalf c.toNat, lowHalf c.toNat]

theorem utf16_ne_nil (c : Char) : utf16 c ≠ [] := by
  rw [utf16]
  split_ifs <;> exact List.cons_ne_nil _ _

/-- What is kept for a character has the units of the character. -/
theorem flatMap_unitsOf_kept (c : Char) : (kept c).flatMap unitsOf = utf16 c := by
  rw [kept]
  split_ifs with half
  · have large := large_of_isHalf half
    have small : highHalf c.toNat < 0x10000 ∧ lowHalf c.toNat < 0x10000 := halves_lt c.valid
    rw [List.flatMap_cons, List.flatMap_singleton, unitsOf, unitsOf, numberOf_ofUnit small.1,
      numberOf_ofUnit small.2, if_pos small.1, if_pos small.2, utf16, if_neg (Nat.not_lt.mpr large)]
    rfl
  · rw [List.flatMap_singleton, unitsOf, numberOf_of_whole (Bool.eq_false_iff.mpr half), utf16]

/-- The units of a character are below 0x10000. -/
theorem lt_of_mem_unitsOf {c : Char} : ∀ u ∈ unitsOf c, u < 0x10000 := by
  have valid : c.toNat.isValidChar := c.valid
  have bound : numberOf c ≤ c.toNat := by
    rw [numberOf]
    split
    · exact Nat.sub_le _ _
    · exact Nat.le_refl _
  simp only [Nat.isValidChar] at valid
  rw [unitsOf]
  split_ifs with small
  · simpa using small
  · simp only [highHalf, lowHalf, List.forall_mem_cons, List.not_mem_nil, false_implies,
      implies_true, and_true]
    omega

/-- A character is told by the front of a list of units. -/
theorem utf16_append_inj {c d : Char} {rest rest' : List Nat}
    (h : utf16 c ++ rest = utf16 d ++ rest') : c = d ∧ rest = rest' := by
  have validC : c.toNat.isValidChar := c.valid
  have validD : d.toNat.isValidChar := d.valid
  simp only [Nat.isValidChar] at validC validD
  rw [utf16, utf16] at h
  suffices c.toNat = d.toNat ∧ rest = rest' from
    ⟨by rw [← Char.ofNat_toNat c, this.1, Char.ofNat_toNat], this.2⟩
  by_cases smallC : c.toNat < 0x10000 <;> by_cases smallD : d.toNat < 0x10000 <;>
    simp only [smallC, smallD, if_true, if_false, highHalf, lowHalf, List.cons_append,
      List.nil_append, List.cons.injEq] at h
  · exact h
  · omega
  · omega
  · exact ⟨by omega, h.2.2⟩

/-- Characters are told by their units. -/
theorem flatMap_utf16_inj {cs ds : List Char} (h : cs.flatMap utf16 = ds.flatMap utf16) :
    cs = ds := by
  induction cs generalizing ds with
  | nil =>
    cases ds with
    | nil => rfl
    | cons d ds => exact absurd (List.append_eq_nil_iff.mp h.symm).1 (utf16_ne_nil d)
  | cons c cs ih =>
    cases ds with
    | nil => exact absurd (List.append_eq_nil_iff.mp h).1 (utf16_ne_nil c)
    | cons d ds =>
      obtain ⟨rfl, later⟩ := utf16_append_inj h
      rw [ih later]

/-- Whole texts are told by their units. -/
theorem units_inj {s s' : String} (hs : isWhole s = true) (hs' : isWhole s' = true)
    (h : units s = units s') : s = s' := by
  obtain ⟨cs, written⟩ := isWhole_iff.mp hs
  obtain ⟨ds, written'⟩ := isWhole_iff.mp hs'
  rw [units, units, written, written', List.flatMap_assoc, List.flatMap_assoc,
    funext flatMap_unitsOf_kept] at h
  rw [← String.toList_inj, written, written', flatMap_utf16_inj h]

end Text

namespace Json

/-! ## Strings -/

/-- A UTF-16 unit inside a JSON string. -/
def unitText (u : Nat) : List Char :=
  if u = 0x22 then ['\\', '"']
  else if u = 0x5c then ['\\', '\\']
  else if u = 0x0a then ['\\', 'n']
  else if u = 0x0d then ['\\', 'r']
  else if u = 0x09 then ['\\', 't']
  else if u = 0x08 then ['\\', 'b']
  else if u = 0x0c then ['\\', 'f']
  else if 0x20 ≤ u ∧ u < 0x7f then [Char.ofNat u]
  else unitEscape u

/-- The unit at the front of the rest of a JSON string, if the string does not end there. -/
def readUnitText : List Char → Option (Nat × List Char)
  | '"' :: _ => none
  | '\\' :: 'u' :: rest => readUnit rest
  | '\\' :: letter :: rest => (shortEscape? letter).map fun c => (c.toNat, rest)
  | c :: rest => some (c.toNat, rest)
  | [] => none

theorem hexValue?_hexDigit : ∀ d < 16, hexValue? (Text.hexDigit d) = some d := by decide

/-- The digits of a unit are read back. -/
theorem readUnit_hexDigits {u : Nat} (small : u < 0x10000) (rest : List Char) :
    readUnit (Text.hexDigits 4 u ++ rest) = some (u, rest) := by
  have digits : Text.hexDigits 4 u = [Text.hexDigit (u / 16 / 16 / 16 % 16),
      Text.hexDigit (u / 16 / 16 % 16), Text.hexDigit (u / 16 % 16), Text.hexDigit (u % 16)] := rfl
  have value (m : Nat) : hexValue? (Text.hexDigit (m % 16)) = some (m % 16) :=
    hexValue?_hexDigit _ (Nat.mod_lt _ (by decide))
  rw [digits]
  simp only [List.cons_append, List.nil_append, readUnit, value, Option.bind_eq_bind,
    Option.bind_some, Option.some.injEq, Prod.mk.injEq, and_true]
  omega

/-- A unit of a string is read back. -/
theorem readUnitText_unitText {u : Nat} (small : u < 0x10000) (rest : List Char) :
    readUnitText (unitText u ++ rest) = some (u, rest) := by
  unfold unitText
  split_ifs with quote backslash newline carriage tab backspace feed plain
  · exact quote ▸ rfl
  · exact backslash ▸ rfl
  · exact newline ▸ rfl
  · exact carriage ▸ rfl
  · exact tab ▸ rfl
  · exact backspace ▸ rfl
  · exact feed ▸ rfl
  · have number : (Char.ofNat u).toNat = u :=
      Text.toNat_ofNat (by simp only [Nat.isValidChar]; omega)
    have noQuote : Char.ofNat u ≠ '"' := fun same => quote (number ▸ same ▸ rfl)
    have noBackslash : Char.ofNat u ≠ '\\' := fun same => backslash (number ▸ same ▸ rfl)
    rw [List.cons_append, List.nil_append, readUnitText, number]
    · exact noQuote
    · exact fun _ same => absurd same noBackslash
    · exact fun _ _ same => absurd same noBackslash
  · exact readUnit_hexDigits small rest

theorem unitText_of_ge {u : Nat} (h : 0x7f ≤ u) : unitText u = unitEscape u := by
  unfold unitText
  split_ifs <;> first | omega | rfl

/-- A character of a string is written by its units. -/
theorem escaped_eq (c : Char) : escaped .ascii c = (Text.unitsOf c).flatMap unitText := by
  have ascii : ∀ n < 0x7f, escaped .ascii (Char.ofNat n) =
      (Text.unitsOf (Char.ofNat n)).flatMap unitText := by decide
  -- The short escapes are all below this bound, where every character is looked at.
  by_cases small : c.toNat < 0x7f
  · rw [← Char.ofNat_toNat c]
    exact ascii _ small
  · have special (d : Char) (low : d.toNat < 0x7f) : c ≠ d := fun same => small (same ▸ low)
    have plain : Charset.plain .ascii c = false := by
      rw [Charset.plain, Bool.and_eq_false_iff, decide_eq_false_iff_not, decide_eq_false_iff_not]
      exact .inr small
    have number : 0x7f ≤ Text.numberOf c := by
      rw [Text.numberOf]
      split
      case isTrue half =>
        simp only [Text.isHalf, Text.isSurrogate, Bool.and_eq_true, decide_eq_true_eq] at half
        omega
      case isFalse => exact Nat.le_of_not_lt small
    have written : escaped .ascii c = unitEscapes c := by
      simp [escaped, special, plain]
    rw [written, unitEscapes, Text.unitsOf]
    split_ifs
    · rw [List.flatMap_singleton, unitText_of_ge number]
    · have high : 0x7f ≤ Text.highHalf (Text.numberOf c) := Nat.le_add_right_of_le (by decide)
      have low : 0x7f ≤ Text.lowHalf (Text.numberOf c) := Nat.le_add_right_of_le (by decide)
      rw [List.flatMap_cons, List.flatMap_singleton, unitText_of_ge high, unitText_of_ge low]

/-- A string is written by its units. -/
theorem string_eq (s : String) :
    string .ascii s = '"' :: (Text.units s).flatMap unitText ++ ['"'] := by
  rw [string, Text.units, List.flatMap_assoc, funext escaped_eq]

/-- The units of a string are told by the front of a text. -/
theorem string_append_inj {s s' : String} {rest rest' : List Char}
    (h : string .ascii s ++ rest = string .ascii s' ++ rest') :
    Text.units s = Text.units s' ∧ rest = rest' := by
  have small (s : String) : ∀ u ∈ Text.units s, u < 0x10000 := fun u member =>
    have ⟨_, _, inside⟩ := List.mem_flatMap.mp member
    Text.lt_of_mem_unitsOf u inside
  simp only [string_eq, List.cons_append, List.append_assoc, List.nil_append, List.cons.injEq,
    true_and] at h
  have hs := small s
  have hs' := small s'
  generalize Text.units s = us at hs h
  generalize Text.units s' = vs at hs' h
  induction us generalizing vs with
  | nil =>
    cases vs with
    | nil => exact ⟨rfl, (List.cons.inj h).2⟩
    | cons v vs =>
      have read := readUnitText_unitText (hs' v List.mem_cons_self)
        (vs.flatMap unitText ++ '"' :: rest')
      rw [← List.append_assoc, ← List.flatMap_cons, ← h] at read
      cases read
  | cons u us ih =>
    have read := readUnitText_unitText (hs u List.mem_cons_self)
      (us.flatMap unitText ++ '"' :: rest)
    rw [← List.append_assoc, ← List.flatMap_cons, h] at read
    cases vs with
    | nil => cases read
    | cons v vs =>
      rw [List.flatMap_cons, List.append_assoc,
        readUnitText_unitText (hs' v List.mem_cons_self), Option.some.injEq, Prod.mk.injEq] at read
      rw [List.forall_mem_cons] at hs hs'
      obtain ⟨rfl, later⟩ := read
      obtain ⟨rfl, last⟩ := ih hs.2 vs hs'.2 later.symm
      exact ⟨rfl, last⟩

end Json

end CardinalityAdvisor
