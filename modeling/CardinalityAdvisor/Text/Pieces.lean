/-!
# Parts of texts

A text may stand inside another one, and it may be cut at a character.

## Main definitions

* `occursIn part whole`: whether a text is a part of another one
* `pieces separator cs`: the parts of a text between its separators

## Main results

* `occursIn_iff_isInfix`: a part is what stands between some front and some end
* `intercalate_pieces`: the parts with separators between them are the text again
-/

namespace CardinalityAdvisor.Text

/-- Whether `part` stands somewhere in `whole` without gaps. -/
def occursIn (part : List Char) : (whole : List Char) → Bool
  | [] => part.isEmpty
  | c :: cs => part.isPrefixOf (c :: cs) || occursIn part cs

/-- A part is what stands between some front and some end. -/
theorem occursIn_iff_isInfix {part whole : List Char} : occursIn part whole ↔ part <:+: whole := by
  induction whole with
  | nil => simp [occursIn]
  | cons c cs ih => simp [occursIn, List.infix_cons_iff, ih]

/-- The parts of a text between its separators. There is one part more than separators. -/
def pieces (separator : Char) : List Char → List (List Char)
  | [] => [[]]
  | c :: cs =>
    if c = separator then [] :: pieces separator cs
    else
      match pieces separator cs with
      | [] => [[c]]
      | piece :: rest => (c :: piece) :: rest

theorem pieces_ne_nil (separator : Char) (cs : List Char) : pieces separator cs ≠ [] := by
  cases cs with
  | nil => simp [pieces]
  | cons c cs =>
    unfold pieces
    split
    · simp
    · split <;> simp

/-- The parts with separators between them are the text again. -/
theorem intercalate_pieces (separator : Char) (cs : List Char) :
    [separator].intercalate (pieces separator cs) = cs := by
  induction cs with
  | nil => rfl
  | cons c cs ih =>
    obtain ⟨piece, rest, h⟩ := List.exists_cons_of_ne_nil (pieces_ne_nil separator cs)
    rw [h] at ih
    by_cases hc : c = separator
    · cases rest <;> simp_all [pieces, List.intercalate]
    · cases rest <;> simp_all [pieces, List.intercalate]

end CardinalityAdvisor.Text
