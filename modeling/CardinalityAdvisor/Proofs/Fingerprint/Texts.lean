import CardinalityAdvisor.Fingerprint.Key
import CardinalityAdvisor.Proofs.Json.KeyOrder

/-!
# Texts that are digested

The text of a multiset lists its members in ascending order, so it says which members there are and
how often, and nothing about their order.

## Main definitions

* `NoCollision text text'`: two texts have the same digest only if they are the same

## Main results

* `multisetText_eq_iff`: two multisets have the same text exactly if their members are the same
* `sampleText_inj`: the text of the key of a sample says what it was made of
-/

namespace CardinalityAdvisor

/-! ## Texts of numbers -/

theorem Decimal.digitsOf_inj {m n : Nat} (h : digitsOf m = digitsOf n) : m = n := by
  have read : Nat.ofDigitChars 10 (digitsOf m) 0 = Nat.ofDigitChars 10 (digitsOf n) 0 := by rw [h]
  rwa [digitsOf, digitsOf, Nat.ofDigitChars_toDigits (by decide) (by decide),
    Nat.ofDigitChars_toDigits (by decide) (by decide)] at read

theorem Decimal.isDigit_of_mem_digitsOf {n : Nat} {c : Char} (h : c ∈ digitsOf n) :
    c.isDigit = true := Nat.isDigit_of_mem_toDigits (by decide) (by decide) h

theorem Decimal.digitsOf_ne_nil (n : Nat) : digitsOf n ≠ [] := Nat.toDigits_ne_nil

namespace Json

theorem integerText_ne_nil (i : Int) : integerText i ≠ [] := by
  unfold integerText
  split
  · exact List.cons_ne_nil _ _
  · exact Decimal.digitsOf_ne_nil _

/-- A number is written with digits and a sign. -/
theorem comma_not_mem_integerText (i : Int) : ',' ∉ integerText i := by
  have digits (n : Nat) : ',' ∉ Decimal.digitsOf n := by
    intro member
    have digit := Decimal.isDigit_of_mem_digitsOf member
    revert digit
    decide
  unfold integerText
  split
  · rw [List.mem_cons, not_or]
    exact ⟨by decide, digits _⟩
  · exact digits _

theorem integerText_inj {i j : Int} (h : integerText i = integerText j) : i = j := by
  have sign (m n : Nat) : '-' :: Decimal.digitsOf m ≠ Decimal.digitsOf n := by
    intro same
    have digit := Decimal.isDigit_of_mem_digitsOf (same ▸ List.mem_cons_self : '-' ∈ _)
    revert digit
    decide
  unfold integerText at h
  split at h
  · split at h
    · have same := Decimal.digitsOf_inj (List.cons.inj h).2
      omega
    · exact absurd h (sign _ _)
  · split at h
    · exact absurd h.symm (sign _ _)
    · have same := Decimal.digitsOf_inj h
      omega

theorem commaSeparated_ne_nil {texts : List (List Char)} (some : texts ≠ [])
    (written : ∀ text ∈ texts, text ≠ []) : commaSeparated texts ≠ [] := by
  match texts with
  | [] => exact absurd rfl some
  | [single] => simpa [commaSeparated, List.intercalate] using written single
  | first :: second :: rest => simp [commaSeparated, List.intercalate]

/-- Texts without commas can be read off a row of them. -/
theorem commaSeparated_inj {texts texts' : List (List Char)}
    (h : commaSeparated texts = commaSeparated texts') (some : texts ≠ []) (some' : texts' ≠ [])
    (clean : ∀ text ∈ texts, ',' ∉ text) (clean' : ∀ text ∈ texts', ',' ∉ text) :
    texts = texts' := by
  rw [← List.splitOn_intercalate ',' clean some, ← List.splitOn_intercalate ',' clean' some']
  exact congrArg _ h

/-- Numbers can be read off a row of them. -/
theorem commaSeparated_integerText_inj {xs ys : List Int}
    (h : commaSeparated (xs.map integerText) = commaSeparated (ys.map integerText)) : xs = ys := by
  have written (zs : List Int) : ∀ text ∈ zs.map integerText, text ≠ [] := by
    intro text member
    obtain ⟨i, -, rfl⟩ := List.mem_map.mp member
    exact integerText_ne_nil i
  have clean (zs : List Int) : ∀ text ∈ zs.map integerText, ',' ∉ text := by
    intro text member
    obtain ⟨i, -, rfl⟩ := List.mem_map.mp member
    exact comma_not_mem_integerText i
  have injective : Function.Injective integerText := fun _ _ => integerText_inj
  apply List.map_injective_iff.mpr injective
  cases xs with
  | nil =>
    cases ys with
    | nil => rfl
    | cons y ys => exact absurd h.symm (commaSeparated_ne_nil (by simp) (written _))
  | cons x xs =>
    cases ys with
    | nil => exact absurd h (commaSeparated_ne_nil (by simp) (written _))
    | cons y ys => exact commaSeparated_inj h (by simp) (by simp) (clean _) (clean _)

end Json

namespace Fingerprint

/-- Two texts have the same digest only if they are the same. -/
def NoCollision (text text' : List Char) : Prop := digestOf text = digestOf text' → text = text'

/-! ## Multisets -/

/-- Numbers in ascending order depend only on which numbers there are, and how often. -/
theorem sortBy_ascending_eq_iff {xs ys : List Int} :
    sortBy ascending xs = sortBy ascending ys ↔ xs.Perm ys := by
  have total (a b : Int) : ascending a b = true ∨ ascending b a = true := by
    simp only [ascending, decide_eq_true_eq]
    omega
  have trans (a b c : Int) (ab : ascending a b = true) (bc : ascending b c = true) :
      ascending a c = true := by
    simp only [ascending, decide_eq_true_eq] at ab bc ⊢
    omega
  constructor
  · intro same
    have left := sortBy_perm ascending xs
    rw [same] at left
    exact left.symm.trans (sortBy_perm ascending ys)
  · intro perm
    have sorted := ((sortBy_perm ascending xs).trans perm).trans (sortBy_perm ascending ys).symm
    refine sorted.eq_of_pairwise ?_ (sortBy_pairwise total trans _) (sortBy_pairwise total trans _)
    intro a b _ _ ab ba
    simp only [ascending, decide_eq_true_eq] at ab ba
    omega

/-- **The text of a multiset** says which members there are and how often. -/
theorem multisetText_eq_iff {xs ys : List Int} :
    multisetText xs = multisetText ys ↔ xs.Perm ys := by
  rw [← sortBy_ascending_eq_iff]
  constructor
  · intro same
    have inner := List.append_cancel_right (List.cons.inj same).2
    exact Json.commaSeparated_integerText_inj inner
  · intro same
    rw [multisetText, multisetText, same]

theorem multisetKey_of_perm {xs ys : List Int} (h : xs.Perm ys) :
    multisetKey xs = multisetKey ys := by
  rw [multisetKey, multisetKey, multisetText_eq_iff.mpr h]

/-- The key of a sample depends on its relations and clauses only as multisets. -/
theorem sampleText_of_perm (space : Int) {relations relations' clauses clauses' : List Int}
    (h : relations.Perm relations') (h' : clauses.Perm clauses') :
    sampleText space relations clauses = sampleText space relations' clauses' := by
  rw [sampleText, sampleText, multisetKey_of_perm h, multisetKey_of_perm h']

/-- The text of the key of a sample says what it was made of. -/
theorem sampleText_inj {space space' : Int} {relations relations' clauses clauses' : List Int}
    (h : sampleText space relations clauses = sampleText space' relations' clauses') :
    space = space' ∧ multisetKey relations = multisetKey relations' ∧
      multisetKey clauses = multisetKey clauses' := by
  have clean (space a b : Int) : ∀ text ∈ ["fss".toList, Json.integerText space,
      Json.integerText a, Json.integerText b], ',' ∉ text := by
    simp [Json.comma_not_mem_integerText]
  have inner := Json.commaSeparated_inj (List.append_cancel_right (List.cons.inj h).2) (by simp)
    (by simp) (clean _ _ _) (clean _ _ _)
  simp only [List.cons.injEq, true_and, and_true] at inner
  obtain ⟨spaces, relations, clauses⟩ := inner
  exact ⟨Json.integerText_inj spaces, Json.integerText_inj relations, Json.integerText_inj clauses⟩

end Fingerprint

end CardinalityAdvisor
