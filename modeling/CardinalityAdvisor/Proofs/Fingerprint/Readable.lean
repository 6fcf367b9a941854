import CardinalityAdvisor.Fingerprint.Key
import CardinalityAdvisor.Proofs.ParseTree.Occurrence

/-!
# Trees that have a canonical form

## Main definitions

* `Json.CastShaped fields`: the attributes of a cast are an object

## Main results

* `Json.Everywhere.isReadable`: a tree has a canonical form if the attributes of all its casts are
  objects
-/

namespace CardinalityAdvisor.Json

/-- Whether the attributes of a cast are an object, if the fields are those of a cast. -/
def CastShaped (fields : List (String × Json)) : Prop :=
  ∀ value, fields = [("TypeCast", value)] → ∃ attributes, value = .object attributes

theorem argumentReadable_of_values {fields : List (String × Json)}
    (h : ∀ f ∈ fields, f.2.castsReadable = true) : argumentReadable fields = true := by
  induction fields with
  | nil => rfl
  | cons field rest ih =>
    obtain ⟨here, later⟩ := List.forall_mem_cons.mp h
    rw [argumentReadable]
    split
    · exact here
    · exact ih later

theorem castsReadable_other {tree : Json}
    (h : ∀ attributes, tree ≠ .object [("TypeCast", attributes)]) : tree.castsReadable = true := by
  unfold castsReadable
  split
  · rename_i tag value
    rw [Bool.or_eq_true, bne_iff_ne]
    refine .inl fun cast => ?_
    rw [cast] at h
    exact h value rfl
  · rfl

/-- Constants can be looked for behind all casts of a tree. -/
theorem Everywhere.castsReadable {tree : Json} (h : Everywhere CastShaped tree) :
    tree.castsReadable = true := by
  suffices tree.castsReadable = true ∧
      ∀ fields, tree = .object fields → argumentReadable fields = true from this.1
  induction tree using Json.induction with
  | list items => exact ⟨rfl, by simp⟩
  | object fields ih =>
    constructor
    · by_cases cast : ∃ value, fields = [("TypeCast", value)]
      · obtain ⟨value, rfl⟩ := cast
        obtain ⟨attributes, rfl⟩ := h.here value rfl
        have inside := (ih _ List.mem_cons_self (h.field List.mem_cons_self)).2 attributes rfl
        rw [Json.castsReadable, attributesReadable, inside, Bool.or_true]
      · apply castsReadable_other
        intro value same
        cases same
        exact cast ⟨value, rfl⟩
    · rintro _ ⟨⟩
      exact argumentReadable_of_values fun f member => (ih f member (h.field member)).1
  | other tree list object =>
    exact ⟨castsReadable_other fun _ => object _, fun fields same => absurd same (object fields)⟩

theorem itemsReadable_of_items {items : List Json}
    (h : ∀ item ∈ items, item.castsReadable = true) : itemsReadable items = true := by
  induction items with
  | nil => rfl
  | cons item rest ih =>
    obtain ⟨here, later⟩ := List.forall_mem_cons.mp h
    rw [itemsReadable, here, ih later, Bool.or_true, Bool.and_true]

theorem allReadable_of_items {items : List Json} (h : ∀ item ∈ items, item.isReadable = true) :
    allReadable items = true := by
  induction items with
  | nil => rfl
  | cons item rest ih =>
    obtain ⟨here, later⟩ := List.forall_mem_cons.mp h
    rw [allReadable, here, ih later, Bool.and_true]

theorem fieldsReadable_of_values {fields : List (String × Json)}
    (h : ∀ f ∈ fields, f.2.isReadable = true) : fieldsReadable fields = true := by
  induction fields with
  | nil => rfl
  | cons field rest ih =>
    obtain ⟨here, later⟩ := List.forall_mem_cons.mp h
    rw [fieldsReadable, here, ih later, Bool.or_true, Bool.and_true]

/-- **A tree has a canonical form** if the attributes of all its casts are objects. -/
theorem Everywhere.isReadable {tree : Json} (h : Everywhere CastShaped tree) :
    tree.isReadable = true := by
  induction tree using Json.induction with
  | list items ih =>
    have casts := itemsReadable_of_items fun item member => (h.item member).castsReadable
    have inside := allReadable_of_items fun item member => ih item member (h.item member)
    rw [Json.isReadable, casts, inside, Bool.or_true, Bool.and_true]
  | object fields ih =>
    have inside := fieldsReadable_of_values fun f member => ih f member (h.field member)
    rw [Json.isReadable, inside, Bool.or_true]
  | other tree list object =>
    unfold Json.isReadable
    split
    · exact absurd rfl (list _)
    · exact absurd rfl (object _)
    · rfl

theorem Everywhere.expressionKeyOf {tree : Json} (h : Everywhere CastShaped tree) :
    Fingerprint.expressionKeyOf tree = .ok (Fingerprint.expressionKey tree) := by
  rw [Fingerprint.expressionKeyOf, checkCasts, if_pos h.isReadable]
  rfl

end CardinalityAdvisor.Json
