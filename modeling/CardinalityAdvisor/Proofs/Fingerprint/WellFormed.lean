import CardinalityAdvisor.Proofs.Fingerprint.Readable
import CardinalityAdvisor.Proofs.Json.KeyOrder

/-!
# Canonical forms of well-formed trees

In a well-formed tree constants and casts stand alone, so an object is recognized as a constant or
as a cast by what is found under a name, and its canonical form can be described name by name.

## Main definitions

* `Json.NodeShaped fields`: the fields of an object that may stand in a tree
* `Json.WellFormed tree`: a tree whose objects all have the shape of a node
* `Json.canonicalAttribute`: what stands in a canonical form for the value of a field

## Main results

* `Json.canonical_constants`, `Json.canonical_list`, `Json.canonical_object`,
  `Json.canonical_other`: the canonical form of every kind of tree
* `Json.same_canonical_object_iff`: when two objects have the same canonical form
-/

namespace CardinalityAdvisor

namespace Json

/-- The fields of an object that may stand in a tree: each has a name of its own, a constant and a
cast have no field besides, and the value of a cast is an object. -/
structure NodeShaped (fields : List (String × Json)) : Prop where
  distinct : (fields.map Prod.fst).Nodup
  alone : ∀ tag ∈ ["A_Const", "TypeCast"], tag ∈ fields.map Prod.fst →
    fields.map Prod.fst = [tag]
  cast : ∀ f ∈ fields, f.1 = "TypeCast" → ∃ attributes, f.2 = .object attributes

/-- A tree whose objects all have the shape of a node. -/
def WellFormed (tree : Json) : Prop := Everywhere NodeShaped tree

theorem WellFormed.castShaped {tree : Json} (h : WellFormed tree) : Everywhere CastShaped tree := by
  refine h.mono ?_
  rintro _ shaped value rfl
  exact shaped.cast _ List.mem_cons_self rfl

instance (tree : Json) : Decidable (∃ attributes, tree = .object attributes) :=
  match tree with
  | .object attributes => isTrue ⟨attributes, rfl⟩
  | .null | .bool _ | .int _ | .float _ | .text _ | .list _ => isFalse (by simp)

instance : DecidablePred NodeShaped := fun fields =>
  decidable_of_iff ((fields.map Prod.fst).Nodup ∧
      (∀ tag ∈ ["A_Const", "TypeCast"], tag ∈ fields.map Prod.fst →
        fields.map Prod.fst = [tag]) ∧
      ∀ f ∈ fields, f.1 = "TypeCast" → ∃ attributes, f.2 = .object attributes)
    ⟨fun ⟨distinct, alone, cast⟩ => ⟨distinct, alone, cast⟩,
      fun ⟨distinct, alone, cast⟩ => ⟨distinct, alone, cast⟩⟩

instance (tree : Json) : Decidable (WellFormed tree) :=
  inferInstanceAs (Decidable (Everywhere NodeShaped tree))

/-! ## Fields of nodes -/

section Fields

variable {fs gs : List (String × Json)} {name tag : String} {value : Json}

/-- A constant or a cast has no field besides. -/
theorem NodeShaped.eq_singleton (h : NodeShaped fs) (tagged : tag ∈ ["A_Const", "TypeCast"])
    (found : fs.lookup tag = some value) : fs = [(tag, value)] := by
  have member : (tag, value) ∈ fs := (lookup_eq_some_iff h.distinct).mp found
  have names : fs.map Prod.fst = [tag] := h.alone tag tagged (List.mem_map.mpr ⟨_, member, rfl⟩)
  obtain ⟨f, rfl⟩ := List.length_eq_one_iff.mp (by simpa using congrArg List.length names)
  rw [List.mem_singleton.mp member]

/-- Another value in place of one changes what a map of the values finds only if the map tells the
two values apart. -/
theorem lookup_replaced {α : Type} {x y : Json} {view : Json → α} (same : view x = view y)
    (before after : List (String × Json)) (name other : String) :
    ((before ++ (name, x) :: after).lookup other).map view =
      ((before ++ (name, y) :: after).lookup other).map view := by
  rw [List.lookup_append, List.lookup_append]
  by_cases here : other = name
  · subst here
    rw [lookup_cons_self (other, x), lookup_cons_self (other, y)]
    cases before.lookup other with
    | none => exact congrArg some same
    | some found => rfl
  · rw [lookup_cons_of_ne (by exact here), lookup_cons_of_ne (by exact here)]

theorem NodeShaped.isConstant (h : NodeShaped fs) : (object fs).isConstant =
    ((fs.lookup "A_Const").isSome || (fs.lookup "TypeCast").any castsConstant) := by
  cases constant : fs.lookup "A_Const" with
  | some value =>
    rw [h.eq_singleton (by simp) constant, Json.isConstant]
    rfl
  | none =>
    cases cast : fs.lookup "TypeCast" with
    | some value =>
      rw [h.eq_singleton (by simp) cast, Json.isConstant]
      rfl
    | none =>
      unfold Json.isConstant
      split
      · rename_i only value same
        cases same
        have notConstant : only ≠ "A_Const" := by
          rintro rfl
          rw [lookup_cons_self ("A_Const", value)] at constant
          cases constant
        have notCast : only ≠ "TypeCast" := by
          rintro rfl
          rw [lookup_cons_self ("TypeCast", value)] at cast
          cases cast
        simp [notConstant, notCast]
      · rfl

theorem argumentIsConstant_eq (fs : List (String × Json)) :
    argumentIsConstant fs = (fs.lookup "arg").any Json.isConstant := by
  induction fs with
  | nil => rfl
  | cons f rest ih =>
    rw [argumentIsConstant]
    by_cases here : f.1 = "arg"
    · rw [if_pos (beq_iff_eq.mpr here), ← here, lookup_cons_self, Option.any_some]
    · have other : "arg" ≠ f.1 := fun same => here same.symm
      rw [if_neg (mt beq_iff_eq.mp here), lookup_cons_of_ne other, ih]

variable {before after : List (String × Json)} {x y : Json}

/-- Another value may stand in a node, but in a cast only an object. -/
theorem WellFormed.replaced (shaped : WellFormed (.object (before ++ (name, x) :: after)))
    (hy : WellFormed y) (cast : name = "TypeCast" → ∃ attributes, y = .object attributes) :
    WellFormed (.object (before ++ (name, y) :: after)) := by
  have names : (before ++ (name, y) :: after).map Prod.fst =
      (before ++ (name, x) :: after).map Prod.fst := by
    rw [List.map_append, List.map_append, List.map_cons, List.map_cons]
  have other {f : String × Json} (member : f ∈ before ++ (name, y) :: after) :
      f = (name, y) ∨ f ∈ before ++ (name, x) :: after := by
    rw [List.mem_append, List.mem_cons] at member ⊢
    tauto
  refine everywhere_object.mpr ⟨⟨?_, ?_, ?_⟩, ?_⟩
  · rw [names]
    exact shaped.here.distinct
  · rw [names]
    exact shaped.here.alone
  · intro f member
    rcases other member with rfl | member
    · exact cast
    · exact shaped.here.cast f member
  · intro f member
    rcases other member with rfl | member
    · exact hy
    · exact shaped.field member

end Fields

/-! ## Canonical forms of lists and objects -/

section Canonical

variable {fs gs : List (String × Json)} {items : List Json}

theorem canonicalItems_eq (replace : Json → Option Json) (items : List Json) :
    canonicalItems replace items = items.map (canonicalWith replace) := by
  induction items with
  | nil => rfl
  | cons item rest ih => rw [canonicalItems, ih, List.map_cons]

theorem canonicalFields_eq (replace : Json → Option Json) (fs : List (String × Json)) :
    canonicalFields replace fs =
      (fs.filter fun f => !isErased f.1).map fun f => (f.1, canonicalWith replace f.2) := by
  induction fs with
  | nil => rfl
  | cons f rest ih =>
    rw [canonicalFields, ih, List.filter_cons]
    cases isErased f.1 <;> rfl

section Replaced

variable (replace : Json → Option Json)

theorem canonicalWith_constants (nonempty : items ≠ [])
    (constant : ∀ x ∈ items, x.isConstant = true) :
    canonicalWith replace (.list items) = .list [erasedConstant] := by
  rw [canonicalWith, if_pos]
  rw [Bool.and_eq_true, List.all_eq_true]
  exact ⟨by simpa using nonempty, constant⟩

theorem canonicalWith_list (mixed : ¬(items ≠ [] ∧ ∀ x ∈ items, x.isConstant = true)) :
    canonicalWith replace (.list items) = .list (items.map (canonicalWith replace)) := by
  rw [canonicalWith, if_neg, canonicalItems_eq]
  rw [Bool.and_eq_true, List.all_eq_true]
  simpa using mixed

/-- Lists have the same canonical form if one item is replaced by another one with the same
canonical form, and both are constants or none is. -/
theorem same_canonicalWith_item {x y : Json} (constant : x.isConstant = y.isConstant)
    (same : Same (canonicalWith replace x) (canonicalWith replace y)) (before after : List Json) :
    Same (canonicalWith replace (.list (before ++ x :: after)))
      (canonicalWith replace (.list (before ++ y :: after))) := by
  have constants : (∀ z ∈ before ++ x :: after, z.isConstant = true) ↔
      ∀ z ∈ before ++ y :: after, z.isConstant = true := by
    simp only [List.mem_append, List.mem_cons, or_imp, forall_and, forall_eq, constant]
  by_cases all : ∀ z ∈ before ++ x :: after, z.isConstant = true
  · rw [canonicalWith_constants replace (by simp) all,
      canonicalWith_constants replace (by simp) (constants.mp all)]
    rfl
  · rw [canonicalWith_list replace fun h => all h.2,
      canonicalWith_list replace fun h => all (constants.mpr h.2), same_list_iff, List.map_append,
      List.map_append, List.map_cons, List.map_cons]
    have unchanged (items : List Json) : List.Forall₂ Same (items.map (canonicalWith replace))
        (items.map (canonicalWith replace)) := List.forall₂_refl _
    exact List.rel_append (unchanged before) (.cons same (unchanged after))

theorem canonicalWith_constant (h : isOnlyField "A_Const" fs = true) :
    canonicalWith replace (.object fs) = erasedConstant := by
  rw [canonicalWith, if_pos h]

theorem canonicalWith_replaced (h : isOnlyField "A_Const" fs = false)
    (column : isOnlyField "ColumnRef" fs = true) {replacement : Json}
    (found : replace (.object fs) = some replacement) :
    canonicalWith replace (.object fs) = replacement := by
  rw [canonicalWith, h, if_neg Bool.false_ne_true, column, if_pos rfl, found]

/-- An object that is neither a constant nor a column that is replaced keeps the fields that are not
erased, whatever its shape. -/
theorem canonicalWith_fields (h : isOnlyField "A_Const" fs = false)
    (kept : isOnlyField "ColumnRef" fs = true → replace (.object fs) = none) :
    canonicalWith replace (.object fs) =
      .object ((fs.filter fun f => !isErased f.1).map fun f =>
        (f.1, canonicalWith replace f.2)) := by
  rw [canonicalWith, h, if_neg Bool.false_ne_true]
  cases column : isOnlyField "ColumnRef" fs with
  | true =>
    rw [if_pos rfl, kept column]
    simp only []
    rw [canonicalFields_eq]
  | false =>
    rw [if_neg Bool.false_ne_true]
    simp only []
    rw [canonicalFields_eq]

end Replaced

theorem canonical_constants (nonempty : items ≠ [])
    (constant : ∀ x ∈ items, x.isConstant = true) :
    canonical (.list items) = .list [erasedConstant] :=
  canonicalWith_constants _ nonempty constant

theorem canonical_list (mixed : ¬(items ≠ [] ∧ ∀ x ∈ items, x.isConstant = true)) :
    canonical (.list items) = .list (items.map canonical) :=
  canonicalWith_list _ mixed

theorem exists_canonical_list (items : List Json) :
    ∃ items', canonical (.list items) = .list items' := by
  by_cases constants : items ≠ [] ∧ ∀ x ∈ items, x.isConstant = true
  · exact ⟨_, canonical_constants constants.1 constants.2⟩
  · exact ⟨_, canonical_list constants⟩

theorem same_canonical_item {x y : Json} (constant : x.isConstant = y.isConstant)
    (same : Same (canonical x) (canonical y)) (before after : List Json) :
    Same (canonical (.list (before ++ x :: after))) (canonical (.list (before ++ y :: after))) :=
  same_canonicalWith_item _ constant same before after

/-- The names by which constants are recognized are not erased. -/
theorem isErased_eq_false : ∀ name ∈ ["A_Const", "TypeCast", "arg"], isErased name = false := by
  decide +kernel

/-- What stands in a canonical form for the value of a field. -/
def canonicalAttribute (name : String) (value : Json) : Json :=
  if name = "A_Const" then .null else canonical value

theorem canonical_constant (h : isOnlyField "A_Const" fs = true) :
    canonical (.object fs) = erasedConstant := canonicalWith_constant _ h

/-- An object that is no constant keeps the fields that are not erased, whatever its shape. -/
theorem canonical_fields (h : isOnlyField "A_Const" fs = false) :
    canonical (.object fs) =
      .object ((fs.filter fun f => !isErased f.1).map fun f => (f.1, canonical f.2)) :=
  canonicalWith_fields _ h fun _ => rfl

/-- A node keeps the fields that are not erased. This covers constants: theirs is the only field. -/
theorem canonical_object (shaped : NodeShaped fs) : canonical (.object fs) =
    .object ((fs.filter fun f => !isErased f.1).map fun f =>
      (f.1, canonicalAttribute f.1 f.2)) := by
  cases constant : fs.lookup "A_Const" with
  | some value =>
    have kept : isErased "A_Const" = false := isErased_eq_false _ List.mem_cons_self
    rw [shaped.eq_singleton (by simp) constant, canonical_constant rfl, List.filter_singleton, kept]
    rfl
  | none =>
    have absent : ∀ f ∈ fs, f.1 ≠ "A_Const" := by
      intro f member same
      rw [← same, (lookup_eq_some_iff shaped.distinct).mpr member] at constant
      cases constant
    have other : isOnlyField "A_Const" fs = false := by
      unfold isOnlyField
      split
      · exact beq_eq_false_iff_ne.mpr (absent _ List.mem_cons_self)
      · rfl
    rw [canonical_fields other]
    congr 1
    apply List.map_congr_left
    intro f member
    rw [canonicalAttribute, if_neg (absent f (List.mem_filter.mp member).1)]

theorem canonical_other {tree : Json} (list : ∀ items, tree ≠ .list items)
    (object : ∀ fields, tree ≠ .object fields) : canonical tree = tree := by
  rw [canonical]
  unfold canonicalWith
  split
  · exact absurd rfl (list _)
  · exact absurd rfl (object _)
  · rfl

/-- Two nodes have the same canonical form iff under every name that is not erased they have values
with the same canonical form. -/
theorem same_canonical_object_iff (shaped : NodeShaped fs) (shaped' : NodeShaped gs) :
    Same (canonical (.object fs)) (canonical (.object gs)) ↔ ∀ name, isErased name = false →
      (fs.lookup name).map (fun value => (canonicalAttribute name value).inKeyOrder) =
        (gs.lookup name).map fun value => (canonicalAttribute name value).inKeyOrder := by
  have distinct {fields : List (String × Json)} (h : NodeShaped fields) :
      (((fields.filter fun f => !isErased f.1).map fun f =>
        (f.1, canonicalAttribute f.1 f.2)).map Prod.fst).Nodup := by
    rw [List.map_map]
    exact h.distinct.sublist (List.filter_sublist.map _)
  have found (fields : List (String × Json)) (name : String) :
      (((fields.filter fun f => !isErased f.1).map fun f =>
        (f.1, canonicalAttribute f.1 f.2)).lookup name).map inKeyOrder =
      if isErased name then none
      else (fields.lookup name).map fun value => (canonicalAttribute name value).inKeyOrder := by
    rw [lookup_map canonicalAttribute, lookup_filter fun name => !isErased name, Option.map_map]
    cases isErased name <;> rfl
  rw [canonical_object shaped, canonical_object shaped',
    same_object_iff (distinct shaped) (distinct shaped')]
  apply forall_congr'
  intro name
  rw [found, found]
  cases isErased name <;> simp

end Canonical

end Json

end CardinalityAdvisor
