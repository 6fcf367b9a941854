import Mathlib.Data.List.Forall2
import Mathlib.Data.List.Nodup
import CardinalityAdvisor.Json.Writer
import CardinalityAdvisor.Proofs.ParseTree.Occurrence

/-!
# Values up to the order of fields

The fields of an object have no order of their own. Two values are the same up to the order of
fields if they are equal once the fields of all their objects stand in the order of their names.

## Main definitions

* `Json.Same a b`: two values differ at most in the order of the fields of objects

## Main results

* `sortBy_pairwise`: sorting puts the elements in order
* `Json.same_object_iff`: two objects are the same iff they have the same attributes
* `Json.Same.compact`: values that are the same have the same compact text
-/

namespace CardinalityAdvisor

/-! ## Sorting -/

section Sorting

variable {α β : Type} {le : α → α → Bool} {x : α} {xs : List α}

theorem insertBy_pairwise (total : ∀ a b, le a b = true ∨ le b a = true)
    (trans : ∀ a b c, le a b = true → le b c = true → le a c = true)
    (h : xs.Pairwise fun a b => le a b = true) :
    (insertBy le x xs).Pairwise fun a b => le a b = true := by
  induction xs with
  | nil => exact List.pairwise_singleton _ x
  | cons y ys ih =>
    obtain ⟨first, later⟩ := List.pairwise_cons.mp h
    unfold insertBy
    split
    · rename_i before
      apply List.Pairwise.cons _ h
      intro z member
      rcases List.mem_cons.mp member with rfl | member
      · exact before
      · exact trans x y z before (first z member)
    · rename_i after
      apply List.Pairwise.cons _ (ih later)
      intro z member
      rcases List.mem_cons.mp ((insertBy_perm le x ys).mem_iff.mp member) with rfl | member
      · exact (total z y).resolve_left after
      · exact first z member

/-- Sorting by a total order puts the elements in order. -/
theorem sortBy_pairwise (total : ∀ a b, le a b = true ∨ le b a = true)
    (trans : ∀ a b c, le a b = true → le b c = true → le a c = true) (xs : List α) :
    (sortBy le xs).Pairwise fun a b => le a b = true := by
  induction xs with
  | nil => exact .nil
  | cons x xs ih => exact insertBy_pairwise total trans ih

theorem insertBy_of_forall (h : ∀ y ∈ xs, le x y = true) : insertBy le x xs = x :: xs := by
  cases xs with
  | nil => rfl
  | cons y ys => rw [insertBy, if_pos (h y List.mem_cons_self)]

theorem sortBy_of_pairwise (h : xs.Pairwise fun a b => le a b = true) : sortBy le xs = xs := by
  induction xs with
  | nil => rfl
  | cons x xs ih =>
    obtain ⟨first, later⟩ := List.pairwise_cons.mp h
    rw [sortBy, ih later, insertBy_of_forall first]

variable {le' : β → β → Bool} {f : α → β}

theorem insertBy_map (h : ∀ a b, le' (f a) (f b) = le a b) (x : α) (xs : List α) :
    insertBy le' (f x) (xs.map f) = (insertBy le x xs).map f := by
  induction xs with
  | nil => rfl
  | cons y ys ih =>
    rw [List.map_cons, insertBy, insertBy, h, ih]
    split <;> rfl

/-- Sorting commutes with a map that leaves the order as it is. -/
theorem sortBy_map (h : ∀ a b, le' (f a) (f b) = le a b) (xs : List α) :
    sortBy le' (xs.map f) = (sortBy le xs).map f := by
  induction xs with
  | nil => rfl
  | cons x xs ih => rw [List.map_cons, sortBy, sortBy, ih, insertBy_map h]

end Sorting

/-! ## Fields with names of their own -/

namespace Json

section Fields

variable {α β : Type} {fs gs : List (String × α)} {name : String} {value : α}

theorem fieldLe_total (a b : String × α) : fieldLe a b = true ∨ fieldLe b a = true := by
  simp only [fieldLe, decide_eq_true_eq]
  exact String.le_total a.1 b.1

theorem fieldLe_trans (a b c : String × α) (ab : fieldLe a b = true) (bc : fieldLe b c = true) :
    fieldLe a c = true := by
  simp only [fieldLe, decide_eq_true_eq] at ab bc ⊢
  exact String.le_trans ab bc

theorem lookup_cons_self (f : String × α) (rest : List (String × α)) :
    (f :: rest).lookup f.1 = some f.2 := by
  rw [List.lookup_cons, beq_self_eq_true]

theorem lookup_cons_of_ne {f : String × α} (other : name ≠ f.1) (rest : List (String × α)) :
    (f :: rest).lookup name = rest.lookup name := by
  rw [List.lookup_cons, beq_eq_false_iff_ne.mpr other]

theorem lookup_eq_some_iff (distinct : (fs.map Prod.fst).Nodup) :
    fs.lookup name = some value ↔ (name, value) ∈ fs := by
  induction fs with
  | nil => simp
  | cons f rest ih =>
    rw [List.map_cons, List.nodup_cons] at distinct
    rw [List.mem_cons]
    by_cases same : name = f.1
    · subst same
      have absent : (f.1, value) ∉ rest := fun member =>
        distinct.1 (List.mem_map.mpr ⟨_, member, rfl⟩)
      rw [lookup_cons_self, or_iff_left absent, Option.some.injEq, Prod.ext_iff, eq_comm]
      exact (and_iff_right rfl).symm
    · have different : (name, value) ≠ f := fun eq => same (congrArg Prod.fst eq)
      rw [lookup_cons_of_ne same, ih distinct.2, or_iff_right different]

/-- A change of the values changes what is found under a name, and nothing else. -/
theorem lookup_map (change : String → α → β) (fs : List (String × α)) (name : String) :
    (fs.map fun f => (f.1, change f.1 f.2)).lookup name = (fs.lookup name).map (change name) := by
  induction fs with
  | nil => rfl
  | cons f rest ih =>
    rw [List.map_cons]
    by_cases same : name = f.1
    · subst same
      rw [lookup_cons_self, lookup_cons_self (f.1, change f.1 f.2), Option.map_some]
    · rw [lookup_cons_of_ne same, lookup_cons_of_ne (by exact same), ih]

theorem lookup_filter (keep : String → Bool) (fs : List (String × α)) (name : String) :
    (fs.filter fun f => keep f.1).lookup name = if keep name then fs.lookup name else none := by
  induction fs with
  | nil => simp
  | cons f rest ih =>
    rw [List.filter_cons]
    by_cases same : name = f.1
    · subst same
      split
      · rw [lookup_cons_self, lookup_cons_self]
      · rename_i dropped
        rw [ih, if_neg dropped]
    · rw [lookup_cons_of_ne same, ← ih]
      split
      · rw [lookup_cons_of_ne same]
      · rfl

/-- Fields with names of their own agree in key order iff the same is found under every name. -/
theorem sortBy_fieldLe_eq_iff (distinct : (fs.map Prod.fst).Nodup)
    (distinct' : (gs.map Prod.fst).Nodup) :
    sortBy fieldLe fs = sortBy fieldLe gs ↔ ∀ name, fs.lookup name = gs.lookup name := by
  constructor
  · intro same name
    have perm : fs.Perm gs :=
      (sortBy_perm fieldLe fs).symm.trans (same ▸ sortBy_perm fieldLe gs)
    apply Option.ext
    intro value
    rw [lookup_eq_some_iff distinct, lookup_eq_some_iff distinct', perm.mem_iff]
  · intro same
    have perm : fs.Perm gs := by
      apply (List.perm_ext_iff_of_nodup (distinct.of_map _) (distinct'.of_map _)).mpr
      rintro ⟨name, value⟩
      rw [← lookup_eq_some_iff distinct, ← lookup_eq_some_iff distinct', same]
    have sorted : (sortBy fieldLe fs).Perm (sortBy fieldLe gs) :=
      (sortBy_perm fieldLe fs).trans (perm.trans (sortBy_perm fieldLe gs).symm)
    refine List.Perm.eq_of_pairwise ?_ (sortBy_pairwise fieldLe_total fieldLe_trans fs)
      (sortBy_pairwise fieldLe_total fieldLe_trans gs) sorted
    intro a b here there ab ba
    simp only [fieldLe, decide_eq_true_eq] at ab ba
    rw [mem_sortBy, perm.mem_iff] at here
    rw [mem_sortBy] at there
    exact List.inj_on_of_nodup_map distinct' here there (String.le_antisymm ab ba)

end Fields

/-! ## Values in key order -/

theorem itemsInKeyOrder_eq (items : List Json) : itemsInKeyOrder items = items.map inKeyOrder := by
  induction items with
  | nil => rfl
  | cons item rest ih => rw [itemsInKeyOrder, ih, List.map_cons]

theorem fieldsInKeyOrder_eq (fields : List (String × Json)) :
    fieldsInKeyOrder fields = fields.map fun f => (f.1, f.2.inKeyOrder) := by
  induction fields with
  | nil => rfl
  | cons f rest ih => rw [fieldsInKeyOrder, ih, List.map_cons]

theorem compactItems_eq (items : List Json) : compactItems items = items.map compact := by
  induction items with
  | nil => rfl
  | cons item rest ih => rw [compactItems, ih, List.map_cons]

theorem compactFields_eq (fields : List (String × Json)) :
    compactFields fields = fields.map fun f => (f.1, f.2.compact) := by
  induction fields with
  | nil => rfl
  | cons f rest ih => rw [compactFields, ih, List.map_cons]

theorem inKeyOrder_other {tree : Json} (list : ∀ items, tree ≠ .list items)
    (object : ∀ fields, tree ≠ .object fields) : tree.inKeyOrder = tree := by
  unfold inKeyOrder
  split
  · exact absurd rfl (list _)
  · exact absurd rfl (object _)
  · rfl

/-- Two values are the same up to the order of the fields of their objects. -/
def Same (a b : Json) : Prop := a.inKeyOrder = b.inKeyOrder

instance (a b : Json) : Decidable (Same a b) :=
  inferInstanceAs (Decidable (a.inKeyOrder = b.inKeyOrder))

instance : Std.Refl Same := ⟨fun _ => rfl⟩

theorem Same.symm {a b : Json} (h : Same a b) : Same b a := Eq.symm h

theorem Same.trans {a b c : Json} (h : Same a b) (h' : Same b c) : Same a c := Eq.trans h h'

theorem same_list_iff {as bs : List Json} :
    Same (.list as) (.list bs) ↔ List.Forall₂ Same as bs := by
  rw [Same, inKeyOrder, inKeyOrder, itemsInKeyOrder_eq, itemsInKeyOrder_eq, list.injEq,
    ← List.forall₂_eq_eq_eq, List.forall₂_map_left_iff, List.forall₂_map_right_iff]
  rfl

/-- Two objects are the same iff they have the same values under the same names. -/
theorem same_object_iff {fs gs : List (String × Json)} (distinct : (fs.map Prod.fst).Nodup)
    (distinct' : (gs.map Prod.fst).Nodup) :
    Same (.object fs) (.object gs) ↔
      ∀ name, (fs.lookup name).map inKeyOrder = (gs.lookup name).map inKeyOrder := by
  have names (fields : List (String × Json)) :
      (fields.map fun f => (f.1, f.2.inKeyOrder)).map Prod.fst = fields.map Prod.fst :=
    List.map_map
  rw [Same, inKeyOrder, inKeyOrder, fieldsInKeyOrder_eq, fieldsInKeyOrder_eq, object.injEq,
    sortBy_fieldLe_eq_iff (by rwa [names]) (by rwa [names])]
  apply forall_congr'
  intro name
  rw [lookup_map fun _ => inKeyOrder, lookup_map fun _ => inKeyOrder]

/-! ## The compact text -/

theorem compact_inKeyOrder (tree : Json) : tree.inKeyOrder.compact = tree.compact := by
  induction tree using Json.induction with
  | list items ih =>
    have same : (items.map inKeyOrder).map compact = items.map compact := by
      rw [List.map_map]
      exact List.map_congr_left ih
    rw [inKeyOrder, compact, compact, itemsInKeyOrder_eq, compactItems_eq, compactItems_eq, same]
  | object fields ih =>
    have sorted : sortBy fieldLe (compactFields (sortBy fieldLe (fieldsInKeyOrder fields))) =
        sortBy fieldLe (compactFields fields) := by
      -- The names alone decide the order, so values may be written before or after sorting.
      have written (fs : List (String × Json)) : sortBy fieldLe (compactFields fs) =
          (sortBy fieldLe fs).map fun f => (f.1, f.2.compact) := by
        rw [compactFields_eq]
        exact sortBy_map (fun _ _ => rfl) fs
      have again : sortBy fieldLe (sortBy fieldLe (fieldsInKeyOrder fields)) =
          sortBy fieldLe (fieldsInKeyOrder fields) :=
        sortBy_of_pairwise (sortBy_pairwise fieldLe_total fieldLe_trans _)
      have same : compactFields (fieldsInKeyOrder fields) = compactFields fields := by
        rw [compactFields_eq, compactFields_eq, fieldsInKeyOrder_eq, List.map_map]
        exact List.map_congr_left fun f member => congrArg (Prod.mk f.1) (ih f member)
      rw [written, again, ← written, same]
    rw [inKeyOrder, compact, compact, sorted]
  | other tree list object => rw [inKeyOrder_other list object]

/-- Values that are the same up to the order of fields have the same compact text. -/
theorem Same.compact {a b : Json} (h : Same a b) : a.compact = b.compact := by
  rw [← compact_inKeyOrder a, h, compact_inKeyOrder]

end Json

end CardinalityAdvisor
