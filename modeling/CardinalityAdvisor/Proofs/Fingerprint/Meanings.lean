import CardinalityAdvisor.Proofs.Fingerprint.Kinds

/-!
# What a canonical form means

An object means the values that are found under its names, in no order, and a list means its items
one after the other. The text that is digested for a canonical form tells the meaning of the form
and nothing else, so two forms of different meanings share a fingerprint only by a collision.

## Main definitions

* `Json.Meaning`, `Json.meaning v`: what a value means
* `Json.IsForm tree`: a tree that may be a canonical form

## Main results

* `Json.same_iff_meaning_eq`: values are the same up to the order of fields iff they mean the same
* `Json.IsForm.canonical`: the canonical form of such a tree is such a tree
* `Fingerprint.treeKey_tells_meaning`: texts and fingerprints of canonical forms tell their meanings
-/

namespace CardinalityAdvisor

namespace Json

/-! ## Meanings -/

/-- What a value means. Under a name an object has a value or none. -/
inductive Meaning where
  | null
  | bool (value : Bool)
  | int (value : Int)
  | float (value : Float)
  | text (value : String)
  | list (items : List Meaning)
  | object (found : String → Option Meaning)

mutual
/-- What a value means. -/
def meaning : Json → Meaning
  | .null => .null
  | .bool b => .bool b
  | .int i => .int i
  | .float x => .float x
  | .text s => .text s
  | .list items => .list (itemMeanings items)
  | .object fields => .object (foundMeaning fields)

/-- What the items of a list mean. -/
def itemMeanings : List Json → List Meaning
  | [] => []
  | item :: rest => item.meaning :: itemMeanings rest

/-- What the value that fields have under a name means. -/
def foundMeaning : List (String × Json) → String → Option Meaning
  | [], _ => none
  | (own, value) :: rest, name => if name = own then some value.meaning else foundMeaning rest name
end

theorem meaning_list (items : List Json) : (list items).meaning = .list (items.map meaning) := by
  rw [meaning]
  congr 1
  induction items with
  | nil => rfl
  | cons item rest ih => rw [itemMeanings, ih, List.map_cons]

theorem meaning_object (fields : List (String × Json)) :
    (object fields).meaning = .object fun name => (fields.lookup name).map meaning := by
  rw [meaning]
  congr 1
  funext name
  induction fields with
  | nil => rfl
  | cons f rest ih =>
    rw [foundMeaning]
    split
    case isTrue same =>
      subst same
      rw [lookup_cons_self f, Option.map_some]
    case isFalse other => rw [ih, lookup_cons_of_ne (by exact other)]

/-- Fields with names of their own. -/
abbrev Distinct (fields : List (String × Json)) : Prop := (fields.map Prod.fst).Nodup

theorem forall₂_congr_of_mem {α β : Type} {R S : α → β → Prop} {xs : List α} {ys : List β}
    (same : ∀ x ∈ xs, ∀ y ∈ ys, R x y ↔ S x y) : List.Forall₂ R xs ys ↔ List.Forall₂ S xs ys := by
  rw [List.forall₂_iff_zip, List.forall₂_iff_zip]
  refine and_congr_right fun _ => ⟨fun h x y pair => ?_, fun h x y pair => ?_⟩
  · have inside := List.of_mem_zip pair
    exact (same x inside.1 y inside.2).mp (h pair)
  · have inside := List.of_mem_zip pair
    exact (same x inside.1 y inside.2).mpr (h pair)

/-- **Values whose objects have distinct names** are the same up to the order of fields iff they
mean the same. -/
theorem same_iff_meaning_eq {a b : Json} (ha : Everywhere Distinct a) (hb : Everywhere Distinct b) :
    Same a b ↔ a.meaning = b.meaning := by
  induction a using Json.induction generalizing b with
  | list as ih =>
    cases b with
    | list bs =>
      rw [same_list_iff, meaning_list, meaning_list, Meaning.list.injEq, map_eq_map_iff_forall₂]
      exact forall₂_congr_of_mem fun x inside y inside' =>
        ih x inside (ha.item inside) (hb.item inside')
    | _ => exact iff_of_false (by simp [Same, inKeyOrder]) (by simp [meaning])
  | object fs ih =>
    cases b with
    | object gs =>
      rw [same_object_iff ha.here hb.here, meaning_object, meaning_object, Meaning.object.injEq,
        funext_iff]
      refine forall_congr' fun name => ?_
      cases found : fs.lookup name with
      | none => cases gs.lookup name <;> simp
      | some x =>
        cases found' : gs.lookup name with
        | none => simp
        | some y =>
          have inside := (lookup_eq_some_iff ha.here).mp found
          have inside' := (lookup_eq_some_iff hb.here).mp found'
          rw [Option.map_some, Option.map_some, Option.map_some, Option.map_some,
            Option.some.injEq, Option.some.injEq]
          exact ih _ inside (ha.field inside) (hb.field inside')
    | _ => exact iff_of_false (by simp [Same, inKeyOrder]) (by simp [meaning])
  | other tree list object =>
    cases tree with
    | list as => exact absurd rfl (list as)
    | object fs => exact absurd rfl (object fs)
    | _ => cases b <;> simp [Same, inKeyOrder, meaning]

/-! ## Canonical forms -/

/-- A tree that may be a canonical form, of any size: objects whose names are distinct, lists, texts
of any characters (`Text.isWhole_iff`), integers, truth values and null. -/
structure IsForm (tree : Json) : Prop where
  plain : tree.Plain
  distinct : Everywhere Distinct tree

instance : DecidablePred IsForm := fun tree =>
  decidable_of_iff (tree.Plain ∧ Everywhere Distinct tree)
    ⟨fun ⟨plain, distinct⟩ => ⟨plain, distinct⟩, fun ⟨plain, distinct⟩ => ⟨plain, distinct⟩⟩

/-- No name occurs more often in a canonical form. -/
theorem distinct_canonical {tree : Json} (distinct : Everywhere Distinct tree) :
    Everywhere Distinct (canonical tree) := by
  have erased : Everywhere Distinct erasedConstant := by decide
  induction tree using Json.induction with
  | list items ih =>
    by_cases constants : items ≠ [] ∧ ∀ x ∈ items, x.isConstant = true
    · rw [canonical_constants constants.1 constants.2]
      exact everywhere_list.mpr (List.forall_mem_singleton.mpr erased)
    · rw [canonical_list constants, everywhere_list, List.forall_mem_map]
      exact fun item inside => ih item inside (distinct.item inside)
  | object fields ih =>
    cases constant : isOnlyField "A_Const" fields with
    | true =>
      rw [canonical_constant constant]
      exact erased
    | false =>
      rw [canonical_fields constant, everywhere_object, List.forall_mem_map, Distinct, List.map_map]
      refine ⟨distinct.here.sublist (List.filter_sublist.map _), fun f member => ?_⟩
      have inside := (List.mem_filter.mp member).1
      exact ih f inside (distinct.field inside)
  | other tree list object =>
    rw [canonical_other list object]
    exact distinct

/-- The canonical form of a tree that may be one is one. -/
theorem IsForm.canonical {tree : Json} (h : tree.IsForm) : (canonical tree).IsForm :=
  ⟨h.plain.canonical, distinct_canonical h.distinct⟩

/-- Forms have the same compact text iff they mean the same. -/
theorem IsForm.compact_eq_iff {a b : Json} (ha : a.IsForm) (hb : b.IsForm) :
    a.compact = b.compact ↔ a.meaning = b.meaning := by
  rw [Json.compact_eq_iff, spelling_eq_iff ha.plain hb.plain,
    same_iff_meaning_eq ha.distinct hb.distinct]

end Json

namespace Fingerprint

open Json

theorem digestOf_eq_iff {text text' : List Char} :
    digestOf text = digestOf text' ↔ text = text' ∨ Collide text text' := by
  by_cases same : text = text'
  · simp [same]
  · simp [same, Collide]

/-- **The digested text of a canonical form tells what the form means**, whatever the order of its
fields, so two forms share a fingerprint only if they mean the same or their texts collide. This
holds of the canonical forms of any two expressions in particular. -/
theorem treeKey_tells_meaning {a b : Json} (ha : a.IsForm) (hb : b.IsForm) :
    (a.compact = b.compact ↔ a.meaning = b.meaning) ∧
      (treeKey a = treeKey b ↔ a.meaning = b.meaning ∨ Collide a.compact b.compact) ∧
      (expressionKey a = expressionKey b ↔ (canonical a).meaning = (canonical b).meaning ∨
        Collide (canonical a).compact (canonical b).compact) := by
  have keys {a b : Json} (ha : a.IsForm) (hb : b.IsForm) :
      treeKey a = treeKey b ↔ a.meaning = b.meaning ∨ Collide a.compact b.compact := by
    rw [treeKey, treeKey, digestOf_eq_iff, ha.compact_eq_iff hb]
  exact ⟨ha.compact_eq_iff hb, keys ha hb, keys ha.canonical hb.canonical⟩

/-- Fields in another order mean the same, with a text that needs escapes and a surrogate pair. -/
theorem treeKey_tells_meaning_rearranged :
    (Json.object [("b", .list [.int (-5), .null]), ("a", .object [("y", .text "\"😀\n"),
        ("x", .bool true)])]).meaning =
      (Json.object [("a", .object [("x", .bool true), ("y", .text "\"😀\n")]),
        ("b", .list [.int (-5), .null])]).meaning :=
  (treeKey_tells_meaning (by decide) (by decide)).1.mp (by decide +kernel)

end Fingerprint

end CardinalityAdvisor
