import CardinalityAdvisor.Fingerprint.Key
import CardinalityAdvisor.Proofs.Fingerprint.WellFormed

/-!
# Trees with the same canonical form

Two trees have the same canonical form exactly if one becomes the other by changing constants,
lists of constants and positions in the source text, any number of times and anywhere in the tree.

## Main definitions

* `Json.Similar a b`: the congruence of changing constants, lists of constants and positions

## Main results

* `Json.Similar.same_canonical`: similar trees have the same canonical form
* `Json.similar_of_same_canonical`: trees with the same canonical form are similar
* `same_canonical_iff_similar`: both, and similar trees share their fingerprints
-/

namespace CardinalityAdvisor

namespace Json

/-- The congruence of changing constants, lists of constants and positions: the least one on
well-formed trees that relates any two constants, any two lists that consist of constants, and any
two objects that differ only in erased attributes. -/
inductive Similar : Json → Json → Prop
  | refl {a : Json} : WellFormed a → Similar a a
  | symm {a b : Json} : Similar a b → Similar b a
  | trans {a b c : Json} : Similar a b → Similar b c → Similar a c
  | constant {x y : Json} : WellFormed (.object [("A_Const", x)]) →
      WellFormed (.object [("A_Const", y)]) →
      Similar (.object [("A_Const", x)]) (.object [("A_Const", y)])
  | constants {as bs : List Json} : WellFormed (.list as) → WellFormed (.list bs) →
      as ≠ [] → bs ≠ [] → (∀ x ∈ as, x.isConstant = true) → (∀ x ∈ bs, x.isConstant = true) →
      Similar (.list as) (.list bs)
  | positions {fs gs : List (String × Json)} : WellFormed (.object fs) → WellFormed (.object gs) →
      (∀ name, isErased name = false → fs.lookup name = gs.lookup name) →
      Similar (.object fs) (.object gs)
  | item {before after : List Json} {x y : Json} : WellFormed (.list (before ++ x :: after)) →
      Similar x y → Similar (.list (before ++ x :: after)) (.list (before ++ y :: after))
  | field {before after : List (String × Json)} {name : String} {x y : Json} :
      WellFormed (.object (before ++ (name, x) :: after)) →
      WellFormed (.object (before ++ (name, y) :: after)) → Similar x y →
      Similar (.object (before ++ (name, x) :: after)) (.object (before ++ (name, y) :: after))

/-! ## Similar trees have the same canonical form -/

namespace Similar

variable {a b : Json}

theorem wellFormed (h : Similar a b) : WellFormed a ∧ WellFormed b := by
  induction h with
  | refl shaped => exact ⟨shaped, shaped⟩
  | symm _ ih => exact ih.symm
  | trans _ _ ih ih' => exact ⟨ih.1, ih'.2⟩
  | constant hx hy => exact ⟨hx, hy⟩
  | constants ha hb => exact ⟨ha, hb⟩
  | positions ha hb => exact ⟨ha, hb⟩
  | field hx hy => exact ⟨hx, hy⟩
  | @item before after x y context _ ih =>
    refine ⟨context, everywhere_list.mpr fun z member => ?_⟩
    rcases List.mem_append.mp member with inside | inside
    · exact context.item (List.mem_append_left _ inside)
    · rcases List.mem_cons.mp inside with rfl | inside
      · exact ih.2
      · exact context.item (List.mem_append_right _ (List.mem_cons_of_mem _ inside))

/-- Similar trees are both constants or both not, and so are the arguments of similar casts. -/
theorem isConstant_eq (h : Similar a b) :
    a.isConstant = b.isConstant ∧ a.castsConstant = b.castsConstant := by
  -- Both at once: whether a cast is a constant depends on its attributes, and these on a value.
  induction h with
  | refl => exact ⟨rfl, rfl⟩
  | symm _ ih => exact ⟨ih.1.symm, ih.2.symm⟩
  | trans _ _ ih ih' => exact ⟨ih.1.trans ih'.1, ih.2.trans ih'.2⟩
  | constant => exact ⟨rfl, rfl⟩
  | constants => exact ⟨rfl, rfl⟩
  | item => exact ⟨rfl, rfl⟩
  | positions ha hb same =>
    constructor
    · rw [ha.here.isConstant, hb.here.isConstant, same _ (isErased_eq_false _ (by simp)),
        same "TypeCast" (isErased_eq_false _ (by simp))]
    · rw [castsConstant, castsConstant, argumentIsConstant_eq, argumentIsConstant_eq,
        same _ (isErased_eq_false _ (by simp))]
  | @field before after name x y hx hy _ ih =>
    have any {view : Json → Bool} (same : view x = view y) (other : String) :
        ((before ++ (name, x) :: after).lookup other).any view =
          ((before ++ (name, y) :: after).lookup other).any view := by
      have replaced := congrArg (Option.any id) (lookup_replaced same before after name other)
      rwa [Option.any_map, Option.any_map] at replaced
    have isSome (other : String) : ((before ++ (name, x) :: after).lookup other).isSome =
        ((before ++ (name, y) :: after).lookup other).isSome := by
      have forgotten : Function.const Json () x = Function.const Json () y := rfl
      have replaced := congrArg Option.isSome (lookup_replaced forgotten before after name other)
      rwa [Option.isSome_map, Option.isSome_map] at replaced
    constructor
    · rw [hx.here.isConstant, hy.here.isConstant, isSome, any ih.2]
    · rw [castsConstant, castsConstant, argumentIsConstant_eq, argumentIsConstant_eq, any ih.1]

/-- **Similar trees have the same canonical form**. -/
theorem same_canonical (h : Similar a b) : Same (canonical a) (canonical b) := by
  induction h with
  | refl => rfl
  | symm _ ih => exact ih.symm
  | trans _ _ ih ih' => exact ih.trans ih'
  | constant => rfl
  | constants _ _ nonempty nonempty' constant constant' =>
    rw [canonical_constants nonempty constant, canonical_constants nonempty' constant']
    rfl
  | positions ha hb same =>
    rw [same_canonical_object_iff ha.here hb.here]
    intro name kept
    rw [same name kept]
  | item _ similar ih => exact same_canonical_item similar.isConstant_eq.1 ih _ _
  | @field before after name x y hx hy _ ih =>
    rw [same_canonical_object_iff hx.here hy.here]
    intro other _
    apply lookup_replaced
    unfold canonicalAttribute
    split
    · rfl
    · exact ih

/-! ## Changes in several places -/

/-- Lists are similar if their items are, one by one. -/
theorem of_items {as bs : List Json} (similar : List.Forall₂ Similar as bs) :
    ∀ before, WellFormed (.list (before ++ as)) →
      Similar (.list (before ++ as)) (.list (before ++ bs)) := by
  induction similar with
  | nil => exact fun before shaped => .refl shaped
  | @cons x y as bs here _ ih =>
    intro before shaped
    have first : Similar (.list (before ++ x :: as)) (.list (before ++ y :: as)) :=
      .item shaped here
    have rest := ih (before ++ [y]) (by simpa using first.wellFormed.2)
    rw [List.append_assoc, List.append_assoc] at rest
    exact first.trans rest

end Similar

section Fields

variable {fs gs before after : List (String × Json)} {name : String} {x y : Json}

/-- Objects with the same names are similar if the values of their fields are, one by one. -/
theorem Similar.of_fields
    (similar : List.Forall₂ (fun f g => f.1 = g.1 ∧ Similar f.2 g.2) fs gs) :
    ∀ before, WellFormed (.object (before ++ fs)) → WellFormed (.object (before ++ gs)) →
      Similar (.object (before ++ fs)) (.object (before ++ gs)) := by
  induction similar with
  | nil => exact fun before shaped _ => .refl shaped
  | @cons f g fs gs here _ ih =>
    obtain ⟨name, x⟩ := f
    obtain ⟨_, y⟩ := g
    obtain ⟨rfl, here⟩ := here
    intro before shaped shaped'
    have between : WellFormed (.object (before ++ (name, y) :: fs)) :=
      shaped.replaced here.wellFormed.2 (shaped'.here.cast (name, y) (by simp))
    have first : Similar (.object (before ++ (name, x) :: fs))
        (.object (before ++ (name, y) :: fs)) := .field shaped between here
    have rest := ih (before ++ [(name, y)]) (by simpa using between) (by simpa using shaped')
    rw [List.append_assoc, List.append_assoc] at rest
    exact first.trans rest

/-- Fields with the values that others have under the same names. Erased attributes keep theirs. -/
def withValuesOf (gs fs : List (String × Json)) : List (String × Json) :=
  fs.map fun f => (f.1, if isErased f.1 then f.2 else (gs.lookup f.1).getD f.2)

/-- Where both have the same names, the values are those of the other fields. -/
theorem lookup_withValuesOf (kept : isErased name = false)
    (same : (fs.lookup name).isSome = (gs.lookup name).isSome) :
    (withValuesOf gs fs).lookup name = gs.lookup name := by
  rw [withValuesOf, lookup_map fun name value =>
    if isErased name then value else (gs.lookup name).getD value, kept]
  cases there : gs.lookup name with
  | none =>
    rw [there, Option.isSome_none, Option.isSome_eq_false_iff, Option.isNone_iff_eq_none] at same
    rw [same]
    rfl
  | some y =>
    rw [there, Option.isSome_some] at same
    obtain ⟨x, here⟩ := Option.isSome_iff_exists.mp same
    rw [here]
    rfl

theorem wellFormed_withValuesOf (shaped : NodeShaped fs) (shaped' : NodeShaped gs)
    (names : ∀ name, isErased name = false → (fs.lookup name).isSome = (gs.lookup name).isSome)
    (values : ∀ g ∈ withValuesOf gs fs, WellFormed g.2) :
    WellFormed (.object (withValuesOf gs fs)) := by
  have same : (withValuesOf gs fs).map Prod.fst = fs.map Prod.fst := List.map_map
  have distinct : ((withValuesOf gs fs).map Prod.fst).Nodup := by
    rw [same]
    exact shaped.distinct
  refine everywhere_object.mpr ⟨⟨distinct, ?_, ?_⟩, values⟩
  · rw [same]
    exact shaped.alone
  · rintro ⟨name, value⟩ member rfl
    have kept := isErased_eq_false "TypeCast" (by simp)
    have found := (lookup_eq_some_iff distinct).mpr member
    rw [lookup_withValuesOf kept (names _ kept)] at found
    exact shaped'.cast _ ((lookup_eq_some_iff shaped'.distinct).mp found) rfl

/-- Objects are similar if under every name that is not erased both have similar values or none. -/
theorem Similar.of_lookup (shaped : WellFormed (.object fs)) (shaped' : WellFormed (.object gs))
    (names : ∀ name, isErased name = false → (fs.lookup name).isSome = (gs.lookup name).isSome)
    (similar : ∀ name x y, isErased name = false → fs.lookup name = some x →
      gs.lookup name = some y → Similar x y) : Similar (.object fs) (.object gs) := by
  have values : ∀ f ∈ fs,
      Similar f.2 (if isErased f.1 then f.2 else (gs.lookup f.1).getD f.2) := by
    intro f member
    have here : fs.lookup f.1 = some f.2 := (lookup_eq_some_iff shaped.here.distinct).mpr member
    split
    · exact .refl (shaped.field member)
    · rename_i kept
      rw [Bool.not_eq_true] at kept
      have both := names f.1 kept
      rw [here, Option.isSome_some, eq_comm] at both
      obtain ⟨y, there⟩ := Option.isSome_iff_exists.mp both
      rw [there]
      exact similar f.1 f.2 y kept here there
  have pairs : List.Forall₂ (fun f g => f.1 = g.1 ∧ Similar f.2 g.2) fs (withValuesOf gs fs) := by
    rw [withValuesOf, List.forall₂_map_right_iff, List.forall₂_same]
    exact fun f member => ⟨rfl, values f member⟩
  have between : WellFormed (.object (withValuesOf gs fs)) := by
    apply wellFormed_withValuesOf shaped.here shaped'.here names
    intro g inside
    obtain ⟨f, member, rfl⟩ := List.mem_map.mp inside
    exact (values f member).wellFormed.2
  -- First the values become those of the other object, and then only erased attributes differ.
  have first : Similar (.object fs) (.object (withValuesOf gs fs)) :=
    Similar.of_fields pairs [] shaped between
  apply first.trans
  apply Similar.positions between shaped'
  intro name kept
  exact lookup_withValuesOf kept (names name kept)

end Fields

/-! ## Trees with the same canonical form are similar -/

section Backward

variable {a b x : Json} {as bs : List Json} {fs gs : List (String × Json)}

theorem list_of_same (hb : WellFormed b) (h : Same (.list as) (canonical b)) :
    ∃ bs, b = .list bs := by
  rcases b.shape with ⟨bs, rfl⟩ | ⟨gs, rfl⟩ | ⟨list, object⟩
  · exact ⟨bs, rfl⟩
  · rw [canonical_object hb.here] at h
    simp [Same, inKeyOrder] at h
  · rw [canonical_other list object, Same, inKeyOrder, inKeyOrder_other list object] at h
    exact absurd h.symm (list _)

theorem object_of_same (h : Same (.object fs) (canonical b)) : ∃ gs, b = .object gs := by
  rcases b.shape with ⟨bs, rfl⟩ | ⟨gs, rfl⟩ | ⟨list, object⟩
  · obtain ⟨items, form⟩ := exists_canonical_list bs
    rw [form] at h
    simp [Same, inKeyOrder] at h
  · exact ⟨gs, rfl⟩
  · rw [canonical_other list object, Same, inKeyOrder, inKeyOrder_other list object] at h
    exact absurd h.symm (object _)

/-- Only a constant has the canonical form of a constant. -/
theorem isConstant_of_same (hb : WellFormed b) (h : Same erasedConstant (canonical b)) :
    b.isConstant = true := by
  obtain ⟨gs, rfl⟩ := object_of_same h
  have shaped : NodeShaped [("A_Const", .null)] := ⟨by simp, by simp, by simp⟩
  have agree := (same_canonical_object_iff shaped hb.here).mp h "A_Const"
    (isErased_eq_false _ (by simp))
  rw [hb.here.isConstant, Bool.or_eq_true]
  left
  have found := congrArg Option.isSome agree
  rw [Option.isSome_map, Option.isSome_map] at found
  exact found.symm

/-- Only a list of constants has the canonical form of one. -/
theorem constants_of_same (hb : WellFormed (.list bs))
    (h : Same (.list [erasedConstant]) (canonical (.list bs))) :
    bs ≠ [] ∧ ∀ x ∈ bs, x.isConstant = true := by
  by_contra mixed
  rw [canonical_list mixed, same_list_iff, List.forall₂_map_right_iff] at h
  obtain ⟨x, rest, here, nothing, rfl⟩ := List.forall₂_cons_left_iff.mp h
  rw [List.forall₂_nil_left_iff.mp nothing] at hb mixed
  apply mixed
  refine ⟨List.cons_ne_nil x [], fun y member => ?_⟩
  rw [List.mem_singleton.mp member]
  exact isConstant_of_same (hb.item List.mem_cons_self) here

/-- Lists with the same canonical form are similar if this holds of their items. -/
theorem Similar.of_same_list (ha : WellFormed (.list as)) (hb : WellFormed (.list bs))
    (items : ∀ x ∈ as, ∀ y ∈ bs, Same (canonical x) (canonical y) → Similar x y)
    (same : Same (canonical (.list as)) (canonical (.list bs))) :
    Similar (.list as) (.list bs) := by
  by_cases constants : as ≠ [] ∧ ∀ x ∈ as, x.isConstant = true
  · rw [canonical_constants constants.1 constants.2] at same
    have constants' := constants_of_same hb same
    exact .constants ha hb constants.1 constants'.1 constants.2 constants'.2
  · have mixed : ¬(bs ≠ [] ∧ ∀ x ∈ bs, x.isConstant = true) := by
      intro constants'
      rw [canonical_constants constants'.1 constants'.2] at same
      exact constants (constants_of_same ha same.symm)
    rw [canonical_list constants, canonical_list mixed, same_list_iff, List.forall₂_map_left_iff,
      List.forall₂_map_right_iff] at same
    obtain ⟨length, values⟩ := List.forall₂_iff_zip.mp same
    apply Similar.of_items _ [] ha
    refine List.forall₂_iff_zip.mpr ⟨length, ?_⟩
    intro x y pair
    obtain ⟨member, member'⟩ := List.of_mem_zip pair
    exact items x member y member' (values pair)

/-- Objects with the same canonical form are similar if this holds of the values of their fields. -/
theorem Similar.of_same_object (ha : WellFormed (.object fs)) (hb : WellFormed (.object gs))
    (values : ∀ f ∈ fs, ∀ g ∈ gs, Same (canonical f.2) (canonical g.2) → Similar f.2 g.2)
    (same : Same (canonical (.object fs)) (canonical (.object gs))) :
    Similar (.object fs) (.object gs) := by
  have agree := (same_canonical_object_iff ha.here hb.here).mp same
  have names (name : String) (kept : isErased name = false) :
      (fs.lookup name).isSome = (gs.lookup name).isSome := by
    have found := congrArg Option.isSome (agree name kept)
    rwa [Option.isSome_map, Option.isSome_map] at found
  cases constant : fs.lookup "A_Const" with
  | some x =>
    have there := names "A_Const" (isErased_eq_false _ (by simp))
    rw [constant, Option.isSome_some, eq_comm] at there
    obtain ⟨y, there⟩ := Option.isSome_iff_exists.mp there
    have only := ha.here.eq_singleton (by simp) constant
    have only' := hb.here.eq_singleton (by simp) there
    subst only only'
    exact .constant ha hb
  | none =>
    apply Similar.of_lookup ha hb names
    intro name x y kept here there
    have member := (lookup_eq_some_iff ha.here.distinct).mp here
    have member' := (lookup_eq_some_iff hb.here.distinct).mp there
    apply values _ member _ member'
    have other : name ≠ "A_Const" := by
      rintro rfl
      rw [constant] at here
      cases here
    have value := agree name kept
    rw [here, there, Option.map_some, Option.map_some, Option.some.injEq, canonicalAttribute,
      canonicalAttribute, if_neg other, if_neg other] at value
    exact value

/-- **Trees with the same canonical form are similar**. -/
theorem similar_of_same_canonical (ha : WellFormed a) (hb : WellFormed b)
    (same : Same (canonical a) (canonical b)) : Similar a b := by
  induction a using Json.induction generalizing b with
  | list as ih =>
    obtain ⟨items, form⟩ := exists_canonical_list as
    obtain ⟨bs, rfl⟩ := list_of_same hb (form ▸ same)
    apply Similar.of_same_list ha hb _ same
    exact fun x member y member' => ih x member (ha.item member) (hb.item member')
  | object fs ih =>
    obtain ⟨gs, rfl⟩ := object_of_same (canonical_object ha.here ▸ same)
    apply Similar.of_same_object ha hb _ same
    exact fun f member g member' => ih f member (ha.field member) (hb.field member')
  | other tree list object =>
    rcases b.shape with ⟨bs, rfl⟩ | ⟨gs, rfl⟩ | ⟨list', object'⟩
    · obtain ⟨items, form⟩ := exists_canonical_list bs
      obtain ⟨as, eq⟩ := list_of_same ha (form ▸ same.symm)
      exact absurd eq (list as)
    · obtain ⟨fs, eq⟩ := object_of_same (canonical_object hb.here ▸ same.symm)
      exact absurd eq (object fs)
    · rw [canonical_other list object, canonical_other list' object', Same,
        inKeyOrder_other list object, inKeyOrder_other list' object'] at same
      rw [← same]
      exact .refl ha

end Backward

end Json

open Fingerprint

/-- **Canonical forms merge what is similar and nothing else**: two well-formed trees have the same
canonical form iff they are similar, and then they have the same fingerprint, as expressions and as
queries. -/
theorem same_canonical_iff_similar {a b : Json} (ha : a.WellFormed) (hb : b.WellFormed) :
    canonicalForm a = .ok (canonical a) ∧ canonicalForm b = .ok (canonical b) ∧
      ((canonical a).Same (canonical b) ↔ a.Similar b) ∧
      (a.Similar b → ∃ key, expressionKeyOf a = .ok key ∧ expressionKeyOf b = .ok key ∧
        ∀ parse text, queryKey parse (some a) text = .ok key ∧
          queryKey parse (some b) text = .ok key) := by
  have form {tree : Json} (shaped : tree.WellFormed) :
      canonicalForm tree = .ok (canonical tree) := by
    rw [canonicalForm, canonicalFormWith, Json.checkCasts, if_pos shaped.castShaped.isReadable]
    rfl
  have keyA := ha.castShaped.expressionKeyOf
  have keyB := hb.castShaped.expressionKeyOf
  refine ⟨form ha, form hb, ⟨Json.similar_of_same_canonical ha hb, fun h => h.same_canonical⟩, ?_⟩
  intro similar
  have shared : expressionKey b = expressionKey a := by
    rw [expressionKey, expressionKey, treeKey, treeKey, similar.same_canonical.compact]
  rw [shared] at keyB
  refine ⟨expressionKey a, keyA, keyB, fun parse text => ?_⟩
  rw [queryKey, queryKey, keyA, keyB]
  exact ⟨rfl, rfl⟩

/-- The condition that a column is one of some numbers, written from a position on. -/
def membership (position : Int) (numbers : List Int) : Json :=
  .object [("A_Expr", .object [
    ("kind", .text "AEXPR_IN"),
    ("lexpr", .object [("ColumnRef", .object [
      ("fields", .list [.object [("String", .object [("sval", .text "a")])]]),
      ("location", .int position)])]),
    ("rexpr", .object [("List", .object [("items", .list (numbers.map fun n =>
      .object [("A_Const", .object [("ival", .int n)])]))])]),
    ("location", .int (position + 2)), ("rexpr_list_start", .int (position + 5))])]

/-- Lists of two and of three numbers at different positions make no difference. -/
theorem same_canonical_iff_similar_membership :
    (membership 22 [1, 2]).Similar (membership 29 [3, 4, 5]) ∧
      ∃ key, expressionKeyOf (membership 22 [1, 2]) = .ok key ∧
        expressionKeyOf (membership 29 [3, 4, 5]) = .ok key := by
  have first : (membership 22 [1, 2]).WellFormed := by decide +kernel
  have second : (membership 29 [3, 4, 5]).WellFormed := by decide +kernel
  obtain ⟨-, -, iff, shared⟩ := same_canonical_iff_similar first second
  have similar := iff.mp (by decide +kernel)
  obtain ⟨key, here, there, -⟩ := shared similar
  exact ⟨similar, key, here, there⟩

end CardinalityAdvisor
