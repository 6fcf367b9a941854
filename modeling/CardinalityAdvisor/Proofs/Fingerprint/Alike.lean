import CardinalityAdvisor.Proofs.Fingerprint.WellFormed
import CardinalityAdvisor.Proofs.ParseTree.Relations

/-!
# Trees that differ only in constants

Two trees are alike if one becomes the other by changing constants, lists of constants and
positions in the source text, and by listing the fields of objects in another order. Nothing is
asked of the shape of the trees, but constants that are changed scan no relation.

## Main definitions

* `Json.ScansNothing tree`: no relation is scanned anywhere in a tree
* `Json.Alike a b`: the congruence of changing constants, lists of constants, positions and orders

## Main results

* `Json.Alike.of_items`, `Json.Alike.of_fields`: what may be changed in several places at once
* `Json.Alike.isReadable`, `Json.Alike.same_canonical`: of two trees that are alike, both have a
  canonical form or none has one, and the forms are the same
* `Json.Alike.expressionKeyOf`: trees that are alike have the same fingerprint, or none
-/

namespace CardinalityAdvisor

namespace Json

/-- The fields of a node that scans a relation. -/
def IsScan (fields : List (String × Json)) : Prop :=
  ∃ attributes, fields = [(scanTag, .object attributes)]

/-- The test for the fields of a node that scans a relation. -/
def isScan : List (String × Json) → Bool
  | [(tag, .object _)] => tag == scanTag
  | _ => false

theorem isScan_iff {fields : List (String × Json)} : isScan fields = true ↔ IsScan fields := by
  unfold isScan IsScan
  split
  · rename_i tag attributes
    simp
  · rename_i notNode
    refine iff_of_false Bool.false_ne_true ?_
    rintro ⟨attributes, rfl⟩
    exact notNode scanTag attributes rfl

instance : DecidablePred IsScan := fun _ => decidable_of_iff _ isScan_iff

/-- No relation is scanned anywhere in a tree. -/
def ScansNothing (tree : Json) : Prop := Everywhere (fun fields => ¬IsScan fields) tree

instance (tree : Json) : Decidable (ScansNothing tree) :=
  inferInstanceAs (Decidable (Everywhere (fun fields => ¬IsScan fields) tree))

/-- The congruence of changing constants, lists of constants, positions and orders: the least one
that relates any two constants and any two lists that consist of constants, as long as these scan
nothing, and any two objects that differ in a position in the source text. Objects whose relations
all have names may list their fields in any order. With a name that is no text it matters which
relation is looked at first. -/
inductive Alike : Json → Json → Prop
  | refl (a : Json) : Alike a a
  | symm {a b : Json} : Alike a b → Alike b a
  | trans {a b c : Json} : Alike a b → Alike b c → Alike a c
  | constant {x y : Json} : ScansNothing (.object [("A_Const", x)]) →
      ScansNothing (.object [("A_Const", y)]) →
      Alike (.object [("A_Const", x)]) (.object [("A_Const", y)])
  | constants {as bs : List Json} : as ≠ [] → bs ≠ [] →
      (∀ x ∈ as, x.isConstant = true ∧ x.ScansNothing) →
      (∀ x ∈ bs, x.isConstant = true ∧ x.ScansNothing) → Alike (.list as) (.list bs)
  | position {before after : List (String × Json)} {name : String} {i j : Int} :
      isErased name = true →
      Alike (.object (before ++ (name, .int i) :: after))
        (.object (before ++ (name, .int j) :: after))
  | order {fs gs : List (String × Json)} : (fs.map Prod.fst).Nodup → fs.Perm gs →
      NamesRelations (.object fs) → Alike (.object fs) (.object gs)
  | item {before after : List Json} {x y : Json} : Alike x y →
      Alike (.list (before ++ x :: after)) (.list (before ++ y :: after))
  | field {before after : List (String × Json)} {name : String} {x y : Json} : Alike x y →
      Alike (.object (before ++ (name, x) :: after)) (.object (before ++ (name, y) :: after))

/-! ## Changes in several places -/

/-- Lists are alike if their items are, one by one. -/
theorem Alike.of_items {as bs : List Json} (alike : List.Forall₂ Alike as bs) :
    Alike (.list as) (.list bs) := by
  suffices ∀ before, Alike (.list (before ++ as)) (.list (before ++ bs)) from this []
  -- The items are changed one after the other, and those before have been changed already.
  induction alike with
  | nil => exact fun before => .refl _
  | @cons x y as bs here _ ih =>
    intro before
    have rest := ih (before ++ [y])
    rw [List.append_assoc, List.append_assoc] at rest
    exact (Alike.item here).trans rest

/-- Two fields with one name whose values are alike, or that both hold a position. -/
inductive AlikeField : String × Json → String × Json → Prop
  | value {name : String} {x y : Json} : Alike x y → AlikeField (name, x) (name, y)
  | position {name : String} {i j : Int} : isErased name = true →
      AlikeField (name, .int i) (name, .int j)

/-- Objects are alike if their fields are, one by one. -/
theorem Alike.of_fields {fs gs : List (String × Json)} (alike : List.Forall₂ AlikeField fs gs) :
    Alike (.object fs) (.object gs) := by
  suffices ∀ before, Alike (.object (before ++ fs)) (.object (before ++ gs)) from this []
  induction alike with
  | nil => exact fun before => .refl _
  | @cons f g fs gs here _ ih =>
    intro before
    have rest := ih (before ++ [g])
    rw [List.append_assoc, List.append_assoc] at rest
    cases here with
    | value alike => exact (Alike.field alike).trans rest
    | position erased => exact (Alike.position erased).trans rest

/-- Objects with a single field are alike if its values are. -/
theorem Alike.alone {name : String} {x y : Json} (h : Alike x y) :
    Alike (.object [(name, x)]) (.object [(name, y)]) := .of_fields (.cons (.value h) .nil)

/-! ## One field and several -/

section Fields

variable {fs gs before after : List (String × Json)} {name : String} {value : Json}

/-- A field stands alone, or there are several whichever it is. -/
theorem alone_or_several (before after : List (String × Json)) :
    (before = [] ∧ after = []) ∨ ∀ f, (before ++ f :: after).length ≠ 1 := by
  cases before with
  | cons =>
    refine .inr fun f => ?_
    simp
  | nil =>
    cases after with
    | nil => exact .inl ⟨rfl, rfl⟩
    | cons => exact .inr fun f => by simp

/-- A single field has no other order. -/
theorem eq_or_several (perm : fs.Perm gs) : fs = gs ∨ fs.length ≠ 1 ∧ gs.length ≠ 1 := by
  by_cases one : fs.length = 1
  · obtain ⟨f, rfl⟩ := List.length_eq_one_iff.mp one
    exact .inl (List.perm_singleton.mp perm.symm).symm
  · exact .inr ⟨one, perm.length_eq ▸ one⟩

theorem isConstant_several (several : fs.length ≠ 1) : (object fs).isConstant = false := by
  unfold isConstant
  split
  · rename_i same
    cases same
    exact absurd rfl several
  · rfl

theorem castsReadable_several (several : fs.length ≠ 1) : (object fs).castsReadable = true := by
  unfold castsReadable
  split
  · rename_i same
    cases same
    exact absurd rfl several
  · rfl

theorem isOnlyField_several (several : fs.length ≠ 1) : isOnlyField name fs = false := by
  unfold isOnlyField
  split
  · exact absurd rfl several
  · rfl

theorem isOnlyField_replaced (tag : String) (before after : List (String × Json)) (name : String)
    (x y : Json) : isOnlyField tag (before ++ (name, x) :: after) =
      isOnlyField tag (before ++ (name, y) :: after) := by
  obtain ⟨rfl, rfl⟩ | several := alone_or_several before after
  · rfl
  · rw [isOnlyField_several (several _), isOnlyField_several (several _)]

theorem nodes_several (several : fs.length ≠ 1) : nodes (.object fs) = nodesOfFields fs := by
  apply nodes_untagged
  rintro tag attributes rfl
  exact absurd rfl several

/-- The order of fields does not matter to what is found under a name. -/
theorem lookup_perm (distinct : (fs.map Prod.fst).Nodup) (perm : fs.Perm gs) (name : String) :
    fs.lookup name = gs.lookup name := by
  have distinct' : (gs.map Prod.fst).Nodup := (perm.map Prod.fst).nodup_iff.mp distinct
  apply Option.ext
  intro value
  rw [lookup_eq_some_iff distinct, lookup_eq_some_iff distinct', perm.mem_iff]

end Fields

/-! ## Constants and casts -/

theorem argumentReadable_eq (fs : List (String × Json)) :
    argumentReadable fs = (fs.lookup "arg").all castsReadable := by
  induction fs with
  | nil => rfl
  | cons f rest ih =>
    rw [argumentReadable]
    by_cases here : f.1 = "arg"
    · rw [if_pos (beq_iff_eq.mpr here), ← here, lookup_cons_self, Option.all_some]
    · have other : "arg" ≠ f.1 := fun same => here same.symm
      rw [if_neg (mt beq_iff_eq.mp here), lookup_cons_of_ne other, ih]

/-- Two trees that the search for constants takes for the same. -/
structure Recognized (a b : Json) : Prop where
  isConstant : a.isConstant = b.isConstant
  castsConstant : a.castsConstant = b.castsConstant
  castsReadable : a.castsReadable = b.castsReadable
  attributesReadable : a.attributesReadable = b.attributesReadable

/-- Two objects are recognized alike if what is in them is. -/
theorem Recognized.of_object {fs gs : List (String × Json)}
    (isConstant : (object fs).isConstant = (object gs).isConstant)
    (castsReadable : (object fs).castsReadable = (object gs).castsReadable)
    (constant : (fs.lookup "arg").any Json.isConstant = (gs.lookup "arg").any Json.isConstant)
    (readable : (fs.lookup "arg").all Json.castsReadable =
      (gs.lookup "arg").all Json.castsReadable) : Recognized (.object fs) (.object gs) where
  isConstant := isConstant
  castsConstant := by
    rw [Json.castsConstant, Json.castsConstant, argumentIsConstant_eq, argumentIsConstant_eq,
      constant]
  castsReadable := castsReadable
  attributesReadable := by
    rw [Json.attributesReadable, Json.attributesReadable, argumentReadable_eq, argumentReadable_eq,
      readable]

/-- What is recognized alike may stand in the place of the other under any name. -/
theorem Recognized.replaced {x y : Json} (h : Recognized x y)
    (before after : List (String × Json)) (name : String) :
    Recognized (.object (before ++ (name, x) :: after))
      (.object (before ++ (name, y) :: after)) := by
  have constant := congrArg (Option.any id) (lookup_replaced h.isConstant before after name "arg")
  have readable := congrArg (Option.all id)
    (lookup_replaced h.castsReadable before after name "arg")
  rw [Option.any_map, Option.any_map] at constant
  rw [Option.all_map, Option.all_map] at readable
  obtain ⟨rfl, rfl⟩ | several := alone_or_several before after
  · apply Recognized.of_object _ _ constant readable
    · rw [List.nil_append, List.nil_append, Json.isConstant, Json.isConstant, h.castsConstant]
    · rw [List.nil_append, List.nil_append, Json.castsReadable, Json.castsReadable,
        h.attributesReadable]
  · apply Recognized.of_object _ _ constant readable
    · rw [isConstant_several (several _), isConstant_several (several _)]
    · rw [castsReadable_several (several _), castsReadable_several (several _)]

theorem Recognized.of_perm {fs gs : List (String × Json)} (distinct : (fs.map Prod.fst).Nodup)
    (perm : fs.Perm gs) : Recognized (.object fs) (.object gs) := by
  obtain rfl | ⟨several, several'⟩ := eq_or_several perm
  · exact ⟨rfl, rfl, rfl, rfl⟩
  · apply Recognized.of_object
    · rw [isConstant_several several, isConstant_several several']
    · rw [castsReadable_several several, castsReadable_several several']
    · rw [lookup_perm distinct perm]
    · rw [lookup_perm distinct perm]

/-- Trees that are alike are both constants or both not, and so are the arguments of casts. -/
theorem Alike.recognized {a b : Json} (h : Alike a b) : Recognized a b := by
  induction h with
  | refl => exact ⟨rfl, rfl, rfl, rfl⟩
  | symm _ ih =>
    exact ⟨ih.isConstant.symm, ih.castsConstant.symm, ih.castsReadable.symm,
      ih.attributesReadable.symm⟩
  | trans _ _ ih ih' =>
    exact ⟨ih.isConstant.trans ih'.isConstant, ih.castsConstant.trans ih'.castsConstant,
      ih.castsReadable.trans ih'.castsReadable, ih.attributesReadable.trans ih'.attributesReadable⟩
  | constant | constants | item => exact ⟨rfl, rfl, rfl, rfl⟩
  | order distinct perm => exact .of_perm distinct perm
  | position =>
    apply Recognized.replaced
    exact ⟨rfl, rfl, rfl, rfl⟩
  | field _ ih => exact ih.replaced _ _ _

/-! ## Trees that have a canonical form -/

/-- Constants can be looked through. -/
theorem castsReadable_of_isConstant {tree : Json} (h : tree.isConstant = true) :
    tree.castsReadable = true := by
  -- Whether a cast is a constant depends on its attributes, and these on their argument.
  suffices (tree.isConstant = true → tree.castsReadable = true) ∧
      (tree.castsConstant = true → tree.attributesReadable = true) from this.1 h
  clear h
  induction tree using Json.induction with
  | list => exact ⟨fun _ => rfl, nofun⟩
  | object fields ih =>
    constructor
    · intro constant
      by_cases one : fields.length = 1
      · obtain ⟨⟨tag, value⟩, rfl⟩ := List.length_eq_one_iff.mp one
        rw [Json.isConstant, Bool.or_eq_true, Bool.and_eq_true, beq_iff_eq, beq_iff_eq] at constant
        rw [Json.castsReadable]
        rcases constant with rfl | ⟨rfl, constant⟩
        · rfl
        · rw [(ih _ List.mem_cons_self).2 constant, Bool.or_true]
      · exact castsReadable_several one
    · intro constant
      rw [Json.castsConstant, argumentIsConstant_eq, Option.any_eq_true] at constant
      obtain ⟨value, found, constant⟩ := constant
      rw [Json.attributesReadable, argumentReadable_eq, found, Option.all_some]
      obtain ⟨before, after, rfl, -⟩ := List.lookup_eq_some_iff.mp found
      exact (ih _ (List.mem_append_right _ List.mem_cons_self)).1 constant
  | other tree list object =>
    have plain : tree.isConstant = false ∧ tree.castsConstant = false := by
      cases tree <;> simp_all [Json.isConstant, Json.castsConstant]
    simp [plain]

theorem itemsReadable_replaced {x y : Json} (h : Recognized x y) (before after : List Json) :
    itemsReadable (before ++ x :: after) = itemsReadable (before ++ y :: after) := by
  induction before with
  | nil =>
    rw [List.nil_append, List.nil_append, itemsReadable, itemsReadable, h.castsReadable,
      h.isConstant]
  | cons z before ih =>
    rw [List.cons_append, List.cons_append, itemsReadable, itemsReadable, ih]

theorem allReadable_eq (items : List Json) : allReadable items = items.all isReadable := by
  induction items with
  | nil => rfl
  | cons item rest ih => rw [allReadable, ih, List.all_cons]

theorem fieldsReadable_eq (fs : List (String × Json)) :
    fieldsReadable fs = fs.all fun f => isErased f.1 || f.2.isReadable := by
  induction fs with
  | nil => rfl
  | cons f rest ih => rw [fieldsReadable, ih, List.all_cons]

/-- Lists of constants can be searched for constants. -/
theorem isReadable_constants {items : List Json} (nonempty : items ≠ [])
    (constant : ∀ x ∈ items, x.isConstant = true) : (list items).isReadable = true := by
  have casts := itemsReadable_of_items fun item member =>
    castsReadable_of_isConstant (constant item member)
  have all : items.all Json.isConstant = true := List.all_eq_true.mpr constant
  have some : items.isEmpty = false := by simpa using nonempty
  rw [Json.isReadable, casts, all, some]
  rfl

/-- **Of two trees that are alike**, both have a canonical form or none has one. -/
theorem Alike.isReadable {a b : Json} (h : Alike a b) : a.isReadable = b.isReadable := by
  induction h with
  | refl => rfl
  | symm _ ih => exact ih.symm
  | trans _ _ ih ih' => exact ih.trans ih'
  | constant => rfl
  | constants nonempty nonempty' constant constant' =>
    rw [isReadable_constants nonempty fun x member => (constant x member).1,
      isReadable_constants nonempty' fun x member => (constant' x member).1]
  | @position before after name i j erased =>
    have names := isOnlyField_replaced "A_Const" before after name (.int i) (.int j)
    simp only [Json.isReadable, names, fieldsReadable_eq, List.all_append, List.all_cons, erased,
      Bool.true_or]
  | order distinct perm =>
    obtain rfl | ⟨several, several'⟩ := eq_or_several perm
    · rfl
    · rw [Json.isReadable, Json.isReadable, isOnlyField_several several,
        isOnlyField_several several', fieldsReadable_eq, fieldsReadable_eq, perm.all_eq]
  | @item before after x y alike ih =>
    have here := alike.recognized
    have nonempty (z : Json) : (before ++ z :: after).isEmpty = false := by simp
    simp only [Json.isReadable, itemsReadable_replaced here, allReadable_eq, List.all_append,
      List.all_cons, here.isConstant, ih, nonempty]
  | @field before after name x y _ ih =>
    have names := isOnlyField_replaced "A_Const" before after name x y
    simp only [Json.isReadable, names, fieldsReadable_eq, List.all_append, List.all_cons, ih]

/-! ## Canonical forms -/

theorem same_of_perm {fs gs : List (String × Json)} (distinct : (fs.map Prod.fst).Nodup)
    (perm : fs.Perm gs) : Same (.object fs) (.object gs) := by
  have distinct' : (gs.map Prod.fst).Nodup := (perm.map Prod.fst).nodup_iff.mp distinct
  rw [same_object_iff distinct distinct']
  intro name
  rw [lookup_perm distinct perm]

/-- Values that are the same may stand in the place of each other. -/
theorem Same.replaced {x y : Json} (h : Same x y) (before after : List (String × Json))
    (name : String) :
    Same (.object (before ++ (name, x) :: after)) (.object (before ++ (name, y) :: after)) := by
  rw [Same, inKeyOrder, inKeyOrder, fieldsInKeyOrder_eq, fieldsInKeyOrder_eq, List.map_append,
    List.map_append, List.map_cons, List.map_cons, h]

/-- Objects have the same canonical form if a value is replaced by another one with the same
canonical form, and what stands for the object itself, if it is a column, stays the same. -/
theorem same_canonicalWith_field {replace : Json → Option Json} {x y : Json}
    {before after : List (String × Json)} {name : String}
    (same : Same (canonicalWith replace x) (canonicalWith replace y))
    (replaced : isOnlyField "ColumnRef" (before ++ (name, y) :: after) = true →
      replace (.object (before ++ (name, x) :: after)) =
        replace (.object (before ++ (name, y) :: after))) :
    Same (canonicalWith replace (.object (before ++ (name, x) :: after)))
      (canonicalWith replace (.object (before ++ (name, y) :: after))) := by
  have constants := isOnlyField_replaced "A_Const" before after name x y
  have columns := isOnlyField_replaced "ColumnRef" before after name x y
  cases constant : isOnlyField "A_Const" (before ++ (name, y) :: after) with
  | true =>
    rw [constant] at constants
    rw [canonicalWith_constant replace constants, canonicalWith_constant replace constant]
    rfl
  | false =>
    rw [constant] at constants
    by_cases found : ∃ r, isOnlyField "ColumnRef" (before ++ (name, y) :: after) = true ∧
        replace (.object (before ++ (name, y) :: after)) = some r
    · obtain ⟨r, column, found⟩ := found
      rw [canonicalWith_replaced replace constant column found,
        canonicalWith_replaced replace constants (columns.trans column)
          ((replaced column).trans found)]
      rfl
    · have kept (column : isOnlyField "ColumnRef" (before ++ (name, y) :: after) = true) :
          replace (.object (before ++ (name, y) :: after)) = none :=
        Option.eq_none_iff_forall_ne_some.mpr fun r same => found ⟨r, column, same⟩
      rw [canonicalWith_fields replace constant kept,
        canonicalWith_fields replace constants fun column => ?_, List.filter_append,
        List.filter_append, List.filter_cons, List.filter_cons]
      · cases isErased name with
        | true => rfl
        | false =>
          rw [Bool.not_false, if_pos rfl, if_pos rfl, List.map_append, List.map_append,
            List.map_cons, List.map_cons]
          exact same.replaced _ _ name
      · rw [replaced (columns ▸ column), kept (columns ▸ column)]

/-- **Trees that are alike have the same canonical form**. -/
theorem Alike.same_canonical {a b : Json} (h : Alike a b) : Same (canonical a) (canonical b) := by
  induction h with
  | refl => rfl
  | symm _ ih => exact ih.symm
  | trans _ _ ih ih' => exact ih.trans ih'
  | constant => rfl
  | constants nonempty nonempty' constant constant' =>
    rw [canonical_constants nonempty fun x member => (constant x member).1,
      canonical_constants nonempty' fun x member => (constant' x member).1]
    rfl
  | @position before after name i j erased =>
    have other (value : Json) :
        isOnlyField "A_Const" (before ++ (name, value) :: after) = false := by
      obtain ⟨rfl, rfl⟩ | several := alone_or_several before after
      · refine beq_eq_false_iff_ne.mpr ?_
        rintro rfl
        rw [isErased_eq_false _ List.mem_cons_self] at erased
        cases erased
      · exact isOnlyField_several (several _)
    have dropped (value : Json) : canonical (.object (before ++ (name, value) :: after)) =
        canonical (.object (before ++ (name, .null) :: after)) := by
      simp only [canonical_fields (other _), List.filter_append, List.filter_cons, erased,
        Bool.not_true, Bool.false_eq_true, if_false]
    rw [dropped (.int i), dropped (.int j)]
    rfl
  | order distinct perm =>
    obtain rfl | ⟨several, several'⟩ := eq_or_several perm
    · rfl
    · rw [canonical_fields (isOnlyField_several several),
        canonical_fields (isOnlyField_several several')]
      apply same_of_perm
      · rw [List.map_map]
        exact distinct.sublist (List.filter_sublist.map _)
      · exact (perm.filter _).map _
  | item alike ih => exact same_canonical_item alike.recognized.isConstant ih _ _
  | field _ ih => exact same_canonicalWith_field ih fun _ => rfl

/-- **Trees that are alike have the same fingerprint**, or none of them has one. -/
theorem Alike.expressionKeyOf {a b : Json} (h : Alike a b) :
    Fingerprint.expressionKeyOf a = Fingerprint.expressionKeyOf b := by
  simp only [Fingerprint.expressionKeyOf, checkCasts, h.isReadable, Fingerprint.expressionKey,
    Fingerprint.treeKey, h.same_canonical.compact]

end Json

end CardinalityAdvisor
