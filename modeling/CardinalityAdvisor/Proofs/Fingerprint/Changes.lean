import CardinalityAdvisor.Fingerprint.Clause
import CardinalityAdvisor.Proofs.Fingerprint.Alike

/-!
# Changes that a clause's fingerprint does not show

Among clauses that give classes to columns, a clause may be changed in its constants, its positions
and its columns, where a column becomes another one of its class. The canonical form, in which
columns are replaced by their classes, stays the same, as long as a reference to a column keeps its
class when something inside it is changed.

## Main definitions

* `Json.TermShaped fields`: the fields of a node, where a reference to a column stands alone
* `IsMember e key column`: a column has a class
* `Change e a b`: one change of a whole tree
* `Changed e keeps a b`: changes anywhere in a tree, where references inside which something is
  changed are related
* `Interchangeable e a b`: changes by which references keep their classes
* `SameButConstants a b`: changes of constants and positions

## Main results

* `Changed.isReadable`: of two trees, one changed into the other, both have a canonical form or none
* `Interchangeable.same_canonical`: interchangeable trees have the same canonical form
* `Changed.interchangeable`: constants and positions may be changed in references as well
-/

namespace CardinalityAdvisor

namespace Json

/-- The fields of a node in which a reference to a column stands alone, as constants and casts
do. -/
structure TermShaped (fields : List (String × Json)) : Prop extends NodeShaped fields where
  reference : "ColumnRef" ∈ fields.map Prod.fst → fields.map Prod.fst = ["ColumnRef"]

instance : DecidablePred TermShaped := fun fields =>
  decidable_of_iff (NodeShaped fields ∧ ("ColumnRef" ∈ fields.map Prod.fst →
      fields.map Prod.fst = ["ColumnRef"]))
    ⟨fun ⟨node, reference⟩ => ⟨node, reference⟩, fun h => ⟨h.toNodeShaped, h.reference⟩⟩

/-- Whether the name of a field speaks of all columns. -/
def namesStar (fields : List (String × Json)) : Bool :=
  fields.any fun f => Text.occursIn "A_Star".toList f.1.toList

section Fields

variable {fs gs : List (String × Json)} {tag : String} {value : Json}

/-- A constant, a cast or a reference has no field besides. -/
theorem TermShaped.eq_singleton (h : TermShaped fs)
    (tagged : tag ∈ ["A_Const", "TypeCast", "ColumnRef"]) (found : fs.lookup tag = some value) :
    fs = [(tag, value)] := by
  have member : (tag, value) ∈ fs := (lookup_eq_some_iff h.distinct).mp found
  have present : tag ∈ fs.map Prod.fst := List.mem_map.mpr ⟨_, member, rfl⟩
  have names : fs.map Prod.fst = [tag] := by
    simp only [List.mem_cons, List.not_mem_nil, or_false] at tagged
    rcases tagged with rfl | rfl | rfl
    · exact h.alone _ (by simp) present
    · exact h.alone _ (by simp) present
    · exact h.reference present
  obtain ⟨f, rfl⟩ := List.length_eq_one_iff.mp (by simpa using congrArg List.length names)
  rw [List.mem_singleton.mp member]

theorem TermShaped.isOnlyField (h : TermShaped fs)
    (tagged : tag ∈ ["A_Const", "TypeCast", "ColumnRef"]) :
    isOnlyField tag fs = (fs.lookup tag).isSome := by
  cases found : fs.lookup tag with
  | some value =>
    rw [h.eq_singleton tagged found]
    exact beq_self_eq_true tag
  | none =>
    unfold CardinalityAdvisor.isOnlyField
    split
    · rename_i only value
      refine beq_eq_false_iff_ne.mpr ?_
      rintro rfl
      rw [lookup_cons_self (only, value)] at found
      cases found
    · rfl

theorem mem_of_isOnlyField (h : CardinalityAdvisor.isOnlyField tag fs = true) :
    tag ∈ fs.map Prod.fst := by
  unfold CardinalityAdvisor.isOnlyField at h
  split at h
  · simpa using (beq_iff_eq.mp h).symm
  · cases h

theorem NodeShaped.castsReadable (h : NodeShaped fs) :
    (object fs).castsReadable = (fs.lookup "TypeCast").all attributesReadable := by
  cases cast : fs.lookup "TypeCast" with
  | some value =>
    rw [h.eq_singleton (by simp) cast, Json.castsReadable]
    rfl
  | none =>
    refine castsReadable_other fun attributes same => ?_
    cases same
    cases cast

/-- Objects are the same after a change of the values if they have the same values under the names
that are kept. -/
theorem same_of_lookup (distinct : (fs.map Prod.fst).Nodup) (distinct' : (gs.map Prod.fst).Nodup)
    (same : ∀ name, isErased name = false → fs.lookup name = gs.lookup name)
    (change : Json → Json) :
    Same (.object ((fs.filter fun f => !isErased f.1).map fun f => (f.1, change f.2)))
      (.object ((gs.filter fun f => !isErased f.1).map fun f => (f.1, change f.2))) := by
  have names {fields : List (String × Json)} (h : (fields.map Prod.fst).Nodup) :
      (((fields.filter fun f => !isErased f.1).map fun f => (f.1, change f.2)).map
        Prod.fst).Nodup := by
    rw [List.map_map]
    exact h.sublist (List.filter_sublist.map _)
  rw [same_object_iff (names distinct) (names distinct')]
  intro name
  rw [lookup_map fun _ => change, lookup_map fun _ => change,
    lookup_filter fun name => !isErased name, lookup_filter fun name => !isErased name]
  cases erased : isErased name with
  | true => rfl
  | false => rw [same name erased]

/-- Whether all values that are kept pass a test is told by what is found under the names. -/
theorem all_kept_iff (distinct : (fs.map Prod.fst).Nodup) (test : Json → Bool) :
    (fs.all fun f => isErased f.1 || test f.2) = true ↔
      ∀ name, isErased name = false → (fs.lookup name).all test = true := by
  rw [List.all_eq_true]
  constructor
  · intro all name kept
    rw [Option.all_eq_true]
    intro value found
    have passes := all _ ((lookup_eq_some_iff distinct).mp found)
    rwa [kept, Bool.false_or] at passes
  · intro all f member
    cases kept : isErased f.1 with
    | true => rfl
    | false =>
      have passes := all f.1 kept
      rwa [(lookup_eq_some_iff distinct).mpr member, Option.all_some] at passes

end Fields

end Json

namespace Fingerprint

/-! ## Changes -/

/-- A reference to a column that has a class. -/
structure IsMember (e : Equivalence) (key : Int) (column : Json) : Prop where
  alone : ∃ parts, column = .object [("ColumnRef", parts)]
  single : isColumnRef column = .ok true
  readable : column.isReadable = true
  classOf : e.classOf column = some key

/-- One change of a whole tree: the value of a constant, a list of constants, positions in the
source text, or a column that becomes another one of its class. -/
inductive Change (e : Equivalence) : Json → Json → Prop
  | constant (x y : Json) : Change e (.object [("A_Const", x)]) (.object [("A_Const", y)])
  | constants {as bs : List Json} : as ≠ [] → bs ≠ [] → (∀ x ∈ as, x.isConstant = true) →
      (∀ x ∈ bs, x.isConstant = true) → Change e (.list as) (.list bs)
  | positions {fs gs : List (String × Json)} : Json.TermShaped fs → Json.TermShaped gs →
      Json.namesStar fs = Json.namesStar gs →
      (∀ name, isErased name = false → fs.lookup name = gs.lookup name) →
      Change e (.object fs) (.object gs)
  | column {x y : Json} {key : Int} : IsMember e key (.object [("ColumnRef", x)]) →
      IsMember e key (.object [("ColumnRef", y)]) →
      Change e (.object [("ColumnRef", x)]) (.object [("ColumnRef", y)])

theorem Change.of_members {e : Equivalence} {a b : Json} {key : Int} (ha : IsMember e key a)
    (hb : IsMember e key b) : Change e a b := by
  obtain ⟨x, rfl⟩ := ha.alone
  obtain ⟨y, rfl⟩ := hb.alone
  exact .column ha hb

/-- Changes anywhere in a tree, any number of times. References inside which something is changed
are related by `keeps`. -/
inductive Changed (e : Equivalence) (keeps : Json → Json → Prop) : Json → Json → Prop
  | refl (a : Json) : Changed e keeps a a
  | symm {a b : Json} : Changed e keeps a b → Changed e keeps b a
  | trans {a b c : Json} : Changed e keeps a b → Changed e keeps b c → Changed e keeps a c
  | change {a b : Json} : Change e a b → Changed e keeps a b
  | item {before after : List Json} {x y : Json} : Changed e keeps x y →
      Changed e keeps (.list (before ++ x :: after)) (.list (before ++ y :: after))
  | field {before after : List (String × Json)} {name : String} {x y : Json} :
      ("ColumnRef" ∈ (before ++ (name, x) :: after).map Prod.fst →
        keeps (.object (before ++ (name, x) :: after)) (.object (before ++ (name, y) :: after))) →
      Changed e keeps x y →
      Changed e keeps (.object (before ++ (name, x) :: after))
        (.object (before ++ (name, y) :: after))

/-- Changes of constants and positions anywhere in a tree. -/
abbrev SameButConstants : Json → Json → Prop := Changed .empty fun _ _ => True

/-- Changes by which references to columns keep their classes. -/
abbrev Interchangeable (e : Equivalence) : Json → Json → Prop :=
  Changed e fun a b => e.classOf a = e.classOf b

namespace Changed

variable {e : Equivalence} {keeps : Json → Json → Prop} {a b : Json}

theorem recognized (h : Changed e keeps a b) : Json.Recognized a b := by
  induction h with
  | refl => exact ⟨rfl, rfl, rfl, rfl⟩
  | symm _ ih =>
    exact ⟨ih.isConstant.symm, ih.castsConstant.symm, ih.castsReadable.symm,
      ih.attributesReadable.symm⟩
  | trans _ _ ih ih' =>
    exact ⟨ih.isConstant.trans ih'.isConstant, ih.castsConstant.trans ih'.castsConstant,
      ih.castsReadable.trans ih'.castsReadable, ih.attributesReadable.trans ih'.attributesReadable⟩
  | change change =>
    cases change with
    | constant | constants | column => exact ⟨rfl, rfl, rfl, rfl⟩
    | positions shaped shaped' _ same =>
      have arg := same "arg" (Json.isErased_eq_false _ (by simp))
      have cast := same "TypeCast" (Json.isErased_eq_false _ (by simp))
      have constant := same "A_Const" (Json.isErased_eq_false _ (by simp))
      apply Json.Recognized.of_object
      · rw [shaped.isConstant, shaped'.isConstant, constant, cast]
      · rw [shaped.castsReadable, shaped'.castsReadable, cast]
      · rw [arg]
      · rw [arg]
  | item => exact ⟨rfl, rfl, rfl, rfl⟩
  | field _ _ ih => exact ih.replaced _ _ _

/-- **Of two trees**, one changed into the other, both have a canonical form or none has one. -/
theorem isReadable (h : Changed e keeps a b) : a.isReadable = b.isReadable := by
  induction h with
  | refl => rfl
  | symm _ ih => exact ih.symm
  | trans _ _ ih ih' => exact ih.trans ih'
  | change change =>
    cases change with
    | constant => rfl
    | constants nonempty nonempty' constant constant' =>
      rw [Json.isReadable_constants nonempty constant,
        Json.isReadable_constants nonempty' constant']
    | @positions fs gs shaped shaped' _ same =>
      have constant := same "A_Const" (Json.isErased_eq_false _ (by simp))
      rw [Json.isReadable, Json.isReadable, shaped.isOnlyField (by simp),
        shaped'.isOnlyField (by simp), constant, Json.fieldsReadable_eq, Json.fieldsReadable_eq]
      congr 1
      rw [Bool.eq_iff_iff, Json.all_kept_iff shaped.distinct, Json.all_kept_iff shaped'.distinct]
      exact forall₂_congr fun name kept => by rw [same name kept]
    | column member member' => rw [member.readable, member'.readable]
  | @item before after x y changed ih =>
    have here := changed.recognized
    have nonempty (z : Json) : (before ++ z :: after).isEmpty = false := by simp
    simp only [Json.isReadable, Json.itemsReadable_replaced here, Json.allReadable_eq,
      List.all_append, List.all_cons, here.isConstant, ih, nonempty]
  | @field before after name x y _ _ ih =>
    have names := Json.isOnlyField_replaced "A_Const" before after name x y
    simp only [Json.isReadable, names, Json.fieldsReadable_eq, List.all_append, List.all_cons, ih]

end Changed

/-- **Interchangeable trees have the same canonical form**. -/
theorem Interchangeable.same_canonical {e : Equivalence} {a b : Json} (h : Interchangeable e a b) :
    (canonicalWith e.replacement a).Same (canonicalWith e.replacement b) := by
  induction h with
  | refl => rfl
  | symm _ ih => exact ih.symm
  | trans _ _ ih ih' => exact ih.trans ih'
  | change change =>
    cases change with
    | constant => rfl
    | constants nonempty nonempty' constant constant' =>
      rw [Json.canonicalWith_constants _ nonempty constant,
        Json.canonicalWith_constants _ nonempty' constant']
      rfl
    | @positions fs gs shaped shaped' _ same =>
      have constant := same "A_Const" (by decide +kernel)
      have reference := same "ColumnRef" (by decide +kernel)
      cases column : gs.lookup "ColumnRef" with
      | some value =>
        rw [shaped.eq_singleton (by simp) (reference.trans column),
          shaped'.eq_singleton (by simp) column]
        rfl
      | none =>
        have other {fields : List (String × Json)} (h : Json.TermShaped fields)
            (missing : fields.lookup "ColumnRef" = none) :
            isOnlyField "ColumnRef" fields = true → e.replacement (.object fields) = none := by
          rw [h.isOnlyField (by simp), missing]
          exact fun only => absurd only Bool.false_ne_true
        cases erased : isOnlyField "A_Const" gs with
        | true =>
          have erased' := erased
          rw [shaped'.isOnlyField (by simp), ← constant, ← shaped.isOnlyField (by simp)] at erased'
          rw [Json.canonicalWith_constant _ erased, Json.canonicalWith_constant _ erased']
          rfl
        | false =>
          have erased' := erased
          rw [shaped'.isOnlyField (by simp), ← constant, ← shaped.isOnlyField (by simp)] at erased'
          rw [Json.canonicalWith_fields _ erased (other shaped' column),
            Json.canonicalWith_fields _ erased' (other shaped (reference.trans column))]
          exact Json.same_of_lookup shaped.distinct shaped'.distinct same _
    | column member member' =>
      simp [canonicalWith, isOnlyField, Equivalence.replacement, member.classOf, member'.classOf]
      rfl
  | item changed ih => exact Json.same_canonicalWith_item _ changed.recognized.isConstant ih _ _
  | @field before after name x y keeps _ ih =>
    refine Json.same_canonicalWith_field ih fun column => ?_
    rw [← Json.isOnlyField_replaced "ColumnRef" before after name x y] at column
    have present := Json.mem_of_isOnlyField column
    rw [Equivalence.replacement, Equivalence.replacement, keeps present]

/-! ## Changes in references to columns -/

@[simp]
theorem classOf_empty (column : Json) : Equivalence.empty.classOf column = none := rfl

@[simp]
theorem replacement_empty : Equivalence.empty.replacement = fun _ => none := rfl

/-- Where no columns are known to be equal, none has a class that could change. -/
theorem Changed.of_empty {keeps : Json → Json → Prop} {a b : Json}
    (h : Changed .empty keeps a b) : Interchangeable .empty a b := by
  induction h with
  | refl a => exact .refl a
  | symm _ ih => exact ih.symm
  | trans _ _ ih ih' => exact ih.trans ih'
  | change change => exact .change change
  | item _ ih => exact .item ih
  | field _ _ ih => exact .field (fun _ => by simp) ih

theorem Changed.expressionKey_eq {keeps : Json → Json → Prop} {a b : Json}
    (h : Changed .empty keeps a b) : expressionKey a = expressionKey b := by
  have same := h.of_empty.same_canonical
  rw [replacement_empty] at same
  exact congrArg digestOf same.compact

/-- A change that is none of columns may be made among any classes. -/
theorem Change.of_empty {e : Equivalence} {a b : Json} (h : Change .empty a b) : Change e a b := by
  cases h with
  | constant x y => exact .constant x y
  | constants nonempty nonempty' constant constant' =>
    exact .constants nonempty nonempty' constant constant'
  | positions shaped shaped' star same => exact .positions shaped shaped' star same
  | column member => simpa using member.classOf

/-- **Constants and positions** may be changed in references to columns as well, whatever classes
the columns have. -/
theorem Changed.interchangeable {keeps : Json → Json → Prop} {a b : Json}
    (h : Changed .empty keeps a b) (e : Equivalence) : Interchangeable e a b := by
  induction h with
  | refl a => exact .refl a
  | symm _ ih => exact ih.symm
  | trans _ _ ih ih' => exact ih.trans ih'
  | change change => exact .change change.of_empty
  | item _ ih => exact .item ih
  | field keeps changed ih =>
    refine .field (fun _ => ?_) ih
    rw [Equivalence.classOf, Equivalence.classOf, (Changed.field keeps changed).expressionKey_eq]

end Fingerprint

end CardinalityAdvisor
