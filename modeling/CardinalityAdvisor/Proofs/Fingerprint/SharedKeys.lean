import CardinalityAdvisor.Proofs.Fingerprint.Classes
import CardinalityAdvisor.Proofs.Fingerprint.Kinds
import CardinalityAdvisor.Proofs.Fingerprint.Similar
import CardinalityAdvisor.Proofs.ParseTree.Views

/-!
# Clauses that share a fingerprint

The fingerprint of a clause among others is either the key of a class, if the clause is an equality
of two columns of the class, or that of the clause with its columns replaced by their classes. So
two clauses share a fingerprint only in joins of the same type, and only if both are equalities in
one class, or if they are similar after their columns were replaced. All else is a collision.

## Main definitions

* `Json.inClasses e tree`: a tree with the classes of its columns in their places
* `EquatesMembers e key clause`: a clause is an equality of two columns of one class
* `Merged e a e' b`: two clauses, each among its own, are not told apart
* `ClauseParts e join clause parts`: what is digested for the fingerprint of a clause

## Main results

* `Json.canonicalWith_replacement`: the canonical form with classes is that of such a tree
* `Merged.similar`: where no columns have classes, only similar clauses are not told apart
* `merged_or_confused`: what clauses with the same fingerprint have in common
-/

namespace CardinalityAdvisor

open Fingerprint

namespace Json

/-! ## Columns replaced by their classes -/

mutual
/-- A tree in which the columns that have a class are replaced by it. -/
def inClasses (e : Equivalence) : Json → Json
  | .list items => .list (itemsInClasses e items)
  | .object fields =>
    match if isOnlyField "ColumnRef" fields then e.replacement (.object fields) else none with
    | some node => node
    | none => .object (fieldsInClasses e fields)
  | other => other

/-- The items of a list, in which columns are replaced. -/
def itemsInClasses (e : Equivalence) : List Json → List Json
  | [] => []
  | item :: rest => inClasses e item :: itemsInClasses e rest

/-- Fields in whose values columns are replaced. -/
def fieldsInClasses (e : Equivalence) : List (String × Json) → List (String × Json)
  | [] => []
  | (name, value) :: rest => (name, inClasses e value) :: fieldsInClasses e rest
end

section

variable {e : Equivalence} {tree : Json} {items : List Json} {fields : List (String × Json)}

@[simp] theorem inClasses_list : (list items).inClasses e = .list (items.map (·.inClasses e)) := by
  rw [inClasses]
  congr 1
  induction items with
  | nil => rfl
  | cons item rest ih => rw [itemsInClasses, ih, List.map_cons]

theorem fieldsInClasses_eq (fields : List (String × Json)) :
    fieldsInClasses e fields = fields.map fun f => (f.1, f.2.inClasses e) := by
  induction fields with
  | nil => rfl
  | cons f rest ih => rw [fieldsInClasses, ih, List.map_cons]

theorem inClasses_other (list : ∀ items, tree ≠ .list items)
    (object : ∀ fields, tree ≠ .object fields) : tree.inClasses e = tree := by
  unfold inClasses
  split
  · exact absurd rfl (list _)
  · exact absurd rfl (object _)
  · rfl

/-- An object is a column that is replaced by its class, or its fields are gone through. -/
theorem cases_inClasses (e : Equivalence) (fields : List (String × Json)) :
    (∃ value key, fields = [("ColumnRef", value)] ∧ e.classOf (.object fields) = some key ∧
        (object fields).inClasses e = .object [("EquivalenceClass", .int key)]) ∨
      (isOnlyField "ColumnRef" fields = true → e.replacement (.object fields) = none) ∧
        (object fields).inClasses e = .object (fields.map fun f => (f.1, f.2.inClasses e)) := by
  rw [inClasses, fieldsInClasses_eq]
  cases column : isOnlyField "ColumnRef" fields with
  | false => exact .inr ⟨nofun, rfl⟩
  | true =>
    rw [if_pos rfl]
    cases found : e.classOf (.object fields) with
    | none =>
      have kept : e.replacement (.object fields) = none := by
        rw [Equivalence.replacement, found]
        rfl
      rw [kept]
      exact .inr ⟨fun _ => rfl, rfl⟩
    | some key =>
      have replaced : e.replacement (.object fields) =
          some (.object [("EquivalenceClass", .int key)]) := by
        rw [Equivalence.replacement, found]
        rfl
      rw [replaced]
      unfold isOnlyField at column
      split at column
      · rename_i only value
        obtain rfl : only = "ColumnRef" := beq_iff_eq.mp column
        exact .inl ⟨value, key, rfl, rfl, rfl⟩
      · cases column

theorem exists_inClasses_object (e : Equivalence) (fields : List (String × Json)) :
    ∃ fields', (object fields).inClasses e = .object fields' := by
  obtain ⟨_, _, -, -, same⟩ | ⟨-, same⟩ := cases_inClasses e fields
  · exact ⟨_, same⟩
  · exact ⟨_, same⟩

/-- Columns are no constants, and neither are classes. -/
theorem isConstant_inClasses (e : Equivalence) (tree : Json) :
    (tree.inClasses e).isConstant = tree.isConstant ∧
      (tree.inClasses e).castsConstant = tree.castsConstant := by
  induction tree using Json.induction with
  | list items ih =>
    rw [inClasses_list]
    exact ⟨rfl, rfl⟩
  | object fields ih =>
    obtain ⟨value, key, rfl, -, same⟩ | ⟨-, same⟩ := cases_inClasses e fields
    · rw [same]
      simp [isConstant, castsConstant, argumentIsConstant]
    rw [same]
    constructor
    · obtain _ | ⟨f, _ | ⟨g, rest⟩⟩ := fields
      · rfl
      · rw [List.map_singleton, isConstant, isConstant, (ih f List.mem_cons_self).2]
      · rfl
    · rw [castsConstant, castsConstant]
      clear same
      induction fields with
      | nil => rfl
      | cons f rest rest_ih =>
        rw [List.map_cons, argumentIsConstant, argumentIsConstant, (ih f List.mem_cons_self).1,
          rest_ih fun g member => ih g (List.mem_cons_of_mem _ member)]
  | other tree list object =>
    rw [inClasses_other list object]
    exact ⟨rfl, rfl⟩

theorem all_isConstant_inClasses :
    (∀ x ∈ items.map (·.inClasses e), x.isConstant = true) ↔ ∀ x ∈ items, x.isConstant = true := by
  rw [List.forall_mem_map]
  exact forall₂_congr fun x _ => by rw [(isConstant_inClasses e x).1]

/-- **The canonical form with classes** in the place of columns is the canonical form of the tree
with the classes in their places. -/
theorem canonicalWith_replacement (e : Equivalence) (tree : Json) :
    canonicalWith e.replacement tree = canonical (tree.inClasses e) := by
  induction tree using Json.induction with
  | list items ih =>
    rw [inClasses_list]
    by_cases constants : items ≠ [] ∧ ∀ x ∈ items, x.isConstant = true
    · rw [canonicalWith_constants _ constants.1 constants.2,
        canonical_constants (by simpa using constants.1)
          (all_isConstant_inClasses.mpr constants.2)]
    · have mixed : ¬(items.map (·.inClasses e) ≠ [] ∧
          ∀ x ∈ items.map (·.inClasses e), x.isConstant = true) := by
        rw [all_isConstant_inClasses, ne_eq, List.map_eq_nil_iff]
        exact constants
      rw [canonicalWith_list _ constants, canonical_list mixed, List.map_map]
      exact congrArg list (List.map_congr_left ih)
  | object fields ih =>
    obtain ⟨value, key, rfl, found, same⟩ | ⟨kept, same⟩ := cases_inClasses e fields
    · rw [same, canonicalWith_replaced _ rfl rfl (by rw [Equivalence.replacement, found]; rfl)]
      rfl
    rw [same]
    cases constant : isOnlyField "A_Const" fields with
    | true =>
      rw [canonicalWith_constant _ constant, canonical_constant]
      unfold isOnlyField at constant ⊢
      split at constant
      · exact constant
      · cases constant
    | false =>
      rw [canonicalWith_fields _ constant kept, canonical_fields, List.filter_map, List.map_map]
      · congr 1
        exact List.map_congr_left fun f member => by
          rw [Function.comp_apply, ih f (List.mem_filter.mp member).1]
      · obtain _ | ⟨f, _ | ⟨g, rest⟩⟩ := fields
        · rfl
        · exact constant
        · rfl
  | other tree list object =>
    rw [inClasses_other list object, canonical_other list object]
    unfold canonicalWith
    split
    · exact absurd rfl (list _)
    · exact absurd rfl (object _)
    · rfl

/-- Without classes, nothing is replaced. -/
theorem inClasses_of_nil (none : e.classes = []) (tree : Json) : tree.inClasses e = tree := by
  induction tree using Json.induction with
  | list items ih => rw [inClasses_list, List.map_congr_left ih, List.map_id']
  | object fields ih =>
    obtain ⟨_, _, -, found, -⟩ | ⟨-, same⟩ := cases_inClasses e fields
    · rw [Equivalence.classOf, none] at found
      cases found
    have unchanged : ∀ f ∈ fields, (f.1, f.2.inClasses e) = f := fun f member => by
      rw [ih f member]
    rw [same, List.map_congr_left unchanged, List.map_id']
  | other tree list object => exact inClasses_other list object

theorem WellFormed.inClasses (h : WellFormed tree) (e : Equivalence) :
    WellFormed (tree.inClasses e) := by
  induction tree using Json.induction with
  | list items ih =>
    rw [inClasses_list]
    refine everywhere_list.mpr (List.forall_mem_map.mpr fun item member => ?_)
    exact ih item member (h.item member)
  | object fields ih =>
    obtain ⟨value, key, -, -, same⟩ | ⟨-, same⟩ := cases_inClasses e fields
    · rw [same]
      refine everywhere_object.mpr ⟨⟨by simp, by simp, by simp⟩, ?_⟩
      exact List.forall_mem_singleton.mpr (everywhere_other nofun nofun)
    rw [same]
    have names : (fields.map fun f => (f.1, f.2.inClasses e)).map Prod.fst =
        fields.map Prod.fst := List.map_map
    refine everywhere_object.mpr ⟨⟨?_, ?_, ?_⟩, ?_⟩
    · rw [names]
      exact h.here.distinct
    · rw [names]
      exact h.here.alone
    · refine List.forall_mem_map.mpr fun f member cast => ?_
      obtain ⟨attributes, object⟩ := h.here.cast f member cast
      rw [object]
      exact exists_inClasses_object e attributes
    · exact List.forall_mem_map.mpr fun f member => ih f member (h.field member)
  | other tree list object =>
    rw [inClasses_other list object]
    exact h

theorem Plain.inClasses (h : tree.Plain) (e : Equivalence) : (tree.inClasses e).Plain := by
  induction tree using Json.induction with
  | list items ih =>
    rw [plain_list] at h
    rw [inClasses_list, plain_list]
    exact List.forall_mem_map.mpr fun item member => ih item member (h item member)
  | object fields ih =>
    obtain ⟨value, key, -, -, same⟩ | ⟨-, same⟩ := cases_inClasses e fields
    · rw [same, plain_object]
      have whole : Text.isWhole "EquivalenceClass" = true := by decide +kernel
      exact List.forall_mem_singleton.mpr ⟨whole, rfl⟩
    · rw [plain_object] at h
      rw [same, plain_object]
      exact List.forall_mem_map.mpr fun f member => ⟨(h f member).1, ih f member (h f member).2⟩
  | other tree list object =>
    rw [inClasses_other list object]
    exact h

end

/-- A clause as it is parsed: a well-formed node without doubles, in whose texts no half of a
surrogate pair stands alone. -/
structure IsParsed (clause : Json) : Prop where
  isObject : clause.isObject = true
  wellFormed : clause.WellFormed
  plain : clause.Plain

instance : DecidablePred IsParsed := fun clause =>
  decidable_of_iff (clause.isObject = true ∧ clause.WellFormed ∧ clause.Plain)
    ⟨fun ⟨isObject, wellFormed, plain⟩ => ⟨isObject, wellFormed, plain⟩,
      fun h => ⟨h.isObject, h.wellFormed, h.plain⟩⟩

end Json

namespace Fingerprint

variable {e e' : Equivalence} {join join' : JoinType} {a b clause : Json} {key : Int}

/-! ## Clauses that are not told apart -/

/-- A clause is an equality of two columns of the class with a key. -/
def EquatesMembers (e : Equivalence) (key : Int) (clause : Json) : Prop :=
  ∃ left right, equalityArguments clause = .ok (some (left, right)) ∧
    e.classOf left = some key ∧ e.classOf right = some key

/-- Two clauses, each among others that give classes to columns, are not told apart: both are
equalities in the same class, or they are similar after their columns were replaced by their
classes. -/
def Merged (e : Equivalence) (a : Json) (e' : Equivalence) (b : Json) : Prop :=
  (∃ key, EquatesMembers e key a ∧ EquatesMembers e' key b) ∨
    (a.inClasses e).Similar (b.inClasses e')

/-- Where no columns have classes, only similar clauses are not told apart. -/
theorem Merged.similar (h : Merged e a e' b) (none : e.classes = []) (none' : e'.classes = []) :
    a.Similar b := by
  obtain ⟨key, ⟨left, right, -, classOf, -⟩, -⟩ | similar := h
  · rw [Equivalence.classOf, none] at classOf
    cases classOf
  · rwa [Json.inClasses_of_nil none, Json.inClasses_of_nil none'] at similar

/-! ## What is digested for a fingerprint -/

/-- A block of columns that clauses connect. -/
def Equivalence.HasBlock (e : Equivalence) (block : List Int) : Prop :=
  ∃ blocks, e = .ofBlocks blocks ∧ block ∈ blocks

/-- What the fingerprint of a clause in an inner join is made of: the class of an equality, or else
the clause itself. -/
inductive BaseParts (e : Equivalence) (clause : Json) : Parts → Prop
  | members {block : List Int} : e.HasBlock block → EquatesMembers e (classKey block) clause →
      BaseParts e clause (.columns block)
  | tree {fields : List (String × Json)} : (¬∃ key, EquatesMembers e key clause) →
      clause.inClasses e = .object fields → BaseParts e clause (.expression fields)

/-- What is digested for the fingerprint of a clause. Other types of joins are folded in last. -/
inductive ClauseParts (e : Equivalence) (join : JoinType) (clause : Json) : Parts → Prop
  | base {parts : Parts} : BaseParts e clause parts → ClauseParts e join clause parts
  | joined {parts : Parts} (outer : join ≠ .inner) : BaseParts e clause parts →
      ClauseParts e join clause (.joined join outer parts.key)

/-- Among what is digested for the fingerprints of two clauses, two different texts have the same
digest. -/
def Confused (e : Equivalence) (join : JoinType) (a : Json) (e' : Equivalence) (join' : JoinType)
    (b : Json) : Prop :=
  ∃ parts parts', ClauseParts e join a parts ∧ ClauseParts e' join' b parts' ∧
    Collide parts.text parts'.text

/-- The class of a column among clauses is that of one of the blocks. -/
theorem exists_block {clauses : List Json} {column : Json}
    (classes : Equivalence.ofClauses clauses = .ok e) (found : e.classOf column = some key) :
    ∃ block, e.HasBlock block ∧ classKey block = key := by
  rw [Equivalence.ofClauses] at classes
  cases equalities : Equivalence.equalities clauses with
  | error fault =>
    rw [equalities] at classes
    cases classes
  | ok pairs =>
    rw [equalities] at classes
    cases classes
    rw [Equivalence.classOf, lookup_ofBlocks, Option.map_eq_some_iff] at found
    obtain ⟨block, member, same⟩ := found
    exact ⟨block, ⟨_, rfl, List.mem_of_find?_eq_some member⟩, same⟩

/-- A class that both sides of an equality have in common. -/
theorem commonClass_eq_some_iff {arguments : Option (Json × Json)}
    (sides : equalityArguments clause = .ok arguments) :
    commonClass e arguments = some key ↔ EquatesMembers e key clause := by
  rw [EquatesMembers, sides]
  match arguments with
  | none => simp [commonClass]
  | some (left, right) =>
    rw [commonClass, Option.filter_eq_some_iff]
    constructor
    · rintro ⟨onLeft, onRight⟩
      exact ⟨left, right, rfl, onLeft, beq_iff_eq.mp onRight⟩
    · rintro ⟨_, _, same, onLeft, onRight⟩
      cases same
      exact ⟨onLeft, beq_iff_eq.mpr onRight⟩

/-- The fingerprint of a parsed clause is made of its parts. -/
theorem exists_parts {clauses : List Json} (classes : Equivalence.ofClauses clauses = .ok e)
    (isObject : clause.isObject = true) (fingerprint : clauseKey e join clause = .ok key) :
    ∃ parts, BaseParts e clause parts ∧ key = foldJoin join parts.key := by
  rw [clauseKey] at fingerprint
  cases sides : equalityArguments clause with
  | error fault =>
    rw [sides] at fingerprint
    cases fingerprint
  | ok arguments =>
    have equates (base : Int) : commonClass e arguments = some base ↔
        EquatesMembers e base clause := commonClass_eq_some_iff sides
    simp only [sides, bind, Except.bind] at fingerprint
    split at fingerprint
    · cases fingerprint
    cases common : commonClass e arguments with
    | some base =>
      simp only [common] at fingerprint
      cases fingerprint
      have members := (equates base).mp common
      obtain ⟨left, right, -, found, -⟩ := members
      obtain ⟨block, inside, rfl⟩ := exists_block classes found
      exact ⟨_, .members inside ((equates _).mp common), rfl⟩
    | none =>
      simp only [common, canonicalFormWith] at fingerprint
      obtain ⟨fields, rfl⟩ := Json.exists_fields isObject
      obtain ⟨fields', same⟩ := Json.exists_inClasses_object e fields
      refine ⟨.expression fields', .tree ?_ same, ?_⟩
      · rintro ⟨other, members⟩
        rw [← equates, common] at members
        cases members
      · rw [Json.checkCasts] at fingerprint
        split at fingerprint
        · cases fingerprint
          rw [Json.canonicalWith_replacement, same]
          rfl
        · cases fingerprint

/-- A fingerprint tells the type of its join, and the fingerprint without it. -/
theorem base_or_confused {parts parts' : Parts} (own : BaseParts e a parts)
    (own' : BaseParts e' b parts') (same : foldJoin join parts.key = foldJoin join' parts'.key) :
    join = join' ∧ parts.key = parts'.key ∨ Confused e join a e' join' b := by
  by_cases inner : join = .inner
  · by_cases inner' : join' = .inner
    · rw [foldJoin, foldJoin, if_pos inner, if_pos inner'] at same
      exact .inl ⟨inner.trans inner'.symm, same⟩
    · rw [foldJoin, if_pos inner] at same
      obtain agree | collide := Parts.agree_or_collide (b := .joined join' inner' parts'.key) same
      · cases own <;> exact agree.elim
      · exact .inr ⟨_, _, .base own, .joined inner' own', collide⟩
  · by_cases inner' : join' = .inner
    · rw [foldJoin.eq_1 join', if_pos inner'] at same
      obtain agree | collide := Parts.agree_or_collide (a := .joined join inner parts.key) same
      · cases own' <;> exact agree.elim
      · exact .inr ⟨_, _, .joined inner own, .base own', collide⟩
    · obtain agree | collide := Parts.agree_or_collide (a := .joined join inner parts.key)
        (b := .joined join' inner' parts'.key) same
      · exact .inl agree
      · exact .inr ⟨_, _, .joined inner own, .joined inner' own', collide⟩

/-- **Clauses with the same fingerprint** belong to joins of the same type and are not told apart,
unless two different texts that were digested have the same digest. -/
theorem merged_or_confused {among among' : List Json}
    (classes : Equivalence.ofClauses among = .ok e)
    (classes' : Equivalence.ofClauses among' = .ok e') (ha : a.IsParsed) (hb : b.IsParsed)
    (fingerprint : clauseKey e join a = .ok key) (fingerprint' : clauseKey e' join' b = .ok key) :
    join = join' ∧ Merged e a e' b ∨ Confused e join a e' join' b := by
  obtain ⟨parts, own, folded⟩ := exists_parts classes ha.isObject fingerprint
  obtain ⟨parts', own', folded'⟩ := exists_parts classes' hb.isObject fingerprint'
  obtain ⟨type, same⟩ | confused := base_or_confused own own' (folded.symm.trans folded')
  swap
  · exact .inr confused
  obtain agree | collide := Parts.agree_or_collide same
  swap
  · exact .inr ⟨_, _, .base own, .base own', collide⟩
  refine .inl ⟨type, ?_⟩
  cases own with
  | members inside members =>
    cases own' with
    | members inside' members' =>
      change classKey _ = classKey _ at same
      exact .inl ⟨_, members, same ▸ members'⟩
    | tree => exact agree.elim
  | tree _ object =>
    cases own' with
    | members => exact agree.elim
    | tree _ object' =>
      have plain := ha.plain.inClasses e
      have plain' := hb.plain.inClasses e'
      have shaped := ha.wellFormed.inClasses e
      have shaped' := hb.wellFormed.inClasses e'
      rw [Merged, object, object']
      rw [object] at plain shaped
      rw [object'] at plain' shaped'
      exact .inr (Json.similar_of_same_canonical shaped shaped'
        ((Parts.agree_expression_iff plain plain').mp agree))

end Fingerprint

end CardinalityAdvisor
