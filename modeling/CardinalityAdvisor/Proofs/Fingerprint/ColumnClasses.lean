import CardinalityAdvisor.Proofs.Fingerprint.Classes
import CardinalityAdvisor.Proofs.Fingerprint.Columns
import CardinalityAdvisor.Proofs.Fingerprint.Kinds

/-!
# Classes of columns and chains of equalities

The classes that the equalities among some clauses give to columns are told by the equalities
themselves: a column has a class iff it stands on a side of one, and two columns share a class iff a
chain of them leads from one to the other. Columns are told apart by their digests, so this holds as
long as no two different texts have the same digest.

## Main definitions

* `OccursAmong clauses c`: a column stands on a side of an equality, up to positions
* `Chained clauses c d`: a chain of equalities leads from one column to another
* `Rearranged clauses clauses'`: the same clauses in another order, repeated or with their sides
  exchanged
* `digestedTexts clauses columns`: the texts that are digested to find the classes of some columns

## Main results

* `key_eq_iff`: references have the same fingerprint iff they differ at most in positions
* `Edges.linked_iff`: a chain of equalities between columns is one between their fingerprints
* `classes_of_chains`: columns share a class iff a chain of equalities leads from one to the other,
  and the classes stay the same if the clauses are rearranged
-/

namespace CardinalityAdvisor.Fingerprint

variable {clauses clauses' : List Json} {found found' : List (Int × Int)} {c d : Json}

/-! ## Chains of columns -/

/-- A column stands on a side of an equality among some clauses, up to positions. -/
def OccursAmong (clauses : List Json) (c : Json) : Prop :=
  ∃ clause ∈ clauses, ∃ left right, clause.Equates left right ∧
    (c.SameButPositions left ∨ c.SameButPositions right)

/-- A chain of equalities among some clauses, each taken in either direction, leads from one column
to another. A chain without equalities leads to the same column, up to positions. -/
inductive Chained (clauses : List Json) : Json → Json → Prop
  | start {c d : Json} : c.SameButPositions d → Chained clauses c d
  | step {c left right d clause : Json} : clause ∈ clauses →
      (clause.Equates left right ∨ clause.Equates right left) → c.SameButPositions left →
      Chained clauses right d → Chained clauses c d

/-- The same clauses in another order, repeated or with the sides of equalities exchanged. -/
inductive Rearranged : List Json → List Json → Prop
  | reorder {clauses clauses' : List Json} : clauses.Perm clauses' → Rearranged clauses clauses'
  | duplicate {clauses : List Json} {clause : Json} : clause ∈ clauses →
      Rearranged clauses (clause :: clauses)
  | swap (clause : Json) (clauses : List Json) :
      Rearranged (clause :: clauses) (clause.swapSides :: clauses)
  | trans {clauses between clauses' : List Json} : Rearranged clauses between →
      Rearranged between clauses' → Rearranged clauses clauses'

/-! ## Fingerprints of columns -/

/-- The text that is digested for the fingerprint of an expression. -/
def expressionText (expr : Json) : List Char := (canonical expr).compact

theorem expressionText_eq_iff (hc : c.IsReference) (hd : d.IsReference) :
    expressionText c = expressionText d ↔ c.SameButPositions d := by
  rw [expressionText, expressionText, Json.compact_eq_iff,
    Json.spelling_eq_iff hc.plain.canonical hd.plain.canonical, hc.constantFree.canonical_eq,
    hd.constantFree.canonical_eq, Json.SameButPositions]

/-- **References to columns** have the same fingerprint iff they differ at most in positions. -/
theorem key_eq_iff (hc : c.IsReference) (hd : d.IsReference)
    (told : NoCollision (expressionText c) (expressionText d)) :
    expressionKey c = expressionKey d ↔ c.SameButPositions d := by
  rw [← expressionText_eq_iff hc hd]
  exact ⟨told, fun same => congrArg digestOf same⟩

theorem key_congr (hc : c.IsReference) (hd : d.IsReference) (same : c.SameButPositions d) :
    expressionKey c = expressionKey d :=
  congrArg digestOf ((expressionText_eq_iff hc hd).mpr same)

/-! ## Equalities between fingerprints -/

/-- The fingerprints of both columns of every equality among some clauses. -/
def Edges (clauses : List Json) (found : List (Int × Int)) : Prop :=
  ∀ a b, (a, b) ∈ found ↔ ∃ clause ∈ clauses, ∃ left right, clause.Equates left right ∧
    a = expressionKey left ∧ b = expressionKey right

theorem exists_equalityOf {clause : Json} (shaped : clause.IsClause) :
    ∃ pair, Equivalence.equalityOf clause = .ok pair ∧ ∀ a b, pair = some (a, b) ↔
      ∃ left right, clause.Equates left right ∧
        a = expressionKey left ∧ b = expressionKey right := by
  obtain ⟨arguments, found, told⟩ := shaped.arguments
  unfold Equivalence.equalityOf
  rw [found]
  cases arguments with
  | none =>
    refine ⟨none, rfl, fun a b => iff_of_false nofun ?_⟩
    rintro ⟨left, right, equates, -⟩
    cases (told left right).mpr equates
  | some columns =>
    obtain ⟨left, right⟩ := columns
    have equates := (told left right).mp rfl
    have key {x : Json} (column : x.IsColumn) : expressionKeyOf x = .ok (expressionKey x) :=
      column.wellFormed.castShaped.expressionKeyOf
    refine ⟨some (expressionKey left, expressionKey right), ?_, fun a b => ?_⟩
    · simp only [bind, Except.bind, key equates.columns.1, key equates.columns.2]
    · constructor
      · rintro ⟨⟩
        exact ⟨left, right, equates, rfl, rfl⟩
      · rintro ⟨left', right', equates', rfl, rfl⟩
        cases (told left' right').mpr equates'
        rfl

theorem exists_edges (shaped : ∀ clause ∈ clauses, clause.IsClause) :
    ∃ found, Equivalence.equalities clauses = .ok found ∧ Edges clauses found := by
  obtain ⟨found, same⟩ := exists_equalities fun clause member =>
    have ⟨pair, own, _⟩ := exists_equalityOf (shaped clause member)
    ⟨pair, own⟩
  refine ⟨found, same, fun a b => ?_⟩
  rw [mem_equalities same]
  refine exists_congr fun clause => and_congr_right fun member => ?_
  obtain ⟨pair, own, told⟩ := exists_equalityOf (shaped clause member)
  rw [own, Except.ok.injEq, told]

/-! ## Texts that are digested -/

/-- The columns on the sides of the equalities among some clauses. -/
def columnsOf (clauses : List Json) : List Json :=
  clauses.flatMap fun clause =>
    match equalityArguments clause with
    | .ok (some (left, right)) => [left, right]
    | _ => []

/-- The classes of the columns on the sides of the equalities among some clauses. -/
def blocksAmong (clauses : List Json) : List (List Int) :=
  match Equivalence.equalities clauses with
  | .ok found => blocksOf found
  | .error _ => []

/-- The texts that are digested to find out the classes of some columns: those of the columns and of
their classes. -/
def digestedTexts (clauses columns : List Json) : List (List Char) :=
  (columnsOf clauses ++ columns).map expressionText ++
    (blocksAmong clauses).flatMap fun block => [multisetText block, classText block]

/-- No two different ones of some texts have the same digest. -/
def NoCollisions (texts : List (List Char)) : Prop :=
  ∀ text ∈ texts, ∀ text' ∈ texts, NoCollision text text'

theorem mem_columnsOf {clause left right : Json} (shaped : clause.IsClause)
    (member : clause ∈ clauses) (equates : clause.Equates left right) :
    left ∈ columnsOf clauses ∧ right ∈ columnsOf clauses := by
  obtain ⟨arguments, found, told⟩ := shaped.arguments
  have own : equalityArguments clause = .ok (some (left, right)) := by
    rw [found, (told left right).mpr equates]
  constructor
  · exact List.mem_flatMap.mpr ⟨clause, member, by simp [own]⟩
  · exact List.mem_flatMap.mpr ⟨clause, member, by simp [own]⟩

namespace NoCollisions

variable {columns : List Json}

theorem of_nodup {texts : List (List Char)} (digests : List Int)
    (digested : texts.eraseDups.map digestOf = digests) (distinct : digests.Nodup) :
    NoCollisions texts := by
  intro text member text' member' same
  rw [← List.mem_eraseDups] at member member'
  exact List.inj_on_of_nodup_map (digested ▸ distinct) member member' same

theorem expressions (told : NoCollisions (digestedTexts clauses columns))
    (hc : c ∈ columnsOf clauses ++ columns) (hd : d ∈ columnsOf clauses ++ columns) :
    NoCollision (expressionText c) (expressionText d) :=
  told _ (List.mem_append_left _ (List.mem_map_of_mem hc)) _
    (List.mem_append_left _ (List.mem_map_of_mem hd))

/-- Classes with the same key have the same columns. -/
theorem perm (told : NoCollisions (digestedTexts clauses columns))
    (same : Equivalence.equalities clauses = .ok found) {block block' : List Int}
    (inside : block ∈ blocksOf found) (inside' : block' ∈ blocksOf found)
    (key : classKey block = classKey block') : block.Perm block' := by
  have digested {block : List Int} (inside : block ∈ blocksOf found) {text : List Char}
      (member : text ∈ [multisetText block, classText block]) :
      text ∈ digestedTexts clauses columns := by
    refine List.mem_append_right _ (List.mem_flatMap.mpr ⟨block, ?_, member⟩)
    rw [blocksAmong, same]
    exact inside
  have texts : classText block = classText block' :=
    told _ (digested inside (by simp)) _ (digested inside' (by simp)) key
  have keys : multisetKey block = multisetKey block' :=
    (Parts.text_eq_iff (.columns block) (.columns block')).mp texts
  exact multisetText_eq_iff.mp <|
    told _ (digested inside (by simp)) _ (digested inside' (by simp)) keys

end NoCollisions

/-! ## Chains of columns and of fingerprints -/

/-- A chain of equalities, each taken in either direction. -/
theorem Linked.reflTransGen {a b : Int} (h : Linked found a b) :
    Relation.ReflTransGen (fun a b => (a, b) ∈ found ∨ (b, a) ∈ found) a b := by
  have either : Std.Symm fun a b => (a, b) ∈ found ∨ (b, a) ∈ found := ⟨fun _ _ => Or.symm⟩
  induction h with
  | rel a b member => exact .single (.inl member)
  | refl a => exact .refl
  | symm a b _ ih => exact Relation.ReflTransGen.stdSymm.symm a b ih
  | trans a b c _ _ ih ih' => exact ih.trans ih'

namespace Edges

theorem mem {clause left right : Json} (h : Edges clauses found) (member : clause ∈ clauses)
    (equates : clause.Equates left right) : (expressionKey left, expressionKey right) ∈ found :=
  (h _ _).mpr ⟨clause, member, left, right, equates, rfl, rfl⟩

/-- A chain of equalities between columns is one between their fingerprints. -/
theorem linked (h : Edges clauses found) (hc : c.IsReference) (hd : d.IsReference)
    (chained : Chained clauses c d) : Linked found (expressionKey c) (expressionKey d) := by
  induction chained with
  | start same =>
    rw [key_congr hc hd same]
    exact .refl _
  | step member equates same _ ih =>
    rcases equates with equates | equates
    · rw [key_congr hc equates.columns.1.toIsReference same]
      exact Linked.trans (.rel _ _ (h.mem member equates))
        (ih equates.columns.2.toIsReference hd)
    · rw [key_congr hc equates.columns.2.toIsReference same]
      exact Linked.trans (Linked.symm (.rel _ _ (h.mem member equates)))
        (ih equates.columns.1.toIsReference hd)

variable (shaped : ∀ clause ∈ clauses, clause.IsClause) {columns : List Json}
  (told : NoCollisions (digestedTexts clauses columns))
include shaped told

/-- **A chain of equalities** between fingerprints is one between the columns. -/
theorem linked_iff (h : Edges clauses found) (hc : c.IsReference) (hd : d.IsReference)
    (memberC : c ∈ columns) (memberD : d ∈ columns) :
    Linked found (expressionKey c) (expressionKey d) ↔ Chained clauses c d := by
  refine ⟨fun linked => ?_, h.linked hc hd⟩
  have path := linked.reflTransGen
  have digestedD : d ∈ columnsOf clauses ++ columns := List.mem_append_right _ memberD
  have digestedC : c ∈ columnsOf clauses ++ columns := List.mem_append_right _ memberC
  -- Along the chain the column changes from one side of an equality to the other.
  generalize start : expressionKey c = a at path
  clear linked memberC
  induction path using Relation.ReflTransGen.head_induction_on generalizing c with
  | refl => exact .start ((key_eq_iff hc hd (told.expressions digestedC digestedD)).mp start)
  | head edge _ ih =>
    rcases edge with edge | edge
    · obtain ⟨clause, member, left, right, equates, rfl, rfl⟩ := (h _ _).mp edge
      have sides := mem_columnsOf (shaped clause member) member equates
      have same := (key_eq_iff hc equates.columns.1.toIsReference
        (told.expressions digestedC (List.mem_append_left _ sides.1))).mp start
      exact .step member (.inl equates) same
        (ih equates.columns.2.toIsReference (List.mem_append_left _ sides.2) rfl)
    · obtain ⟨clause, member, left, right, equates, rfl, rfl⟩ := (h _ _).mp edge
      have sides := mem_columnsOf (shaped clause member) member equates
      have same := (key_eq_iff hc equates.columns.2.toIsReference
        (told.expressions digestedC (List.mem_append_left _ sides.2))).mp start
      exact .step member (.inr equates) same
        (ih equates.columns.1.toIsReference (List.mem_append_left _ sides.1) rfl)

theorem occurs_iff (h : Edges clauses found) (hc : c.IsReference) (memberC : c ∈ columns) :
    Occurs found (expressionKey c) ↔ OccursAmong clauses c := by
  have digestedC : c ∈ columnsOf clauses ++ columns := List.mem_append_right _ memberC
  constructor
  · rintro ⟨⟨a, b⟩, edge, same⟩
    obtain ⟨clause, member, left, right, equates, rfl, rfl⟩ := (h _ _).mp edge
    have sides := mem_columnsOf (shaped clause member) member equates
    refine ⟨clause, member, left, right, equates, ?_⟩
    exact same.imp
      (key_eq_iff hc equates.columns.1.toIsReference
        (told.expressions digestedC (List.mem_append_left _ sides.1))).mp
      (key_eq_iff hc equates.columns.2.toIsReference
        (told.expressions digestedC (List.mem_append_left _ sides.2))).mp
  · rintro ⟨clause, member, left, right, equates, same⟩
    exact ⟨_, h.mem member equates, same.imp (key_congr hc equates.columns.1.toIsReference)
      (key_congr hc equates.columns.2.toIsReference)⟩

end Edges

/-! ## Rearranged clauses -/

/-- Clauses make a pair of columns equal, in either direction. -/
def Equate (clauses : List Json) (left right : Json) : Prop :=
  ∃ clause ∈ clauses, clause.Equates left right ∨ clause.Equates right left

theorem equate_cons_iff {clause left right : Json} : Equate (clause :: clauses) left right ↔
    (clause.Equates left right ∨ clause.Equates right left) ∨ Equate clauses left right := by
  rw [Equate, List.exists_mem_cons_iff, Equate]

namespace Rearranged

theorem equate_iff (h : Rearranged clauses clauses') (left right : Json) :
    Equate clauses left right ↔ Equate clauses' left right := by
  induction h with
  | reorder perm => simp only [Equate, perm.mem_iff]
  | duplicate member =>
    rw [equate_cons_iff]
    exact ⟨.inr, fun either => either.elim (fun own => ⟨_, member, own⟩) id⟩
  | swap clause clauses =>
    rw [equate_cons_iff, equate_cons_iff, Json.equates_swapSides_iff, Json.equates_swapSides_iff,
      or_comm (a := clause.Equates left right)]
  | trans _ _ ih ih' => exact ih.trans ih'

theorem shaped (h : Rearranged clauses clauses') (shaped : ∀ clause ∈ clauses, clause.IsClause) :
    ∀ clause ∈ clauses', clause.IsClause := by
  induction h with
  | reorder perm => exact fun clause member => shaped clause (perm.mem_iff.mpr member)
  | duplicate member => exact List.forall_mem_cons.mpr ⟨shaped _ member, shaped⟩
  | swap clause clauses =>
    rw [List.forall_mem_cons] at shaped ⊢
    exact ⟨shaped.1.swapSides, shaped.2⟩
  | trans _ _ ih ih' => exact ih' (ih shaped)

end Rearranged

/-- Fingerprints are linked by an equality, in either direction, iff two columns are that have
them. -/
theorem Edges.either_iff (h : Edges clauses found) {a b : Int} :
    (a, b) ∈ found ∨ (b, a) ∈ found ↔ ∃ left right, Equate clauses left right ∧
      a = expressionKey left ∧ b = expressionKey right := by
  rw [h, h]
  constructor
  · rintro (⟨clause, member, left, right, equates, same⟩ |
      ⟨clause, member, left, right, equates, same⟩)
    · exact ⟨left, right, ⟨clause, member, .inl equates⟩, same⟩
    · exact ⟨right, left, ⟨clause, member, .inr equates⟩, same.symm⟩
  · rintro ⟨left, right, ⟨clause, member, equates | equates⟩, same⟩
    · exact .inl ⟨clause, member, left, right, equates, same⟩
    · exact .inr ⟨clause, member, right, left, equates, same.symm⟩

/-- Chains of equalities do not depend on the directions in which the equalities are written. -/
theorem Linked.of_either {a b : Int} (h : Linked found a b)
    (either : ∀ a b, (a, b) ∈ found ∨ (b, a) ∈ found → (a, b) ∈ found' ∨ (b, a) ∈ found') :
    Linked found' a b := by
  induction h with
  | rel a b member =>
    rcases either a b (.inl member) with member | member
    · exact .rel _ _ member
    · exact Linked.symm (.rel _ _ member)
  | refl a => exact .refl a
  | symm _ _ _ ih => exact ih.symm
  | trans _ _ _ _ _ ih ih' => exact ih.trans ih'

theorem occurs_iff_either {a : Int} :
    Occurs found a ↔ ∃ b, (a, b) ∈ found ∨ (b, a) ∈ found := by
  constructor
  · rintro ⟨⟨x, y⟩, member, rfl | rfl⟩
    · exact ⟨y, .inl member⟩
    · exact ⟨x, .inr member⟩
  · rintro ⟨b, member | member⟩
    · exact ⟨_, member, .inl rfl⟩
    · exact ⟨_, member, .inr rfl⟩

/-! ## The list of classes -/

theorem mem_classes_ofBlocks {blocks : List (List Int)} {a key : Int} :
    (a, key) ∈ (Equivalence.ofBlocks blocks).classes ↔
      ∃ block ∈ blocks, a ∈ block ∧ classKey block = key := by
  simp [Equivalence.ofBlocks]

/-- Every column is listed once with its class. -/
theorem Components.nodup_classes {blocks : List (List Int)} (h : Components found blocks) :
    (Equivalence.ofBlocks blocks).classes.Nodup := by
  refine List.Nodup.of_map Prod.fst ?_
  have names : (Equivalence.ofBlocks blocks).classes.map Prod.fst = blocks.flatten := by
    simp [Equivalence.ofBlocks, List.map_flatMap, Function.comp_def]
  rw [names]
  exact List.nodup_flatten.mpr ⟨h.nodup, h.disjoint⟩

section Either

variable (either : ∀ a b, (a, b) ∈ found ∨ (b, a) ∈ found ↔ (a, b) ∈ found' ∨ (b, a) ∈ found')
include either

/-- The same equalities in any directions give every column the same class. -/
theorem lookup_of_either (a : Int) : (Equivalence.ofBlocks (blocksOf found)).classes.lookup a =
    (Equivalence.ofBlocks (blocksOf found')).classes.lookup a := by
  refine lookup_congr (fun c d => ?_) (fun c => ?_) a
  · exact ⟨fun linked => linked.of_either fun a b => (either a b).mp,
      fun linked => linked.of_either fun a b => (either a b).mpr⟩
  · simp only [occurs_iff_either, either]

/-- They give the same classes with the same keys. -/
theorem classes_perm_of_either : (Equivalence.ofBlocks (blocksOf found)).classes.Perm
    (Equivalence.ofBlocks (blocksOf found')).classes := by
  have left := components_blocksOf found
  have right := components_blocksOf found'
  rw [List.perm_ext_iff_of_nodup left.nodup_classes right.nodup_classes]
  rintro ⟨a, key⟩
  rw [mem_classes_ofBlocks, mem_classes_ofBlocks, ← left.lookup_eq_some_iff,
    ← right.lookup_eq_some_iff, lookup_of_either either]

end Either

/-! ## The classes that clauses give -/

/-- **The classes of columns are the chains of equalities.** Clauses give classes to columns. If no
two different texts that are digested have the same digest, a column has no class iff it stands on
no side of an equality, and two columns share a class iff they stand on sides of equalities and a
chain of equalities leads from one to the other. If the clauses come in another order, repeated or
with their sides exchanged, the classes and their keys stay the same. -/
theorem classes_of_chains {clauses : List Json} (shaped : ∀ clause ∈ clauses, clause.IsClause) :
    ∃ e, Equivalence.ofClauses clauses = .ok e ∧
      (∀ c d : Json, c.IsReference → d.IsReference →
        NoCollisions (digestedTexts clauses [c, d]) →
          (e.classOf c = none ↔ ¬OccursAmong clauses c) ∧
          ((∃ key, e.classOf c = some key ∧ e.classOf d = some key) ↔
            OccursAmong clauses c ∧ Chained clauses c d)) ∧
      ∀ clauses', Rearranged clauses clauses' →
        ∃ e', Equivalence.ofClauses clauses' = .ok e' ∧ e.classes.Perm e'.classes ∧
          e.classOf = e'.classOf := by
  obtain ⟨found, same, edges⟩ := exists_edges shaped
  have ofClauses {clauses : List Json} {found : List (Int × Int)}
      (same : Equivalence.equalities clauses = .ok found) :
      Equivalence.ofClauses clauses = .ok (.ofBlocks (blocksOf found)) := by
    rw [Equivalence.ofClauses, same]
    rfl
  have components := components_blocksOf found
  have classOf (x : Json) (key : Int) :
      (Equivalence.ofBlocks (blocksOf found)).classOf x = some key ↔
        ∃ block ∈ blocksOf found, expressionKey x ∈ block ∧ classKey block = key :=
    components.lookup_eq_some_iff
  refine ⟨_, ofClauses same, fun c d hc hd told => ?_, fun clauses' rearranged => ?_⟩
  -- Classes are first told by the equalities between fingerprints, and these by those of columns.
  · have occurs := edges.occurs_iff shaped told hc (by simp)
    have linked := edges.linked_iff shaped told hc hd (by simp) (by simp)
    rw [← occurs, ← linked, ← components.occurs]
    constructor
    · rw [Option.eq_none_iff_forall_ne_some, ← not_exists, not_iff_not]
      simp only [classOf]
      constructor
      · rintro ⟨_, block, inside, member, -⟩
        exact ⟨block, inside, member⟩
      · rintro ⟨block, inside, member⟩
        exact ⟨_, block, inside, member, rfl⟩
    · simp only [classOf]
      constructor
      · rintro ⟨key, ⟨block, inside, member, ofC⟩, block', inside', member', ofD⟩
        have perm := told.perm same inside inside' (ofC.trans ofD.symm)
        exact ⟨⟨block, inside, member⟩,
          (components.linked block inside _ member _).mp (perm.mem_iff.mpr member')⟩
      · rintro ⟨⟨block, inside, member⟩, chain⟩
        exact ⟨_, ⟨block, inside, member, rfl⟩, block, inside,
          (components.linked block inside _ member _).mpr chain, rfl⟩
  · obtain ⟨found', same', edges'⟩ := exists_edges (rearranged.shaped shaped)
    have either (a b : Int) : (a, b) ∈ found ∨ (b, a) ∈ found ↔
        (a, b) ∈ found' ∨ (b, a) ∈ found' := by
      rw [edges.either_iff, edges'.either_iff]
      simp only [rearranged.equate_iff]
    exact ⟨_, ofClauses same', classes_perm_of_either either,
      funext fun column => lookup_of_either either (expressionKey column)⟩

/-- With `r.a = s.b` and `t.c = s.b`, a chain of two equalities leads from `r.a` to `t.c`. -/
theorem classes_of_chains_two :
    ∃ e key, Equivalence.ofClauses
        [.equationAt (.columnAt "r" "a" 6) (.columnAt "s" "b" 12) 10,
          .equationAt (.columnAt "t" "c" 20) (.columnAt "s" "b" 26) 24] = .ok e ∧
      e.classOf (.columnAt "r" "a" 40) = some key ∧
      e.classOf (.columnAt "t" "c" 46) = some key := by
  have column (relation name : String) (location : Int)
      (whole : Text.isWhole relation = true ∧ Text.isWhole name = true) :
      (Json.columnAt relation name location).IsColumn :=
    Json.isColumn_columnAt whole.1 whole.2 location
  have left := Json.equates_equationAt (column "r" "a" 6 (by decide))
    (column "s" "b" 12 (by decide)) 10
  have right := Json.equates_equationAt (column "t" "c" 20 (by decide))
    (column "s" "b" 26 (by decide)) 24
  have shaped : ∀ clause ∈ [Json.equationAt (.columnAt "r" "a" 6) (.columnAt "s" "b" 12) 10,
      .equationAt (.columnAt "t" "c" 20) (.columnAt "s" "b" 26) 24], clause.IsClause := by
    simp [Json.isClause_equationAt, left.columns, right.columns]
  obtain ⟨e, given, classes, -⟩ := classes_of_chains shaped
  obtain ⟨-, linked⟩ := classes _ _ (column "r" "a" 40 (by decide)).toIsReference
    (column "t" "c" 46 (by decide)).toIsReference
    (.of_nodup [3274961423543082245, 2577058349625164710, 5009077642893200635,
      -6131335469181521066, 6377277510753155448] (by decide +kernel) (by decide))
  have occurs : OccursAmong [.equationAt (.columnAt "r" "a" 6) (.columnAt "s" "b" 12) 10,
      .equationAt (.columnAt "t" "c" 20) (.columnAt "s" "b" 26) 24] (.columnAt "r" "a" 40) :=
    ⟨_, List.mem_cons_self, _, _, left, .inl (by decide)⟩
  have chained : Chained [.equationAt (.columnAt "r" "a" 6) (.columnAt "s" "b" 12) 10,
      .equationAt (.columnAt "t" "c" 20) (.columnAt "s" "b" 26) 24] (.columnAt "r" "a" 40)
      (.columnAt "t" "c" 46) :=
    .step List.mem_cons_self (.inl left) (by decide)
      (.step (List.mem_cons_of_mem _ List.mem_cons_self) (.inr right) (by decide)
        (.start (by decide)))
  obtain ⟨key, ofFirst, ofLast⟩ := linked.mpr ⟨occurs, chained⟩
  exact ⟨e, key, given, ofFirst, ofLast⟩

end CardinalityAdvisor.Fingerprint
