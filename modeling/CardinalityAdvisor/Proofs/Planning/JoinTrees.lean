import CardinalityAdvisor.Proofs.Planning.HandOver
import CardinalityAdvisor.Proofs.Planning.Leaving
import Mathlib.Data.List.Perm.Basic
import Mathlib.Data.Option.Basic

/-!
# What the records of join trees hold

A planner joins base relations step by step. The hooks put the record of each join together from
what they find at its inputs: the record of a relation that was estimated, that of a
parameterization, or a new one if the input was never estimated. Whatever they find, a record holds
each clause that is applied anywhere below, with a fingerprint and a selectivity, and the catalog
ids of the plain relations below.

## Main definitions

* `JoinTree`: base relations that are joined
* `JoinTree.Covers table tree record`: a record holds what a tree applies
* `Forest`: the trees for which records were made
* `Forest.Enters`, `Forest.Plants`: the tree of an input of a join, and that of an estimate
* `Grows`: how hooks estimate trees step by step

## Main results

* `Forest.Plants.covers`: the record that is made at a place covers its tree
* `Grown.estimated`, `Grown.parameterized`: an estimate leaves records that cover their trees
* `records_cover_trees`: so all records do
-/

namespace CardinalityAdvisor

open CardinalityAdvisor.Action

/-! ## Catalog ids -/

namespace RangeTable

variable (table : RangeTable)

/-- Each plain relation gives its catalog id, and everything else gives none. -/
theorem catalogIds_perm (indexes : List Int) :
    (table.catalogIds indexes).Perm (indexes.filterMap table.plainId?) :=
  (sortBy_perm ascending indexes).filterMap table.plainId?

theorem catalogIds_of_perm {indexes indexes' : List Int} (same : indexes.Perm indexes') :
    (table.catalogIds indexes).Perm (table.catalogIds indexes') :=
  (table.catalogIds_perm indexes).trans
    ((same.filterMap _).trans (table.catalogIds_perm indexes').symm)

theorem catalogIds_append (indexes indexes' : List Int) :
    (table.catalogIds (indexes ++ indexes')).Perm
      (table.catalogIds indexes ++ table.catalogIds indexes') := by
  refine (table.catalogIds_perm _).trans ?_
  rw [List.filterMap_append]
  exact ((table.catalogIds_perm indexes).append (table.catalogIds_perm indexes')).symm

theorem catalogIds_singleton (index : Int) :
    table.catalogIds [index] = (table.plainId? index).toList := by
  show List.filterMap table.plainId? [index] = _
  cases found : table.plainId? index <;> simp [found]

end RangeTable

/-! ## Join trees -/

/-- Base relations that are joined, with the clauses that are applied on the way. -/
inductive JoinTree where
  | base (index : Int) (restrictions : List Restriction)
  | join (outer inner : JoinTree) (clauses : List Restriction)

namespace JoinTree

/-- The range table indexes of the base relations. -/
def indexes : JoinTree → List Int
  | .base index _ => [index]
  | .join outer inner _ => outer.indexes ++ inner.indexes

/-- All clauses that are applied, those of the last join first. -/
def applied : JoinTree → List Restriction
  | .base _ restrictions => restrictions
  | .join outer inner clauses => clauses ++ (outer.applied ++ inner.applied)

theorem indexes_ne_nil (tree : JoinTree) : tree.indexes ≠ [] := by
  induction tree with
  | base => exact List.cons_ne_nil _ _
  | join outer inner clauses ihOuter _ => exact List.append_ne_nil_of_left_ne_nil ihOuter _

/-- A record holds what a tree applies: each clause with a fingerprint and a selectivity, and the
catalog ids of the plain relations. -/
structure Covers (table : RangeTable) (tree : JoinTree) (record : ClauseRecord) : Prop where
  clauses : record.clauses = tree.applied.map (·.clause)
  fingerprints : record.fingerprints.length = tree.applied.length
  selectivities : record.selectivities.length = tree.applied.length
  relationIds : record.relationIds.Perm (table.catalogIds tree.indexes)

variable {cache : SelectivityCache} {table : RangeTable} {record : ClauseRecord}

theorem covers_base {index scope : Int} {relationIds : List Int} {restrictions : List Restriction}
    (ids : relationIds = table.catalogIds [index])
    (collected : Collected cache { scope, relationIds } restrictions record) :
    Covers table (.base index restrictions) record := by
  obtain ⟨e, measured, -, known, rfl⟩ := collected
  have length := known.length_eq
  refine ⟨?_, ?_, ?_, ?_⟩
  · simp [ClauseRecord.concat_clauses, applied]
  · simp [ClauseRecord.concat_fingerprints, applied, length]
  · simp [ClauseRecord.concat_selectivities, applied, length]
  · simp [ClauseRecord.concat_relationIds, indexes, ids]

/-- The record of a join of two inputs covers the join of their trees. -/
theorem covers_join {outer inner : JoinTree} {outerRecord innerRecord : ClauseRecord}
    {type : JoinType} {clauses : List Restriction} (first : Covers table outer outerRecord)
    (second : Covers table inner innerRecord)
    (collected : Collected cache
      { scope := 0, join := some type, inputs := [outerRecord, innerRecord] } clauses record) :
    Covers table (.join outer inner clauses) record := by
  obtain ⟨e, measured, -, known, rfl⟩ := collected
  have length := known.length_eq
  refine ⟨?_, ?_, ?_, ?_⟩
  · simp [ClauseRecord.concat_clauses, applied, first.clauses, second.clauses]
  · simp [ClauseRecord.concat_fingerprints, applied, length, first.fingerprints,
      second.fingerprints]
  · simp [ClauseRecord.concat_selectivities, applied, length, first.selectivities,
      second.selectivities]
  · simp only [ClauseRecord.concat_relationIds, List.flatMap_cons, List.flatMap_nil,
      List.append_nil, List.nil_append, indexes]
    exact (first.relationIds.append second.relationIds).trans (table.catalogIds_append _ _).symm

end JoinTree

/-- A relation is that of a tree: its members are the base relations of the tree, which are
different from each other. -/
structure Relation.Spans (r : Relation) (tree : JoinTree) : Prop where
  distinct : tree.indexes.Nodup
  nodup : r.members.Nodup
  members : ∀ index, index ∈ r.members ↔ index ∈ tree.indexes

theorem Relation.Spans.of_perm {r : Relation} {tree : JoinTree} (distinct : tree.indexes.Nodup)
    (perm : r.members.Perm tree.indexes) : r.Spans tree :=
  ⟨distinct, perm.nodup_iff.mpr distinct, fun _ => perm.mem_iff⟩

theorem Relation.Spans.perm {r : Relation} {tree : JoinTree} (h : r.Spans tree) :
    r.members.Perm tree.indexes :=
  (List.perm_ext_iff_of_nodup h.nodup h.distinct).mpr h.members

theorem Relation.Spans.ne_nil {r : Relation} {tree : JoinTree} (h : r.Spans tree) :
    r.members ≠ [] := by
  intro none
  have perm := h.perm
  rw [none] at perm
  exact tree.indexes_ne_nil perm.nil_eq.symm

/-! ## Forests -/

/-- The trees for which records were made: those of relations, and those of parameterizations with
the relation that is parameterized. -/
structure Forest where
  relations : RelationId → Option JoinTree := fun _ => none
  parameterizations : ParameterizationId → Option (RelationId × JoinTree) := fun _ => none

namespace Forest

/-- The forest after a relation was estimated. -/
def plant (f : Forest) (id : RelationId) (tree : JoinTree) : Forest :=
  { f with relations := fun other => if other = id then some tree else f.relations other }

/-- The forest after an estimate was attached to a parameterization of a relation. -/
def graft (f : Forest) (p : ParameterizationId) (id : RelationId) (tree : JoinTree) : Forest :=
  { f with parameterizations := fun other =>
      if other = p then some (id, tree) else f.parameterizations other }

@[simp] theorem plant_self (f : Forest) (id : RelationId) (tree : JoinTree) :
    (f.plant id tree).relations id = some tree := if_pos rfl

theorem plant_of_ne (f : Forest) {id other : RelationId} (ne : other ≠ id) (tree : JoinTree) :
    (f.plant id tree).relations other = f.relations other := if_neg ne

@[simp] theorem graft_self (f : Forest) (p : ParameterizationId) (id : RelationId)
    (tree : JoinTree) : (f.graft p id tree).parameterizations p = some (id, tree) := if_pos rfl

theorem graft_of_ne (f : Forest) {p other : ParameterizationId} (ne : other ≠ p)
    (id : RelationId) (tree : JoinTree) :
    (f.graft p id tree).parameterizations other = f.parameterizations other := if_neg ne

/-- The tree with which a path enters a join. Its parameterization was estimated, or its relation
was, or neither of them. A base relation that was never estimated brings the clauses of its
parameterization along; where the relation was estimated, a parameterization with clauses of its own
was as well. -/
inductive Enters (f : Forest) (m : Memory) (path : Path) : JoinTree → Prop
  | parameterized {p : ParameterizationId} {tree : JoinTree} : path.parameters = some p →
      f.parameterizations p = some (path.parent, tree) → Enters f m path tree
  | estimated {tree : JoinTree} :
      (∀ p, path.parameters = some p →
        f.parameterizations p = none ∧ (m.parameterizations p).clauses = []) →
      f.relations path.parent = some tree → Enters f m path tree
  | unestimated : (∀ p, path.parameters = some p → f.parameterizations p = none) →
      f.relations path.parent = none → (m.relations path.parent).isBase = true →
      (m.relations path.parent).Spans
        (.base (m.relations path.parent).index (m.pathClauses path)) →
      Enters f m path (.base (m.relations path.parent).index (m.pathClauses path))

/-- The relation and the tree of an estimate. -/
inductive Plants (f : Forest) (m : Memory) : Site → RelationId → JoinTree → Prop
  | base {id : RelationId} : (m.relations id).isBase = true →
      Plants f m (.base id) id (.base (m.relations id).index (m.relations id).restrictions)
  | filteredBase {id : RelationId} {clauses : List Restriction} :
      (m.relations id).isBase = true →
      Plants f m (.filteredBase id clauses) id
        (.base (m.relations id).index (clauses ++ (m.relations id).restrictions))
  | join {id outer inner : RelationId} {type : JoinType} {clauses : List Restriction}
      {a b : JoinTree} :
      f.Enters m (m.inputPath outer) a → f.Enters m (m.inputPath inner) b →
      Plants f m (.join id outer inner type clauses) id (.join a b clauses)
  | filteredJoin {id : RelationId} {outer inner : PathId} {type : JoinType}
      {clauses : List Restriction} {a b : JoinTree} :
      f.Enters m (m.paths outer) a → f.Enters m (m.paths inner) b →
      Plants f m (.filteredJoin id outer inner type clauses) id (.join a b clauses)

end Forest

/-- The records that a planner keeps are those of a forest, and each of them covers its tree. -/
structure Grown (f : Forest) (m : Memory) : Prop where
  relations : ∀ id, Option.Rel (JoinTree.Covers m.rangeTable) (f.relations id)
    (m.relations id).record
  parameterizations : ∀ p, Option.Rel (JoinTree.Covers m.rangeTable)
    ((f.parameterizations p).map Prod.snd) (m.parameterizations p).record
  spans : ∀ id tree, f.relations id = some tree → (m.relations id).Spans tree
  spansParameterized : ∀ p id tree, f.parameterizations p = some (id, tree) →
    (m.relations id).Spans tree

variable {f : Forest} {m m' : Memory} {path : Path} {site : Site} {id : RelationId}
  {tree : JoinTree} {cache : SelectivityCache} {record : ClauseRecord}

section

variable {α β : Type} {R : α → β → Prop} {a : α} {b : β} {x : Option α} {y : Option β}

theorem exists_of_rel_some_left (h : Option.Rel R (some a) y) : ∃ b, y = some b ∧ R a b := by
  cases h with
  | some related => exact ⟨_, rfl, related⟩

theorem exists_of_rel_some_right (h : Option.Rel R x (some b)) : ∃ a, x = some a ∧ R a b := by
  cases h with
  | some related => exact ⟨_, rfl, related⟩

theorem eq_none_of_rel_none (h : Option.Rel R none y) : y = none := by
  cases h
  rfl

end

namespace Grown

theorem of_relation (h : Grown f m) (planted : f.relations id = some tree) :
    ∃ record, (m.relations id).record = some record ∧ tree.Covers m.rangeTable record :=
  exists_of_rel_some_left (planted ▸ h.relations id)

theorem of_parameterization (h : Grown f m) {p : ParameterizationId}
    (grafted : f.parameterizations p = some (id, tree)) :
    ∃ record, (m.parameterizations p).record = some record ∧ tree.Covers m.rangeTable record := by
  have related := h.parameterizations p
  rw [grafted] at related
  exact exists_of_rel_some_left related

theorem not_recorded (h : Grown f m) {p : ParameterizationId}
    (bare : f.parameterizations p = none) : (m.parameterizations p).record = none := by
  have related := h.parameterizations p
  rw [bare] at related
  exact eq_none_of_rel_none related

/-- Without a record for its parameters, a path has the record of its relation. -/
theorem pathRecord?_of_bare (h : Grown f m)
    (bare : ∀ p, path.parameters = some p → f.parameterizations p = none) :
    m.pathRecord? path = (m.relations path.parent).record := by
  cases parameters : path.parameters with
  | none => simp [Memory.pathRecord?, parameters]
  | some p => simp [Memory.pathRecord?, parameters, h.not_recorded (bare p parameters)]

end Grown

/-! ## Records of inputs -/

namespace Forest

theorem catalogIds_of_base {r : Relation} (base : r.isBase = true) :
    m.catalogIds r = m.rangeTable.catalogIds [r.index] := by
  rw [Memory.catalogIds, Memory.baseCatalogIds, if_pos base, if_pos base,
    RangeTable.catalogIds_singleton]

/-- **The record of an input** covers the tree with which the input enters the join. -/
theorem Enters.covers (enters : f.Enters m path tree) (grown : Grown f m)
    (known : (m.pathSource path).Known cache record) : tree.Covers m.rangeTable record := by
  -- The record of a parameterization goes before that of a relation. Without either, the clauses
  -- are collected anew.
  cases enters with
  | parameterized parameters grafted =>
    obtain ⟨earlier, found, covers⟩ := grown.of_parameterization grafted
    have recorded : m.pathRecord? path = some earlier := by
      simp [Memory.pathRecord?, parameters, found]
    rw [Memory.pathSource, recorded] at known
    cases known
    exact covers
  | estimated bare planted =>
    obtain ⟨earlier, found, covers⟩ := grown.of_relation planted
    have recorded := grown.pathRecord?_of_bare fun p parameters => (bare p parameters).1
    rw [Memory.pathSource, recorded, found] at known
    cases known
    exact covers
  | unestimated bare unplanted base spans =>
    have missing : (m.relations path.parent).record = none :=
      eq_none_of_rel_none (unplanted ▸ grown.relations path.parent)
    rw [Memory.pathSource, grown.pathRecord?_of_bare bare, missing] at known
    exact JoinTree.covers_base (catalogIds_of_base base) known

theorem Enters.spans (enters : f.Enters m path tree) (grown : Grown f m) :
    (m.relations path.parent).Spans tree := by
  cases enters with
  | parameterized parameters grafted => exact grown.spansParameterized _ _ _ grafted
  | estimated bare planted => exact grown.spans _ _ planted
  | unestimated bare unplanted base spans => exact spans

/-- A base relation that was never estimated enters by a plain path with its own restrictions. -/
theorem enters_of_bare (unplanted : f.relations id = none) (base : (m.relations id).isBase = true)
    (alone : (m.relations id).members = [(m.relations id).index]) :
    f.Enters m { parent := id } (.base (m.relations id).index (m.relations id).restrictions) := by
  have clauses : m.pathClauses { parent := id } = (m.relations id).restrictions :=
    List.append_nil _
  have spans : (m.relations id).Spans
      (.base (m.relations id).index (m.pathClauses { parent := id })) :=
    .of_perm (List.nodup_singleton _) (.of_eq alone)
  rw [← clauses]
  exact .unestimated nofun unplanted base spans

/-! ## Records of estimates -/

/-- **The record that is made at a place** covers the tree of the estimate. -/
theorem Plants.covers (plants : f.Plants m site id tree) (grown : Grown f m)
    (known : (site.source m).Known cache record) : tree.Covers m.rangeTable record := by
  cases plants with
  | base base | filteredBase base =>
    refine JoinTree.covers_base ?_ known
    rw [← catalogIds_of_base base, Memory.catalogIds, if_pos base]
  | join outer inner | filteredJoin outer inner =>
    obtain ⟨first, second, knownFirst, knownSecond, collected⟩ := known
    exact JoinTree.covers_join (outer.covers grown knownFirst) (inner.covers grown knownSecond)
      collected

/-- An input of a join with all base relations of the join leaves none for the other one. -/
theorem parent_ne_of_spans {outer inner : JoinTree} {clauses : List Restriction}
    (whole : (m.relations id).Spans (.join outer inner clauses))
    (part : (m.relations path.parent).Spans outer ∨ (m.relations path.parent).Spans inner) :
    path.parent ≠ id := by
  rintro rfl
  have disjoint := List.disjoint_of_nodup_append whole.distinct
  rcases part with part | part
  · obtain ⟨index, member⟩ := List.exists_mem_of_ne_nil _ inner.indexes_ne_nil
    have inside := (whole.members index).mpr (List.mem_append_right _ member)
    exact disjoint ((part.members index).mp inside) member
  · obtain ⟨index, member⟩ := List.exists_mem_of_ne_nil _ outer.indexes_ne_nil
    have inside := (whole.members index).mpr (List.mem_append_left _ member)
    exact disjoint member ((part.members index).mp inside)

/-- So no input of a join is the relation of the join itself. -/
theorem Plants.distinct (plants : f.Plants m site id tree) (grown : Grown f m)
    (spans : (m.relations id).Spans tree) : site.Distinct m := by
  cases plants with
  | base | filteredBase | filteredJoin => trivial
  | join outer inner =>
    exact ⟨parent_ne_of_spans spans (.inl (outer.spans grown)),
      parent_ne_of_spans spans (.inr (inner.spans grown))⟩

theorem Plants.ofRows (plants : f.Plants m site id tree) : site.ofRows = true := by
  cases plants <;> rfl

end Forest

/-! ## Steps -/

/-- The records of all relations but one are kept, and those of all parameterizations. A relation
with members keeps them. -/
structure KeepsTrees (target : Option RelationId) (m m' : Memory) : Prop where
  rangeTable : m'.rangeTable = m.rangeTable
  members : ∀ id, (m.relations id).members ≠ [] →
    (m'.relations id).members = (m.relations id).members
  records : ∀ id, target ≠ some id → (m'.relations id).record = (m.relations id).record
  parameterizations : ∀ p, (m'.parameterizations p).record = (m.parameterizations p).record

theorem Confined.keepsTrees {target : Option RelationId} {names : List String} {s s' : Session}
    (h : Confined target names s s') : KeepsTrees target s.memory s'.memory :=
  ⟨h.rangeTable, fun id _ => (h.relations id).members, h.records,
    fun p => congrArg (fun kept => (kept p).record) h.parameterizations⟩

/-- A relation without a cheapest path still enters joins by a plain path. -/
theorem Confined.inputPath_of_bare {target : Option RelationId} {names : List String}
    {s s' : Session} (h : Confined target names s s')
    (bare : (s.memory.relations id).cheapest = none) :
    s'.memory.inputPath id = { parent := id } := by
  rw [Memory.inputPath, (h.relations id).cheapest, bare]

theorem KeepsTrees.spans {target : Option RelationId} (h : KeepsTrees target m m')
    (spans : (m.relations id).Spans tree) : (m'.relations id).Spans tree := by
  have same := h.members id spans.ne_nil
  exact ⟨spans.distinct, same ▸ spans.nodup, fun index => by rw [same, spans.members]⟩

namespace Grown

/-- Whatever keeps records and members keeps a forest. -/
theorem kept (h : Grown f m) (keeps : KeepsTrees none m m') : Grown f m' where
  relations other := by
    rw [keeps.records other (by simp), keeps.rangeTable]
    exact h.relations other
  parameterizations p := by
    rw [keeps.parameterizations p, keeps.rangeTable]
    exact h.parameterizations p
  spans other tree planted := keeps.spans (h.spans other tree planted)
  spansParameterized p other tree grafted := keeps.spans (h.spansParameterized p other tree grafted)

/-- A record that is left on a relation is planted. -/
theorem planted (h : Grown f m) (keeps : KeepsTrees (some id) m m')
    (recorded : (m'.relations id).record = some record)
    (covers : tree.Covers m.rangeTable record) (spans : (m.relations id).Spans tree) :
    Grown (f.plant id tree) m' where
  relations other := by
    rw [keeps.rangeTable]
    by_cases same : other = id
    · subst same
      rw [recorded, Forest.plant_self]
      exact .some covers
    · rw [keeps.records other (by simpa using Ne.symm same), f.plant_of_ne same]
      exact h.relations other
  parameterizations p := by
    rw [keeps.parameterizations p, keeps.rangeTable]
    exact h.parameterizations p
  spans other tree' planted := by
    by_cases same : other = id
    · subst same
      rw [Forest.plant_self] at planted
      cases planted
      exact keeps.spans spans
    · rw [f.plant_of_ne same] at planted
      exact keeps.spans (h.spans other tree' planted)
  spansParameterized p other tree' grafted :=
    keeps.spans (h.spansParameterized p other tree' grafted)

/-- A record that is attached to a parameterization is grafted. -/
theorem grafted (h : Grown f m) {p : ParameterizationId}
    {change : Parameterization → Parameterization}
    (recorded : ∀ old, (change old).record = some record)
    (covers : tree.Covers m.rangeTable record) (spans : (m.relations id).Spans tree) :
    Grown (f.graft p id tree) (m.updateParameterization p change) where
  relations other := h.relations other
  parameterizations q := by
    by_cases same : q = p
    · subst same
      simp only [Forest.graft_self, Memory.updateParameterization, if_true, Option.map_some,
        recorded]
      exact .some covers
    · simp only [f.graft_of_ne same, Memory.updateParameterization, if_neg same]
      exact h.parameterizations q
  spans other tree' planted := h.spans other tree' planted
  spansParameterized q other tree' grafted := by
    by_cases same : q = p
    · subst same
      rw [Forest.graft_self] at grafted
      cases grafted
      exact spans
    · rw [f.graft_of_ne same] at grafted
      exact h.spansParameterized q other tree' grafted

variable {s s₁ s' : Session} {t u : List Asked} {hook : Hook} {behind : Estimator} {rows : Float}

/-- An estimate leaves a record that covers its tree. -/
theorem exists_left (h : Grown f s.memory) (on : Predicts s)
    (plants : f.Plants s.memory site id tree) (spans : (s.memory.relations id).Spans tree)
    (run : Runs (site.estimate (.hooked hook behind)) s t (.ok rows) s') :
    ∃ record, site.left hook.name s' = some record ∧
      tree.Covers s.memory.rangeTable record := by
  obtain ⟨cache, record, known, estimated⟩ := estimate_by_record on plants.ofRows run
  exact ⟨record, estimated.left (plants.distinct h spans), plants.covers h known⟩

/-- **A relation that was estimated** has a record that covers its tree. -/
theorem estimated (h : Grown f s.memory) (on : Predicts s)
    (plants : f.Plants s.memory site id tree) (target : site.target = some id)
    (spans : (s.memory.relations id).Spans tree)
    (run : Runs (site.estimate (.hooked hook behind)) s t (.ok rows) s') :
    Grown (f.plant id tree) s'.memory := by
  obtain ⟨record, left, covers⟩ := h.exists_left on plants spans run
  rw [Site.left_of_target target] at left
  have confined := confined_estimate site (.hooked hook behind) run
  rw [target] at confined
  exact h.planted confined.keepsTrees left covers spans

end Grown

/-- The planner arranges what it keeps: it makes relations, paths and parameterizations. Estimates
and their records are kept, and so are the members of relations that have some. -/
structure Arranged (s s' : Session) : Prop where
  current : s'.current = s.current
  staged : s'.staged = s.staged
  trees : KeepsTrees none s.memory s'.memory

/-- **A parameterization** to which an estimate is attached has a record that covers its tree. In
between, the planner has made the parameterization. -/
theorem Grown.parameterized {s s₁ s₂ s' : Session} {t u : List Asked} {hook : Hook}
    {behind : Estimator} {rows : Float} {p : ParameterizationId} {result : Except Fault Unit}
    (h : Grown f s.memory) (on : Predicts s) (plants : f.Plants s.memory site id tree)
    (target : site.target = none) (spans : (s.memory.relations id).Spans tree)
    (run : Runs (site.estimate (.hooked hook behind)) s t (.ok rows) s₁) (made : Arranged s₁ s₂)
    (attached : Runs (hook.attach p) s₂ u result s') : Grown (f.graft p id tree) s'.memory := by
  obtain ⟨record, left, covers⟩ := h.exists_left on plants spans run
  rw [Site.left_of_staged target, ← made.staged] at left
  obtain ⟨e, staged, rfl⟩ := Option.map_eq_some_iff.mp left
  have confined := confined_estimate site (.hooked hook behind) run
  rw [target] at confined
  have grown := (h.kept confined.keepsTrees).kept made.trees
  have on : s₂.current.usePrediction = true := by
    rw [made.current, confined.current]
    exact on
  obtain ⟨-, -, rfl⟩ := runs_attach.mp attached
  simp only [staged, on]
  refine grown.grafted (fun _ => rfl) ?_ (made.trees.spans (confined.keepsTrees.spans spans))
  rw [made.trees.rangeTable, confined.rangeTable]
  exact covers

/-! ## Growing forests -/

/-- Hooks estimate relations and parameterizations step by step, each under a policy with
predictions, and the planner arranges what it keeps in between. Each estimate of filtered rows is
attached to the parameterization that is made next. -/
inductive Grows (s : Session) : Forest → Session → Prop
  | start : Grows s {} s
  | arranged {f : Forest} {s₁ s' : Session} : Grows s f s₁ → Arranged s₁ s' → Grows s f s'
  | estimated {f : Forest} {s₁ s' : Session} {site : Site} {id : RelationId} {tree : JoinTree}
      {hook : Hook} {behind : Estimator} {t : List Asked} {rows : Float} : Grows s f s₁ →
      Predicts s₁ → f.Plants s₁.memory site id tree → site.target = some id →
      (s₁.memory.relations id).Spans tree →
      Runs (site.estimate (.hooked hook behind)) s₁ t (.ok rows) s' → Grows s (f.plant id tree) s'
  | parameterized {f : Forest} {s₁ s₂ s₃ s' : Session} {site : Site} {id : RelationId}
      {tree : JoinTree} {hook : Hook} {behind : Estimator} {t u : List Asked} {rows : Float}
      {p : ParameterizationId} {result : Except Fault Unit} : Grows s f s₁ → Predicts s₁ →
      f.Plants s₁.memory site id tree → site.target = none →
      (s₁.memory.relations id).Spans tree →
      Runs (site.estimate (.hooked hook behind)) s₁ t (.ok rows) s₂ → Arranged s₂ s₃ →
      Runs (hook.attach p) s₃ u result s' → Grows s (f.graft p id tree) s'

/-- No record was made yet. -/
structure Memory.Unrecorded (m : Memory) : Prop where
  relations : ∀ id, (m.relations id).record = none
  parameterizations : ∀ p, (m.parameterizations p).record = none

theorem Memory.Unrecorded.grown (h : m.Unrecorded) : Grown {} m where
  relations id := by
    rw [h.relations]
    exact .none
  parameterizations p := by
    rw [h.parameterizations]
    exact .none
  spans _ _ none := by cases none
  spansParameterized _ _ _ none := by cases none

theorem Grows.grown {s s' : Session} (unrecorded : s.memory.Unrecorded) (grows : Grows s f s') :
    Grown f s'.memory := by
  -- Along the steps; that each record covers its tree is the invariant.
  induction grows with
  | start => exact unrecorded.grown
  | arranged _ arranged ih => exact ih.kept arranged.trees
  | estimated _ on plants target spans run ih => exact ih.estimated on plants target spans run
  | parameterized _ on plants target spans run made attached ih =>
    exact ih.parameterized on plants target spans run made attached

/-- A record that covers the tree of a relation has as many clauses, fingerprints and selectivities
as clauses are applied anywhere in the tree, and the catalog ids of the members. -/
structure CompleteFor (table : RangeTable) (r : Relation) (tree : JoinTree)
    (record : ClauseRecord) : Prop where
  spans : r.Spans tree
  clauses : record.clauses = tree.applied.map (·.clause)
  fingerprints : record.fingerprints.length = tree.applied.length
  selectivities : record.selectivities.length = tree.applied.length
  relationIds : record.relationIds.Perm (table.catalogIds r.members)
  plain : record.relationIds.Perm (r.members.filterMap table.plainId?)

theorem JoinTree.Covers.complete {table : RangeTable} {r : Relation}
    (covers : tree.Covers table record) (spans : r.Spans tree) :
    CompleteFor table r tree record := by
  have ids := covers.relationIds.trans (table.catalogIds_of_perm spans.perm.symm)
  exact ⟨spans, covers.clauses, covers.fingerprints, covers.selectivities, ids,
    ids.trans (table.catalogIds_perm _)⟩

/-- **All records** of relations and parameterizations hold each clause that is applied below, with
a fingerprint and a selectivity, and the catalog ids of the plain relations among the members.

`Forest.Enters.estimated` takes the planner to keep to the protocol of the hooks: a parameterization
with clauses of its own was estimated, and its estimate was attached right after it was made.
Without that, an input with such a parameterization would enter with the record of its relation, if
the relation was estimated, and the clauses of the parameterization would be missing. -/
theorem records_cover_trees {s s' : Session} (unrecorded : s.memory.Unrecorded)
    (grows : Grows s f s') :
    (∀ id record, (s'.memory.relations id).record = some record →
      ∃ tree, f.relations id = some tree ∧
        CompleteFor s'.memory.rangeTable (s'.memory.relations id) tree record) ∧
    ∀ p record, (s'.memory.parameterizations p).record = some record →
      ∃ id tree, f.parameterizations p = some (id, tree) ∧
        CompleteFor s'.memory.rangeTable (s'.memory.relations id) tree record := by
  have grown := grows.grown unrecorded
  constructor
  · intro id record recorded
    have related := grown.relations id
    rw [recorded] at related
    obtain ⟨tree, planted, covers⟩ := exists_of_rel_some_right related
    exact ⟨tree, planted, covers.complete (grown.spans id tree planted)⟩
  · intro p record recorded
    have related := grown.parameterizations p
    rw [recorded] at related
    obtain ⟨tree, found, covers⟩ := exists_of_rel_some_right related
    obtain ⟨⟨id, tree⟩, grafted, rfl⟩ := Option.map_eq_some_iff.mp found
    exact ⟨id, tree, grafted, covers.complete (grown.spansParameterized p id tree grafted)⟩

/-- A planning call that uses predictions, with a relation that is joined with itself. -/
def selfJoin : Session where
  policies _ := { usePrediction := true }
  calls := [0]
  memory :=
    { rangeTable := [(1, { kind := .relation, catalogId := 7 }),
        (2, { kind := .relation, catalogId := 7 })]
      relations := fun id =>
        if id = 1 then { members := [1], index := 1, restrictions := [callWith 1] }
        else if id = 2 then { members := [2], index := 2 }
        else if id = 3 then { members := [2, 1] } else {} }

theorem selfJoin_unrecorded : selfJoin.memory.Unrecorded where
  relations id := by
    show (if id = 1 then _ else _ : Relation).record = none
    split_ifs <;> rfl
  parameterizations _ := rfl

/-- The trees of one side of the join and of the join itself. -/
def selfJoinForest : Forest :=
  (Forest.plant {} 1 (.base 1 [callWith 1])).plant 3
    (.join (.base 1 [callWith 1]) (.base 2 []) [callWith 1])

/-- One side of the join is estimated, and then the join. -/
theorem exists_runs_selfJoin :
    ∃ t s₁ t' s₂, Runs ((Site.base 1).estimate twoHooks) selfJoin t (.ok 0.5) s₁ ∧
      Runs ((Site.join 3 1 2 .inner [callWith 1]).estimate twoHooks) s₁ t' (.ok 0.5) s₂ := by
  let first := (Site.base 1).estimate twoHooks
  let second := (Site.join 3 1 2 .inner [callWith 1]).estimate twoHooks
  have given : (outcome nothingStored first selfJoin).1.toOption = some 0.5 := by decide +kernel
  have given' : (outcome nothingStored second
      (outcome nothingStored first selfJoin).2).1.toOption = some 0.5 := by decide +kernel
  obtain ⟨t, run, -⟩ := exists_runs_ok given
  obtain ⟨t', run', -⟩ := exists_runs_ok given'
  exact ⟨t, _, t', _, run, run'⟩

/-- Both sides enter the join by plain paths, which an estimate does not change. -/
theorem enters_selfJoin {f : Forest} {s : Session} {target : Option RelationId}
    {names : List String} (confined : Confined target names selfJoin s)
    (planted : f.relations 1 = some (.base 1 [callWith 1])) (unplanted : f.relations 2 = none) :
    f.Enters s.memory (s.memory.inputPath 1) (.base 1 [callWith 1]) ∧
      f.Enters s.memory (s.memory.inputPath 2) (.base 2 []) := by
  have index : (s.memory.relations 2).index = 2 := (confined.relations 2).index
  have restrictions : (s.memory.relations 2).restrictions = [] :=
    (confined.relations 2).restrictions
  have members : (s.memory.relations 2).members = [2] := (confined.relations 2).members
  rw [confined.inputPath_of_bare rfl, confined.inputPath_of_bare rfl]
  refine ⟨.estimated nofun planted, ?_⟩
  have enters := Forest.enters_of_bare (f := f) (m := s.memory) unplanted
    (by rw [Relation.isBase, index]; rfl) (members.trans (congrArg (fun i => [i]) index.symm))
  rwa [index, restrictions] at enters

theorem exists_grows_selfJoin :
    ∃ s', Grows selfJoin selfJoinForest s' ∧
      s'.memory.rangeTable = selfJoin.memory.rangeTable ∧
      (s'.memory.relations 3).members = [2, 1] := by
  obtain ⟨t, s₁, t', s₂, run, run'⟩ := exists_runs_selfJoin
  have first := confined_estimate _ _ run
  have second := confined_estimate _ _ run'
  obtain ⟨outer, inner⟩ := enters_selfJoin first
    (Forest.plant_self {} 1 (.base 1 [callWith 1])) rfl
  have on : Predicts s₁ := by
    rw [Predicts, first.current]
    rfl
  have grows : Grows selfJoin (Forest.plant {} 1 (.base 1 [callWith 1])) s₁ :=
    .estimated .start rfl (.base rfl) rfl (.of_perm (by decide) (by decide)) run
  refine ⟨s₂, .estimated grows on (.join outer inner) rfl ?_ run', ?_, ?_⟩
  · exact first.keepsTrees.spans (.of_perm (by decide) (by decide))
  · rw [second.rangeTable, first.rangeTable]
  · rw [(second.relations 3).members, (first.relations 3).members]
    rfl

/-- One side of a join of a relation with itself was estimated, and the other one was not. -/
theorem records_cover_trees_self_join :
    ∃ f s' record, Grows selfJoin f s' ∧ (s'.memory.relations 3).record = some record ∧
      record.clauses.length = 2 ∧ record.fingerprints.length = 2 ∧
      record.selectivities.length = 2 ∧ record.relationIds.Perm [7, 7] := by
  obtain ⟨s', grows, table, members⟩ := exists_grows_selfJoin
  obtain ⟨record, found, -⟩ := (grows.grown selfJoin_unrecorded).of_relation
    (Forest.plant_self _ 3 _)
  obtain ⟨tree, planted, complete⟩ :=
    (records_cover_trees selfJoin_unrecorded grows).1 3 record found
  cases planted
  refine ⟨_, s', record, grows, found, ?_, complete.fingerprints, complete.selectivities, ?_⟩
  · rw [complete.clauses]
    rfl
  · have ids := complete.plain
    rw [table, members] at ids
    exact ids

end CardinalityAdvisor
