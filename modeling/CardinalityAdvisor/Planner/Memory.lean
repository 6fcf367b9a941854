import CardinalityAdvisor.Planner.ClauseRecord
import CardinalityAdvisor.Planner.RangeTable

/-!
# What a planner keeps about the query it plans

A planner keeps relations, paths over them and the parameters of paths, and refers to them by
numbers. Estimates are written into them. A mark is a predicted cardinality together with
the key of the sample it came from.

## Main definitions

* `Mark`: the mark that a prediction leaves
* `Relation`, `Path`, `Parameterization`: what a planner keeps
* `Memory`: all of it
* `Memory.pathRecord?`: the record with which a path was estimated
-/

namespace CardinalityAdvisor

/-- The cardinality that stands for no prediction. -/
def noPrediction : Float := -1

/-- The mark that a prediction leaves. -/
structure Mark where
  predicted : Float := noPrediction
  sampleKey : Int := 0
  deriving DecidableEq, Repr

/-- The mark of an estimate that was not predicted. -/
def Mark.unpredicted (sampleKey : Int) : Mark := ⟨noPrediction, sampleKey⟩

/-- The number of a relation. -/
abbrev RelationId := Nat

/-- The number of a path. -/
abbrev PathId := Nat

/-- The number of a parameterization. -/
abbrev ParameterizationId := Nat

/-- A base relation or a join that is planned. -/
structure Relation where
  /-- The name by which the planner knows it. -/
  label : String := ""
  /-- The range table indexes of its base relations. -/
  members : List Int := []
  /-- The range table index of a base relation, zero for everything else. -/
  index : Int := 0
  restrictions : List Restriction := []
  rows : Float := 0
  mark : Mark := {}
  cheapest : Option PathId := none
  record : Option ClauseRecord := none
  deriving Repr

namespace Relation

/-- Whether it is a base relation. -/
def isBase (r : Relation) : Bool := decide (0 < r.index)

/-- Whether its cardinality was predicted. -/
def hasPrediction (r : Relation) : Bool := r.mark.predicted ≥ 0

end Relation

/-- The outer relations and clauses that a path is parameterized by. -/
structure Parameterization where
  requiredOuter : List Int := []
  clauses : List Restriction := []
  rows : Float := 0
  mark : Mark := {}
  record : Option ClauseRecord := none
  deriving Repr

/-- A way to compute a relation. -/
structure Path where
  /-- The name by which the planner knows it. -/
  label : String := ""
  parent : RelationId := 0
  rows : Float := 0
  parameters : Option ParameterizationId := none
  deriving Repr

/-- All that a planner keeps. -/
structure Memory where
  /-- What the query scans. -/
  rangeTable : RangeTable := []
  relations : RelationId → Relation := fun _ => {}
  paths : PathId → Path := fun _ => {}
  parameterizations : ParameterizationId → Parameterization := fun _ => {}

namespace Memory

/-- The memory after a relation was changed. -/
def updateRelation (m : Memory) (id : RelationId) (change : Relation → Relation) : Memory :=
  { m with relations := fun other => if other = id then change (m.relations id)
                                     else m.relations other }

/-- The memory after a parameterization was changed. -/
def updateParameterization (m : Memory) (id : ParameterizationId)
    (change : Parameterization → Parameterization) : Memory :=
  { m with parameterizations := fun other => if other = id then change (m.parameterizations id)
                                             else m.parameterizations other }

/-- The memory after a path was kept. -/
def keepPath (m : Memory) (id : PathId) (path : Path) : Memory :=
  { m with paths := fun other => if other = id then path else m.paths other }

/-- The record with which a path was estimated: that of its parameters, else that of its
relation. -/
def pathRecord? (m : Memory) (path : Path) : Option ClauseRecord :=
  (path.parameters.bind fun id => (m.parameterizations id).record) <|>
    (m.relations path.parent).record

/-- The catalog ids of a base relation: its own one if it is a plain relation, else none. -/
def baseCatalogIds (m : Memory) (r : Relation) : List Int :=
  if r.isBase then (m.rangeTable.plainId? r.index).toList else []

/-- The catalog ids of a relation that was never estimated. -/
def catalogIds (m : Memory) (r : Relation) : List Int :=
  if r.isBase then m.baseCatalogIds r else m.rangeTable.catalogIds r.members

/-- The clauses that a path applies to its relation: those of the relation, then those of its
parameters. -/
def pathClauses (m : Memory) (path : Path) : List Restriction :=
  (m.relations path.parent).restrictions ++
    match path.parameters with
    | some id => (m.parameterizations id).clauses
    | none => []

/-- The path by which a relation enters a join: its cheapest one, or a plain one. -/
def inputPath (m : Memory) (id : RelationId) : Path :=
  match (m.relations id).cheapest with
  | some path => m.paths path
  | none => { parent := id }

end Memory

end CardinalityAdvisor
