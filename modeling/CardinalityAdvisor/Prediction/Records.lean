import CardinalityAdvisor.Fingerprint.Clause
import CardinalityAdvisor.Session.Action

/-!
# The records of intermediate results

The clauses that are applied at one place are fingerprinted among each other and among the clauses
of the inputs, and their selectivities are asked of the host unless they are remembered. Then the
records of the inputs are added as they are.

## Main definitions

* `clauseSelectivity`: the selectivity of a clause
* `collect`: the record of an intermediate result
* `pathRecord`: the record of an input
-/

namespace CardinalityAdvisor

/-- The selectivity that is remembered under a key, or the host's answer for a clause. -/
def selectivityOf (key : SelectivityKey) (restriction : Restriction) (join : Option JoinType) :
    Action Float := do
  match (← get).cache.find? key with
  | some selectivity => return selectivity
  | none =>
    let answer ← ofResult (← Action.ask (.selectivity restriction join))
    modify fun s => { s with cache := s.cache.remember key answer }
    return clamp answer

/-- The selectivity of a clause for a relation. Without a fingerprint, the clause has the one that
it has on its own. -/
def clauseSelectivity (restriction : Restriction) (scope : Int) (fingerprint : Option Int)
    (join : Option JoinType) : Action Float := do
  match fingerprint with
  | some fingerprint => selectivityOf ⟨fingerprint, scope⟩ restriction join
  | none =>
    let own ← Action.ofTree (Fingerprint.clauseKey .empty .inner restriction.clause)
    selectivityOf ⟨own, scope⟩ restriction join

/-- The fingerprint and the selectivity of each of some restrictions. -/
def measure (equivalence : Fingerprint.Equivalence) (scope : Int) (join : Option JoinType) :
    List Restriction → Action (List (Int × Float))
  | [] => pure []
  | restriction :: rest => do
    let fingerprint ← Action.ofTree
      (Fingerprint.clauseKey equivalence (join.getD .inner) restriction.clause)
    let selectivity ← clauseSelectivity restriction scope (some fingerprint) join
    return (fingerprint, selectivity) :: (← measure equivalence scope join rest)

/-- What is known about the place at which clauses are collected. -/
structure Place where
  /-- The index of the relation for which clauses are estimated, zero for joins. -/
  scope : Int
  /-- The catalog ids of the relations that come in at this place. -/
  relationIds : List Int := []
  /-- The join, if this is one. -/
  join : Option JoinType := none
  /-- The records of the inputs. -/
  inputs : List ClauseRecord := []

/-- The record of an intermediate result. -/
def collect (place : Place) (restrictions : List Restriction) : Action ClauseRecord := do
  let clauses := restrictions.map (·.clause)
  let equivalence ← Action.ofTree
    (Fingerprint.Equivalence.ofClauses (clauses ++ place.inputs.flatMap (·.clauses)))
  let measured ← measure equivalence place.scope place.join restrictions
  let here : ClauseRecord :=
    { clauses, fingerprints := measured.map (·.1), selectivities := measured.map (·.2)
      relationIds := place.relationIds }
  return .concat (here :: place.inputs)

/-- The record of an input: the one with which it was estimated, or a new one if it was not. -/
def pathRecord (path : Path) : Action ClauseRecord := do
  let memory := (← get).memory
  match memory.pathRecord? path with
  | some record => return record
  | none =>
    let parent := memory.relations path.parent
    collect { scope := parent.index, relationIds := memory.catalogIds parent }
      (memory.pathClauses path)

end CardinalityAdvisor
