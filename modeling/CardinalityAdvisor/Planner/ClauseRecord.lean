import CardinalityAdvisor.Json.Basic

/-!
# Clause records

The record of an intermediate result lists the clauses that were applied to it and the relations
that it is made of. The record of a join is put together from the records of its inputs.

## Main definitions

* `Restriction`: a clause of a planner
* `ClauseRecord`: the clauses and relations of an intermediate result
* `ClauseRecord.append`, `ClauseRecord.concat`: records put together
-/

namespace CardinalityAdvisor

/-- A clause of a planner, with the name by which the planner knows it. -/
structure Restriction where
  label : String
  clause : Json
  deriving DecidableEq, Repr

/-- The clauses and relations of an intermediate result. The fingerprints and selectivities belong
to the clauses in the same places. -/
structure ClauseRecord where
  clauses : List Json := []
  fingerprints : List Int := []
  selectivities : List Float := []
  /-- The catalog ids of the relations; a relation that is joined with itself counts twice. -/
  relationIds : List Int := []
  deriving DecidableEq, Repr

namespace ClauseRecord

/-- Two records put together. -/
protected def append (a b : ClauseRecord) : ClauseRecord where
  clauses := a.clauses ++ b.clauses
  fingerprints := a.fingerprints ++ b.fingerprints
  selectivities := a.selectivities ++ b.selectivities
  relationIds := a.relationIds ++ b.relationIds

instance : Append ClauseRecord := ⟨ClauseRecord.append⟩

/-- Records put together. -/
def concat (records : List ClauseRecord) : ClauseRecord := records.foldl (· ++ ·) {}

/-- The number of clauses. -/
def length (r : ClauseRecord) : Nat := r.clauses.length

end ClauseRecord

end CardinalityAdvisor
