import CardinalityAdvisor.Session.Action

/-!
# Cardinalities from stored samples

Samples keep the logarithms of cardinalities.

## Main definitions

* `exponential`: the cardinality that a sample stands for
* `predictStored`: the prediction from the sample that is stored under a key
* `predictGroups`: the number of groups from the sample that is stored under a key
-/

namespace CardinalityAdvisor

/-- The largest double whose exponential is a finite double. -/
def largestExponent : Float := 709.782712893384

/-- The exponential of a number. It fails where that exceeds the largest double. -/
def exponential (x : Float) : Except Fault Float :=
  if largestExponent < x && !x.isInf then .error .overflow else .ok x.exp

/-- The cardinality of a relation by its sample, nothing if the sample has no rows. A relation has
at least one row. -/
def sampleRows (sample : Sample) : Except Fault (Option Float) :=
  if sample.count ≤ 0 then .ok none
  else (fun rows => some (larger rows 1)) <$> exponential sample.target

/-- The prediction from the sample that is stored under a key, a refusal if there is none or if
the knowledge base cannot be used. -/
def predictStored (space key : Int) : Action Prediction := do
  match ← Action.knowledge (.loadSample space key) with
  | .error (.unavailable _) | .ok none => return .refused key
  | .error fault => throw fault
  | .ok (some sample) =>
    match ← ofResult (sampleRows sample) with
    | some rows => return ⟨rows, key⟩
    | none => return .refused key

/-- The number of groups from the sample that is stored under a key, if there is exactly one row
for it and the number is above zero. The results are logged by `log`. -/
def predictGroups (log : List Value → Action Unit) (space key : Int) : Action (Option Float) := do
  match ← Action.knowledge (.loadSample space key) with
  | .error (.unavailable cause) =>
    log [.text "Cannot load group sample", .int key, .text "-", .text cause.message]
    return none
  | .error fault => throw fault
  | .ok none => return none
  | .ok (some sample) =>
    if sample.count ≠ 1 then
      Action.ask (.warn ("Expected exactly one row for group sample " ++ toString key ++
        ", but found " ++ toString sample.count))
      return none
    let groups ← ofResult (exponential sample.target)
    log [.text "Predicted", .float groups, .text "groups for sample", .int key]
    return if groups > 0 then some groups else none

end CardinalityAdvisor
