import CardinalityAdvisor.Prediction.Records
import CardinalityAdvisor.Prediction.Samples

/-!
# Cardinality hooks

A planner estimates cardinalities at five places. A hook predicts them as long as the current
policy uses predictions. Where the predictor refuses, and under every other policy, the estimator
behind the hook is asked: another hook, or the host's own estimation. A prediction takes the place
of the estimate completely.

The planner makes a parameterization only after it has asked for the cardinality of a filtered
relation. Until then the estimate is staged, and `attach` hands it over.

## Main definitions

* `Hook`: a hook that predicts
* `Estimator`: the host's own estimation, or hooks in front of it
* `Estimator.baseRows`, `Estimator.filteredBaseRows`, `Estimator.joinRows`,
  `Estimator.filteredJoinRows`, `Estimator.groups`: the five places
* `attach`: the staged estimate handed over to its parameterization
-/

namespace CardinalityAdvisor

/-- A hook that predicts cardinalities. -/
structure Hook where
  name : String
  predictor : Predictor
  /-- Whether the hook was put in front of an estimator that was put there before. -/
  replaces : Bool
  verbose : Bool
  deriving DecidableEq, Repr

/-- The host's own estimation, or hooks in front of it. -/
inductive Estimator where
  | native (name : String)
  | hooked (hook : Hook) (behind : Estimator)
  deriving DecidableEq, Repr

/-- The name of an estimator. -/
def Estimator.name : Estimator → String
  | .native name => name
  | .hooked hook _ => hook.name

namespace Hook

/-- A line of the log of a hook. -/
def log (hook : Hook) (entries : List Value) : Action Unit :=
  Action.logIf hook.verbose "cardinality hooks" entries

/-- The answer of the hook's predictor. -/
def consult (hook : Hook) (request : PredictionRequest) : Action Prediction :=
  match hook.predictor with
  | .stored => predictStored request.space request.sampleKey
  | .external name => do ofResult (← Action.ask (.predict name request))

/-- The prediction for an intermediate result by its record. -/
def predict (hook : Hook) (record : ClauseRecord) : Action Prediction := do
  let space := (← get).current.spaceHash
  let key := Fingerprint.sampleKey space record.relationIds record.fingerprints
  let prediction ← hook.consult ⟨record, space, key⟩
  if prediction.isRefusal then
    hook.log [.text "Predictor refused sample", .int prediction.sampleKey]
    return .refused prediction.sampleKey
  else
    hook.log [.text "Predicted", .float prediction.rows, .text "rows for sample",
      .int prediction.sampleKey]
    return prediction

/-- The key of the input of a grouping: that of the prediction for its relation, or the one that a
prediction would be asked for. -/
def inputKey (hook : Hook) (input : Path) : Action Int := do
  let parent := (← get).memory.relations input.parent
  if parent.hasPrediction then return parent.mark.sampleKey
  else return (← hook.predict (← pathRecord input)).sampleKey

end Hook

/-- Whether the current policy uses predictions. -/
def predicting : Action Bool := return (← get).current.usePrediction

/-- Changes a relation of the planner. -/
def updateRelation (id : RelationId) (change : Relation → Relation) : Action Unit :=
  modify fun s => { s with memory := s.memory.updateRelation id change }

/-- Puts a mark on a relation. -/
def annotate (id : RelationId) (mark : Mark) : Action Unit :=
  updateRelation id fun r => { r with mark }

/-- Makes a prediction the estimate of a relation. -/
def adopt (id : RelationId) (prediction : Prediction) : Action Unit :=
  updateRelation id fun r => { r with rows := prediction.rows, mark := prediction.mark }

/-- Stages an estimate of a hook, or nothing. -/
def stage (hook : Hook) (estimate : Option StagedEstimate) : Action Unit :=
  modify fun s => s.stage hook.name estimate

/-- The estimate of one of the host's own estimators. -/
def askNative (name : String) (call : NativeCall) : Action Float := do
  ofResult (← Action.ask (.native name call))

/-- The record of a base relation with some further clauses. -/
def baseRecord (id : RelationId) (further : List Restriction) : Action ClauseRecord := do
  let memory := (← get).memory
  let relation := memory.relations id
  collect { scope := relation.index, relationIds := memory.baseCatalogIds relation }
    (further ++ relation.restrictions)

/-- The record of a join of two paths. -/
def joinRecord (outer inner : Path) (join : JoinType) (clauses : List Restriction) :
    Action ClauseRecord := do
  let outerRecord ← pathRecord outer
  let innerRecord ← pathRecord inner
  collect { scope := 0, join := some join, inputs := [outerRecord, innerRecord] } clauses

/-- Predicts the rows of a relation and marks it. Without a prediction, the relation is left to
`otherwise`. -/
def Hook.settle (hook : Hook) (id : RelationId) (record : ClauseRecord)
    (otherwise : Action Unit) : Action Unit := do
  updateRelation id fun r => { r with record := some record }
  let prediction ← hook.predict record
  if prediction.isRefusal then
    annotate id (.unpredicted prediction.sampleKey)
    otherwise
  else adopt id prediction

/-- Predicts the rows of a filtered relation and stages the prediction. Without one, `otherwise`
is the estimate. -/
def Hook.settleFiltered (hook : Hook) (record : ClauseRecord) (otherwise : Action Float) :
    Action Float := do
  let prediction ← hook.predict record
  stage hook (some ⟨prediction.mark, record⟩)
  if prediction.isRefusal then otherwise else return prediction.rows

namespace Estimator

/-- Estimates the rows of a base relation. -/
def baseRows : Estimator → RelationId → Action Unit
  | .native name, id => do
    let rows ← askNative name (.baseRows ((← get).memory.relations id))
    updateRelation id fun r => { r with rows }
  | .hooked hook behind, id => do
    if ← predicting then hook.settle id (← baseRecord id []) (behind.baseRows id)
    else
      annotate id (.unpredicted 0)
      behind.baseRows id

/-- Estimates the rows of a base relation that is filtered by further clauses. -/
def filteredBaseRows : Estimator → RelationId → List Restriction → Action Float
  | .native name, id, clauses => do
    askNative name (.filteredBaseRows ((← get).memory.relations id) clauses)
  | .hooked hook behind, id, clauses => do
    if ← predicting then
      hook.settleFiltered (← baseRecord id clauses) (behind.filteredBaseRows id clauses)
    else
      stage hook none
      behind.filteredBaseRows id clauses

/-- Estimates the rows of a join of two relations. -/
def joinRows : Estimator → (id outer inner : RelationId) → JoinType → List Restriction →
    Action Unit
  | .native name, id, outer, inner, join, clauses => do
    let relations := (← get).memory.relations
    let rows ← askNative name
      (.joinRows (relations id) (relations outer) (relations inner) join clauses)
    updateRelation id fun r => { r with rows }
  | .hooked hook behind, id, outer, inner, join, clauses => do
    if ← predicting then
      let memory := (← get).memory
      let record ← joinRecord (memory.inputPath outer) (memory.inputPath inner) join clauses
      hook.settle id record (behind.joinRows id outer inner join clauses)
    else
      annotate id (.unpredicted 0)
      behind.joinRows id outer inner join clauses

/-- Estimates the rows of a join of two paths that is filtered by further clauses. -/
def filteredJoinRows : Estimator → RelationId → (outer inner : PathId) → JoinType →
    List Restriction → Action Float
  | .native name, id, outer, inner, join, clauses => do
    let memory := (← get).memory
    askNative name (.filteredJoinRows (memory.relations id) (memory.paths outer)
      (memory.paths inner) join clauses)
  | .hooked hook behind, id, outer, inner, join, clauses => do
    if ← predicting then
      let memory := (← get).memory
      let record ← joinRecord (memory.paths outer) (memory.paths inner) join clauses
      hook.settleFiltered record (behind.filteredJoinRows id outer inner join clauses)
    else
      stage hook none
      behind.filteredJoinRows id outer inner join clauses

/-- What a planner asks for when it groups a path. -/
structure Grouping where
  exprs : List Json
  input : PathId
  /-- The relation of the groups. -/
  relation : RelationId
  /-- The grouping sets, if there are any. -/
  sets : Option (List Json)
  deriving DecidableEq, Repr

/-- Whether the grouping has nothing that could be predicted: it has grouping sets or no
expressions. -/
def Grouping.unsupported (g : Grouping) : Bool := g.sets.any (!·.isEmpty) || g.exprs.isEmpty

/-- Estimates the number of groups. The planner may ask for flags about the estimate; they are
given back as they are at the end. -/
def groups : Estimator → Grouping → (flags : Option Int) → Action (Float × Option Int)
  | .native name, g, flags => do
    let memory := (← get).memory
    let rows ← askNative name
      (.groups g.exprs (memory.paths g.input) (memory.relations g.relation) g.sets flags)
    return (rows, flags)
  | .hooked hook behind, g, flags => do
    if !(← predicting) then
      annotate g.relation (.unpredicted 0)
      behind.groups g flags
    else if g.unsupported then behind.groups g flags
    else
      if hook.replaces then
        Action.ask (.warn "Replacing a previously installed estimator of the number of groups")
      let flags := flags.map fun _ => 0
      let inputKey ← hook.inputKey ((← get).memory.paths g.input)
      let key ← Action.ofTree (Fingerprint.groupKeyOf inputKey g.exprs)
      match ← predictGroups hook.log (← get).current.spaceHash key with
      | some rows =>
        adopt g.relation ⟨rows, key⟩
        return (rows, flags)
      | none =>
        annotate g.relation (.unpredicted key)
        behind.groups g flags

end Estimator

/-- Hands the staged estimate of a hook over to the parameterization that the planner has made.
Nothing is staged after that. -/
def Hook.attach (hook : Hook) (id : ParameterizationId) : Action Unit := do
  let staged := (← get).staged hook.name
  stage hook none
  let usable ← predicting
  modify fun s => { s with memory := s.memory.updateParameterization id fun p =>
    match staged, usable with
    | some estimate, true =>
      { p with mark := estimate.mark, record := some estimate.record }
    | _, _ => { p with mark := .unpredicted 0 } }

end CardinalityAdvisor
