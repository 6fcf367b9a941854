import CardinalityAdvisor.Fingerprint.Key
import CardinalityAdvisor.Prediction.Estimator
import CardinalityAdvisor.Rehearsal.World
import CardinalityAdvisor.Session.Call

/-!
# A session and its scripted host

## Main definitions

* `Setup`: what a rehearsal begins with
* `Theatre`: a session, the scripted host, and the names that the script has given
* `perform`: an action of the session, answered by the host
* `Outcome`, `Report`: what a step gives, and what could be seen of it
-/

namespace CardinalityAdvisor.Rehearsal

/-- The estimator that a hook is put in front of. -/
inductive PreviousEstimator where
  /-- Another hook. -/
  | hook (name : String)
  /-- An estimator of the host that was put there before. -/
  | native (table : NativeTable)
  deriving Repr

/-- A hook of the script. -/
structure HookSetup where
  name : String
  /-- The script of its predictor; without one it uses the stored samples. -/
  script : Option PredictorScript := none
  native : NativeTable := {}
  previous : Option PreviousEstimator := none
  verbose : Bool := false
  deriving Repr

/-- What a rehearsal begins with. -/
structure Setup where
  settings : Settings := {}
  installed : Bool := true
  classes : List ClassEntry := []
  failing : List String := []
  /-- The class that another session registers whenever a lock is asked for. -/
  race : Option QueryClass := none
  knowledgeRelations : List String := []
  host : HostStatus := {}
  clock : Float := 0
  selectivities : List Float := [0.5]
  queries : List (String × Json) := []
  clauses : List (String × Json) := []
  parser : List (String × ParseReply) := []
  rangeTable : RangeTable := []
  /-- Whether a planner hook was put in front of the host's planner before. -/
  previousPlanner : Bool := false
  profileCapacity : Option Int := none
  /-- The hooks in the order in which they are made. -/
  hooks : List HookSetup := []

/-- A session, the scripted host, and the names that the script has given. -/
structure Theatre where
  session : Session
  world : World
  queries : List (String × Json)
  clauses : List (String × Json)
  /-- The name of the planner behind the planner hook. -/
  planner : String
  hooks : List (String × Hook) := []
  /-- The estimators whose names are those of their hooks. -/
  estimators : List (String × Estimator) := []
  scripts : List (String × PredictorScript) := []
  policies : List (String × PolicyId) := []
  relations : List (String × RelationId) := []
  paths : List (String × PathId) := []
  parameterizations : List (String × ParameterizationId) := []
  /-- The number of what is made next. -/
  nextId : Nat := 0
  /-- The planning calls that were begun and not left, the last one first. -/
  begun : List PlanningCall := []

namespace Theatre

/-- The tree of a named clause. -/
def clause (t : Theatre) (name : String) : Json := (t.clauses.lookup name).getD .null

/-- A new restriction with a named clause. -/
def restriction (t : Theatre) (name : String) : Restriction := ⟨name, t.clause name⟩

/-- The fingerprint of a named query. -/
def queryHash (t : Theatre) (name : String) : Except Fault Int :=
  match t.queries.lookup name with
  | none => .error (.tree (.missing name))
  | some .null => .error .noQuery
  | some tree => ofTree (Fingerprint.expressionKeyOf tree)

/-- The hash that a reference stands for. -/
def resolve (t : Theatre) : Reference → Except Fault Int
  | .value hash => .ok hash
  | .query name => t.queryHash name
  | .relation name =>
    match t.relations.lookup name with
    | none => .error (.tree (.missing name))
    | some id => .ok (t.session.memory.relations id).mark.sampleKey
  | .group input clauses => do
    let key ← t.resolve input
    ofTree (Fingerprint.groupKeyOf key (clauses.map t.clause))

/-- The class that an entry stands for. -/
def resolveClass (t : Theatre) (entry : ClassEntry) : Except Fault QueryClass := do
  let queryHash ← t.resolve entry.queryHash
  let spaceHash ← t.resolve entry.spaceHash
  .ok { entry.flags with queryHash, spaceHash }

/-- The feature space and the key that two references stand for. -/
def resolvePlace (t : Theatre) (space key : Reference) : Except Fault (Int × Int) := do
  .ok (← t.resolve space, ← t.resolve key)

/-- The mark that a relation has from the beginning. -/
def resolveMark (t : Theatre) (mark : ScriptedMark) : Except Fault Mark := do
  .ok ⟨mark.predicted, ← t.resolve mark.key⟩

/-- The key of a selectivity whose fingerprint is a reference. -/
def resolveKey (t : Theatre) (key : Reference × Int) : Except Fault SelectivityKey := do
  .ok ⟨← t.resolve key.1, key.2⟩

/-- The answers of a scripted predictor to the keys that are known by now. -/
def resolveScript (t : Theatre) (script : PredictorScript) : PredictorTable where
  default := script.default
  answers := script.answers.filterMap fun (r, rows) =>
    match t.resolve r with
    | .ok key => some (key, rows)
    | .error _ => none
  key := script.key

/-- The host with the scripts of its predictors resolved. -/
def resolvedWorld (t : Theatre) : World :=
  { t.world with predictors := t.scripts.map fun (name, script) => (name, t.resolveScript script) }

/-- The name of the host's own estimator behind a hook. -/
def previousName (hook : String) : String := hook ++ ".previous"

/-- The estimator behind a hook. -/
def behind (t : Theatre) (setup : HookSetup) : Estimator :=
  match setup.previous with
  | none => .native setup.name
  | some (.native _) => .native (previousName setup.name)
  | some (.hook name) => (t.estimators.lookup name).getD (.native name)

/-- The tables of the host's own estimators behind a hook. -/
def nativeTables (setup : HookSetup) : List (String × NativeTable) :=
  (setup.name, setup.native) ::
    match setup.previous with
    | some (.native table) => [(previousName setup.name, table)]
    | _ => []

/-- The theatre with one more hook. -/
def addHook (t : Theatre) (setup : HookSetup) : Theatre :=
  let hook : Hook :=
    { name := setup.name
      predictor := if setup.script.isSome then .external setup.name else .stored
      replaces := setup.previous.isSome
      verbose := setup.verbose }
  { t with
    hooks := put setup.name hook t.hooks
    estimators := put setup.name (.hooked hook (t.behind setup)) t.estimators
    scripts := (setup.script.map fun s => put setup.name s t.scripts).getD t.scripts
    world := { t.world with natives := nativeTables setup ++ t.world.natives } }

/-- The theatre before any class is stored and any hook is made. -/
def bare (setup : Setup) : Theatre where
  session :=
    { settings := setup.settings
      host := setup.host
      verbose := setup.settings.debug.holds
      profile := setup.profileCapacity.map fun capacity => .new capacity false
      memory := { rangeTable := setup.rangeTable } }
  world :=
    { store := { installed := setup.installed }
      failing := setup.failing
      race := setup.race
      knowledgeRelations := setup.knowledgeRelations
      clock := setup.clock
      selectivities := setup.selectivities
      parser := setup.parser }
  queries := setup.queries
  clauses := setup.clauses
  planner := if setup.previousPlanner then "previous" else "standard"

/-- The theatre at the beginning of a rehearsal. -/
def start (setup : Setup) : Except Fault Theatre := do
  let t := bare setup
  let classes ← setup.classes.mapM t.resolveClass
  let store := classes.foldl Knowledge.Store.putClass t.world.store
  .ok (setup.hooks.foldl addHook { t with world := { t.world with store } })

end Theatre

/-- A computation in a rehearsal. -/
abbrev Rehearsing := StateM Theatre

/-- An action of the session, answered by the host. -/
def perform {α : Type} (action : Action α) : Rehearsing (Except Fault α) := fun t =>
  let ((result, session), world) := ((action.run).run t.session).run World.answer t.resolvedWorld
  (result, { t with session, world })

/-- What could be seen of a step: the session after it, and what the host was asked, in order. -/
structure Report where
  session : Session
  events : List Event
  lines : List String
  warnings : List String

/-- What could be seen since the last report. -/
def takeReport : Rehearsing Report := fun t =>
  (⟨t.session, t.world.events.reverse, t.world.lines.reverse, t.world.warnings.reverse⟩,
    { t with world := { t.world with events := [], lines := [], warnings := [] } })

/-- What a step gives. -/
inductive Outcome where
  | nothing
  | truth (value : Bool)
  | number (value : Float)
  | word (text : String)
  | policy (policy : PlanningPolicy)
  /-- The policy of a planning call that was left. -/
  | left (policy : PlanningPolicy)
  /-- A query that was planned: the plan, what could be seen when the host's planner was entered,
  what the steps on the way gave, and the policy that was noted last. -/
  | planned (plan : Except Fault String) (entered : Option (String × Report))
      (during : List (Except Fault Outcome × Report)) (last : Option PlanningPolicy)
  | finished (update : ProfileUpdate) (rows : Option (List (Int × Float)))
  | queryClass (found : Option QueryClass)
  | classes (stored : List QueryClass)
  | text (found : Option String)
  | sample (found : Option Sample)
  | values (values : List Value)
  | prediction (prediction : Prediction)
  | relation (relation : Relation)
  | record (record : Option ClauseRecord)
  | parameterization (parameterization : Parameterization)
  | selectivity (value : Float) (contained : List Bool) (summary : String)
  | groups (rows : Float) (relation : Relation) (flags : Option Int)

/-- What a step gives or how it fails, and what could be seen of it. -/
abbrev Answer := Except Fault Outcome × Report

end CardinalityAdvisor.Rehearsal
