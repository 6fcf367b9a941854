import CardinalityAdvisor.Rehearsal.Theatre
import CardinalityAdvisor.Settings.Reading

/-!
# Running a rehearsal

## Main definitions

* `runStep`: one step of the script, other than a planning call of the planner hook
* `rehearse`: a step with the steps inside it
* `rehearseAll`: a whole script
-/

namespace CardinalityAdvisor.Rehearsal

/-- The result of an action, turned into what a step gives. -/
def giving {α : Type} (action : Action α) (outcome : α → Outcome) :
    Rehearsing (Except Fault Outcome) := (·.map outcome) <$> perform action

/-- A step that needs what is found out first. -/
def needing {α : Type} (find : Theatre → Except Fault α)
    (step : α → Rehearsing (Except Fault Outcome)) : Rehearsing (Except Fault Outcome) := do
  match find (← get) with
  | .ok found => step found
  | .error fault => return .error fault

/-- Gives a name to a policy, if the script names it. -/
def namePolicy (as : Option String) (id : PolicyId) : Rehearsing Unit :=
  match as with
  | some name => modify fun t => { t with policies := put name id t.policies }
  | none => pure ()

/-- A query of the script with its tree. -/
def queryOf (q : ScriptedQuery) : Rehearsing Query := do
  let queries := (← get).queries
  return ⟨(q.tree.bind fun name => queries.lookup name).filter (· ≠ .null), q.text⟩

/-- The policy with a number. -/
def policyOf (id : PolicyId) : Rehearsing PlanningPolicy := return (← get).session.policies id

/-- The number of a named policy. -/
def policyNamed (name : String) : Rehearsing PolicyId :=
  return ((← get).policies.lookup name).getD 0

/-- The number of a named relation. -/
def relationNamed (name : String) : Rehearsing RelationId :=
  return ((← get).relations.lookup name).getD 0

/-- The number of a named path. -/
def pathNamed (name : String) : Rehearsing PathId :=
  return ((← get).paths.lookup name).getD 0

/-- The number of a named parameterization. -/
def parameterizationNamed (name : String) : Rehearsing ParameterizationId :=
  return ((← get).parameterizations.lookup name).getD 0

/-- New restrictions with named clauses. -/
def restrictionsOf (names : List String) : Rehearsing (List Restriction) :=
  return names.map (← get).restriction

/-- The estimator with the name of a hook. -/
def estimatorNamed (name : String) : Rehearsing Estimator :=
  return ((← get).estimators.lookup name).getD (.native name)

/-- A number that was not used yet. -/
def newId : Rehearsing Nat := modifyGet fun t => (t.nextId, { t with nextId := t.nextId + 1 })

/-- Changes what the host's planner keeps. -/
def updateMemory (change : Memory → Memory) : Rehearsing Unit :=
  modify fun t => { t with session := { t.session with memory := change t.session.memory } }

/-- What a step gives about a relation after an action. -/
def givingRelation {α : Type} (id : RelationId) (action : Action α) :
    Rehearsing (Except Fault Outcome) := do
  let result ← perform action
  let memory := (← get).session.memory
  return result.map fun _ => .relation (memory.relations id)

/-- What a step gives about a parameterization after an action. -/
def givingParameterization {α : Type} (id : ParameterizationId) (action : Action α) :
    Rehearsing (Except Fault Outcome) := do
  let result ← perform action
  let memory := (← get).session.memory
  return result.map fun _ => .parameterization (memory.parameterizations id)

/-- Keeps a new policy of a query that was classified on its own. -/
def keepClassified (query : Query) : Action PolicyId := do
  let classified ← classify query
  let (id, session) := (← get).keepPolicy classified.policy
  set session
  return id

/-- What a step gives about a new or changed policy, which it may name. -/
def givingPolicy (as : Option String) (action : Action PolicyId) :
    Rehearsing (Except Fault Outcome) := do
  match ← perform action with
  | .error fault => return .error fault
  | .ok id =>
    namePolicy as id
    return .ok (.policy (← policyOf id))

/-- The call to the knowledge base as a step. -/
def knowledgeStep (call : Knowledge.Call) (outcome : call.Reply → Outcome) :
    Rehearsing (Except Fault Outcome) :=
  giving (do ofResult (← Action.knowledge call)) outcome

/-- Sets what the host says about the connection. -/
def setHostField (h : HostStatus) : String × Value → HostStatus
  | ("creating_extension", value) => { h with creatingExtension := value.holds }
  | ("parallel_worker", value) => { h with parallelWorker := value.holds }
  | ("recovery_in_progress", value) => { h with recoveryInProgress := value.holds }
  | ("application_name", value) => { h with applicationName := value }
  | _ => h

/-- Sets one of the settings as it is given. Other names mean nothing. -/
def setSettingsField (s : Settings) (field : String × Value) : Settings :=
  match s.assign field.1 field.2 with
  | .ok s => s
  | .error _ => s

/-- Begins a planning call and remembers it. -/
def beginStep (query : Query) (as : Option String) : Rehearsing (Except Fault Outcome) := do
  match ← perform (openCall query) with
  | .error fault => return .error fault
  | .ok call =>
    modify fun t => { t with begun := call :: t.begun }
    namePolicy as call.policy
    return .ok (.policy (← policyOf call.policy))

/-- Leaves the planning call that was begun last. -/
def leaveStep : Rehearsing (Except Fault Outcome) := do
  match (← get).begun with
  | [] => return .error .noPlanningCall
  | call :: outer =>
    modify fun t => { t with begun := outer }
    match ← perform (closeCall call) with
    | .error fault => return .error fault
    | .ok () => return .ok (.left (← policyOf call.policy))

/-- The script of a step of the knowledge base itself, without the host. -/
def storeStep (change : Knowledge.Store → Except Fault Knowledge.Store) :
    Rehearsing (Except Fault Outcome) := do
  match change (← get).world.store with
  | .error fault => return .error fault
  | .ok store =>
    modify fun t => { t with world := { t.world with store } }
    return .ok .nothing

/-- The names of the predictor and the knowledge base, and what they say about themselves. -/
def descriptions (store : Knowledge.Store) : List Value := [
  .object [("name", .text "stored-sample"), ("knowledge_base", store.describe)],
  .text "StoredSamplePredictor", .text Knowledge.Store.kindName,
  Knowledge.Store.describe {}]

/-- What the knowledge base says about itself and about its relations. -/
def knowledgeDescription (t : Theatre) : List Value := [
  t.world.store.describe,
  .list ((sortBy ascending t.world.knowledgeRelations).map .text)]

/-- One step of the script. A planning call of the planner hook is left to `rehearse`. -/
def runStep : Step → Rehearsing (Except Fault Outcome)
  | .classify query as => do givingPolicy as (keepClassified (← queryOf query))
  | .release queryHash =>
    needing (·.resolve queryHash) fun hash =>
      giving (modify fun s => s.release hash) fun _ => .nothing
  | .begin query as => do beginStep (← queryOf query) as
  | .leave => leaveStep
  | .plan _ _ _ _ _ _ => return .ok .nothing
  | .finish policy total => do
    let id ← policyNamed policy
    let result ← perform (finishExecution id total)
    let profile := (← get).session.profile
    return result.map fun update => .finished update (profile.map (·.rows))
  | .push policy as => givingPolicy as (pushPolicy policy)
  | .pop as => givingPolicy as popPolicy
  | .disable policy => do
    let id ← policyNamed policy
    givingPolicy none do
      modify fun s => s.updatePolicy id PlanningPolicy.disable
      return id
  | .advanceClock seconds => do
    modify fun t => { t with world := { t.world with clock := t.world.clock + seconds } }
    return .ok .nothing
  | .setHost fields =>
    giving (modify fun s => { s with host := fields.foldl setHostField s.host }) fun _ => .nothing
  | .setSettings fields =>
    giving (modify fun s => { s with settings := fields.foldl setSettingsField s.settings })
      fun _ => .nothing
  | .setKnowledge installed failing race => do
    modify fun t => { t with world := { t.world with
      store := { t.world.store with installed := installed.getD t.world.store.installed }
      failing, race } }
    return .ok .nothing
  | .isInstalled => knowledgeStep .isInstalled .truth
  | .findClass queryHash =>
    needing (·.resolve queryHash) fun hash => knowledgeStep (.findClass hash) .queryClass
  | .upsertClass entry =>
    needing (·.resolveClass entry) fun c => knowledgeStep (.upsertClass c) fun _ => .nothing
  | .listClasses => do return .ok (.classes ((← get).world.store.classes.map (·.2)))
  | .recordText queryHash text =>
    needing (·.resolve queryHash) fun hash =>
      knowledgeStep (.recordText hash text) fun _ => .nothing
  | .findText queryHash =>
    needing (·.resolve queryHash) fun hash => do
      return .ok (.text ((← get).world.store.texts.lookup hash))
  | .storeSample space key target count =>
    needing (·.resolvePlace space key) fun (space, key) =>
      knowledgeStep (.storeSample space key ⟨target, count⟩) fun _ => .nothing
  | .loadSample space key =>
    needing (·.resolvePlace space key) fun (space, key) =>
      knowledgeStep (.loadSample space key) .sample
  | .describeKnowledge => do return .ok (.values (knowledgeDescription (← get)))
  | .lock queryHash timeout =>
    needing (·.resolve queryHash) fun hash => storeStep (·.lockClass hash timeout)
  | .unlock queryHash =>
    needing (·.resolve queryHash) fun hash => storeStep fun s => .ok (s.unlockClass hash)
  | .predict space key =>
    needing (·.resolvePlace space key) fun (space, key) =>
      giving (predictStored space key) .prediction
  | .describePredictor => do return .ok (.values (descriptions (← get).world.store))
  | .relation as members index restrictions rows mark =>
    needing (fun t => mark.mapM t.resolveMark) fun mark => do
      let restrictions ← restrictionsOf restrictions
      let id ← newId
      let relation : Relation :=
        { label := as, members := members.eraseDups, index, restrictions, rows
          mark := mark.getD {} }
      updateMemory (·.updateRelation id fun _ => relation)
      modify fun t => { t with relations := put as id t.relations }
      return .ok (.relation relation)
  | .path as parent rows parameters cheapest => do
    let parent ← relationNamed parent
    let parameters ← parameters.mapM parameterizationNamed
    let id ← newId
    let path : Path := { label := as, parent, rows, parameters }
    updateMemory (·.keepPath id path)
    if cheapest then
      updateMemory (·.updateRelation parent fun r => { r with cheapest := some id })
    modify fun t => { t with paths := put as id t.paths }
    return .ok (.record ((← get).session.memory.pathRecord? path))
  | .parameterization as requiredOuter clauses rows => do
    let clauses ← restrictionsOf clauses
    let id ← newId
    let parameterization : Parameterization := { requiredOuter, clauses, rows }
    updateMemory (·.updateParameterization id fun _ => parameterization)
    modify fun t => { t with parameterizations := put as id t.parameterizations }
    return .ok (.parameterization parameterization)
  | .defaultEstimator hook => do
    match ← estimatorNamed hook with
    | .hooked _ behind => return .ok (.word behind.name)
    | .native name => return .ok (.word name)
  | .setScript hook script => do
    modify fun t => { t with scripts := put hook script t.scripts }
    return .ok .nothing
  | .setSelectivities answers => do
    modify fun t => { t with world := { t.world with selectivities := answers, answered := 0 } }
    return .ok .nothing
  | .selectivity clause scope fingerprint join contained =>
    needing (fun t => fingerprint.mapM t.resolve) fun fingerprint => do
      let restriction := (← get).restriction clause
      match ← perform (clauseSelectivity restriction scope fingerprint join) with
      | .error fault => return .error fault
      | .ok value =>
        needing (fun t => contained.mapM t.resolveKey) fun keys => do
          let cache := (← get).session.cache
          return .ok <|
            .selectivity value (keys.map fun key => (cache.find? key).isSome) cache.summary
  | .clearCache => giving (modify fun s => { s with cache := .clear }) fun _ => .nothing
  | .baseRows hook relation => do
    let estimator ← estimatorNamed hook
    let id ← relationNamed relation
    givingRelation id (estimator.baseRows id)
  | .filteredBaseRows hook relation clauses => do
    let estimator ← estimatorNamed hook
    let id ← relationNamed relation
    giving (estimator.filteredBaseRows id (← restrictionsOf clauses)) .number
  | .attach hook parameterization => do
    let id ← parameterizationNamed parameterization
    match (← get).hooks.lookup hook with
    | some hook => givingParameterization id (hook.attach id)
    | none => return .ok .nothing
  | .joinRows hook relation outer inner join clauses => do
    let estimator ← estimatorNamed hook
    let id ← relationNamed relation
    let outer ← relationNamed outer
    let inner ← relationNamed inner
    givingRelation id (estimator.joinRows id outer inner join (← restrictionsOf clauses))
  | .filteredJoinRows hook relation outer inner join clauses => do
    let estimator ← estimatorNamed hook
    let id ← relationNamed relation
    let outer ← pathNamed outer
    let inner ← pathNamed inner
    giving (estimator.filteredJoinRows id outer inner join (← restrictionsOf clauses)) .number
  | .groups hook exprs path relation sets flags => do
    let estimator ← estimatorNamed hook
    let id ← relationNamed relation
    let grouping : Estimator.Grouping :=
      { exprs := exprs.map (← get).clause, input := ← pathNamed path, relation := id, sets }
    let result ← perform (estimator.groups grouping flags)
    let memory := (← get).session.memory
    return result.map fun (rows, flags) => .groups rows (memory.relations id) flags

/-- What was seen on the way of a planning call: the entry into the host's planner, and the
answers of the steps. -/
structure OnTheWay where
  entered : Option (String × Report) := none
  during : List Answer := []

/-- The host's planner: it notes that it was entered, runs steps, and ends with a plan or an
error. -/
def hostPlanner (query : Query) (arguments options : Json) (during : Rehearsing (List Answer))
    (raised : Option String) : StateT OnTheWay Rehearsing (Except Fault String) := do
  let t ← StateT.lift get
  let event : Event :=
    .planner t.planner query.tree.isNone query.text arguments options t.session.current
  StateT.lift (set { t with world := t.world.noteEvent event })
  let report ← StateT.lift takeReport
  let answers ← StateT.lift during
  set ({ entered := some (t.planner, report), during := answers } : OnTheWay)
  match raised with
  | some report => return .error (.host report)
  | none => return .ok (t.planner ++ " plan")

/-- A planning call of the planner hook. -/
def planStep (query : ScriptedQuery) (as : Option String) (arguments options : Json)
    (during : Rehearsing (List Answer)) (raised : Option String) :
    Rehearsing (Except Fault Outcome) := do
  let query ← queryOf query
  let planning := planHook (fun action => StateT.lift (perform action))
    (fun query given => hostPlanner query given.1 given.2 during raised) query (arguments, options)
  let (plan, seen) ← planning.run {}
  let session := (← get).session
  match session.lastPolicy with
  | some id => namePolicy as id
  | none => pure ()
  return .ok (.planned plan seen.entered seen.during (session.lastPolicy.map session.policies))

mutual
/-- A step of the script with the steps inside it. -/
def rehearse (step : Step) : Rehearsing Answer := do
  let result ← match step with
    | .plan query as arguments options during raised =>
      planStep query as arguments options (rehearseAll during) raised
    | other => runStep other
  return (result, ← takeReport)

/-- The steps of a script, one after the other. -/
def rehearseAll (steps : List Step) : Rehearsing (List Answer) :=
  match steps with
  | [] => pure []
  | step :: rest => do
    let answer ← rehearse step
    let answers ← rehearseAll rest
    return answer :: answers
end

/-- The answers of a whole rehearsal. -/
def run (setup : Setup) (steps : List Step) : Except Fault (List Answer) := do
  .ok (rehearseAll steps (← Theatre.start setup)).1

end CardinalityAdvisor.Rehearsal
