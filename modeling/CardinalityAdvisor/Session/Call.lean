import CardinalityAdvisor.Session.Classify

/-!
# Planning calls

While a query is planned, its policy is the current one of the session. Planning calls may be
nested, since a planner may plan auxiliary queries. However a call ends, its policy is taken off,
its class is released if the call activated it, and the planning time is noted.

## Main definitions

* `openCall`, `closeCall`: the two ends of a planning call
* `planVia`: a query planned by a delegate within a planning call
* `planHook`: the planner hook, which hands on to its delegate what it is given
* `finishExecution`: the report of a query's time to the profiling table
-/

namespace CardinalityAdvisor

/-- A planning call in progress: its policy, and whether it activated the class of its query. -/
structure PlanningCall where
  policy : PolicyId
  entered : Bool
  deriving DecidableEq, Repr

/-- Makes a policy the current one of the session. -/
def pushPolicy (policy : PlanningPolicy) : Action PolicyId := do
  let (id, session) := (← get).keepPolicy policy
  set { session with calls := id :: session.calls }
  return id

/-- Takes the current policy off the session. -/
def popPolicy : Action PolicyId := do
  let session ← get
  match session.calls with
  | id :: outer =>
    set { session with calls := outer }
    return id
  | [] => throw .noPlanningCall

/-- Begins a planning call: the query is classified, and its policy is the current one. -/
def openCall (query : Query) : Action PlanningCall := do
  let classified ← classify query
  return ⟨← pushPolicy classified.policy, classified.entered⟩

/-- Notes how long planning took, if its start was noted. -/
def noteTime (id : PolicyId) : Action Unit := do
  match ((← get).policies id).start with
  | some start =>
    let now ← Action.ask .now
    modify fun s => s.updatePolicy id fun p => { p with planningTime := now - start }
  | none => pure ()

/-- Ends a planning call. -/
def closeCall (call : PlanningCall) : Action Unit := do
  let _ ← popPolicy
  if call.entered then modify fun s => s.release (s.policies call.policy).queryHash
  noteTime call.policy

/-- Notes the policy of the planning call that the planner hook entered last. -/
def noteEntered (id : PolicyId) : Action Unit := modify fun s => { s with lastPolicy := some id }

/-- A query planned by a delegate within a planning call. The delegate may plan other queries on
the way, so it is given as a computation of its own, and `perform` says how actions of the session
are performed there. -/
def planVia {m : Type → Type} [Monad m] {β : Type}
    (perform : {α : Type} → Action α → m (Except Fault α)) (query : Query)
    (delegate : m (Except Fault β)) : m (Except Fault β) := do
  match ← perform (openCall query) with
  | .error fault => return .error fault
  | .ok call =>
    let _ ← perform (noteEntered call.policy)
    let result ← delegate
    match ← perform (closeCall call) with
    | .ok () => return result
    | .error fault => return .error fault

/-- The planner hook: a query planned by a delegate that is given all that the hook is given. -/
def planHook {m : Type → Type} [Monad m] {β γ : Type}
    (perform : {α : Type} → Action α → m (Except Fault α))
    (delegate : Query → γ → m (Except Fault β)) (query : Query) (arguments : γ) :
    m (Except Fault β) := planVia perform query (delegate query arguments)

/-- Reports the time of a query to the profiling table. The time of planning is left out. -/
def finishExecution (id : PolicyId) (total : Float) : Action ProfileUpdate := do
  let session ← get
  let policy := session.policies id
  match session.profile, policy.start with
  | some table, some _ =>
    let (result, table) :=
      table.update policy.queryHash (total - larger policy.planningTime 0)
    set { session with profile := some table }
    match table.report policy.queryHash result with
    | some entries => Action.ask (.log ProfileTable.component entries)
    | none => pure ()
    return result
  | _, _ => return .disabled

end CardinalityAdvisor
