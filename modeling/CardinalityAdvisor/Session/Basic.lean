import CardinalityAdvisor.Planner.Memory
import CardinalityAdvisor.Policy.PlanningPolicy
import CardinalityAdvisor.Profile
import CardinalityAdvisor.Selectivity.Cache
import CardinalityAdvisor.Settings.Basic

/-!
# The state of a session

## Main definitions

* `HostStatus`: what the host says about the connection
* `StagedEstimate`: an estimate that waits for its parameterization
* `Session`: the state that the planning calls of a session share
* `Session.current`: the policy of the innermost planning call
-/

namespace CardinalityAdvisor

/-- What the host says about the connection. -/
structure HostStatus where
  /-- Whether the connection sets up the knowledge base right now. -/
  creatingExtension : Bool := false
  parallelWorker : Bool := false
  recoveryInProgress : Bool := false
  /-- The name of the client as it is given, which should be a text. -/
  applicationName : Value := .text ""
  deriving Repr

/-- An estimate that waits until the host has made the parameterization it belongs to. -/
structure StagedEstimate where
  mark : Mark
  record : ClauseRecord
  deriving DecidableEq, Repr

/-- The number of a policy. -/
abbrev PolicyId := Nat

/-- The state that the planning calls of a session share. -/
structure Session where
  settings : Settings := {}
  host : HostStatus := {}
  /-- Whether classifications are logged. -/
  verbose : Bool := false
  /-- The classes whose queries are being planned. -/
  active : List Int := []
  /-- The classes that are ignored for the rest of the session. -/
  deactivated : List Int := []
  cache : SelectivityCache := {}
  /-- Whether the knowledge base is known to have been set up. -/
  confirmed : Bool := false
  /-- The policies of all planning calls so far. -/
  policies : PolicyId → PlanningPolicy := fun _ => {}
  nextPolicy : PolicyId := 0
  /-- The policies of the planning calls in progress, the innermost one first. -/
  calls : List PolicyId := []
  /-- The policy of the planning call that was entered last through the planner hook. -/
  lastPolicy : Option PolicyId := none
  profile : Option ProfileTable := none
  /-- What the host's planner keeps. -/
  memory : Memory := {}
  /-- The staged estimate of each cardinality hook. -/
  staged : String → Option StagedEstimate := fun _ => none

namespace Session

/-- The policy of the innermost planning call; disabled if none is in progress. -/
def current (s : Session) : PlanningPolicy :=
  match s.calls with
  | id :: _ => s.policies id
  | [] => .disabled 0

/-- The session after a policy was changed. -/
def updatePolicy (s : Session) (id : PolicyId) (change : PlanningPolicy → PlanningPolicy) :
    Session :=
  { s with policies := fun other => if other = id then change (s.policies id)
                                    else s.policies other }

/-- A new policy among the policies of the session, and its number. -/
def keepPolicy (s : Session) (policy : PlanningPolicy) : PolicyId × Session :=
  (s.nextPolicy,
    { s.updatePolicy s.nextPolicy fun _ => policy with nextPolicy := s.nextPolicy + 1 })

/-- The session after a class is no longer being planned. -/
def release (s : Session) (queryHash : Int) : Session :=
  { s with active := s.active.filter (· ≠ queryHash) }

/-- The session with another staged estimate of a hook. -/
def stage (s : Session) (hook : String) (estimate : Option StagedEstimate) : Session :=
  { s with staged := fun other => if other = hook then estimate else s.staged other }

/-- The session in words. -/
def summary (s : Session) : String :=
  "Session(active=" ++ toString s.active.length ++ ", deactivated=" ++
    toString s.deactivated.length ++ ", planning_depth=" ++ toString s.calls.length ++ ")"

end Session

end CardinalityAdvisor
