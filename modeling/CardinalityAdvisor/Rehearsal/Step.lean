import CardinalityAdvisor.Planner.JoinType
import CardinalityAdvisor.Policy.PlanningPolicy
import CardinalityAdvisor.Settings.Basic

/-!
# The steps of a rehearsal

In a rehearsal, a session runs against a host that follows a script. The script names queries,
clauses and what the steps create, and refers to hashes that are not known beforehand by what they
are the hashes of.

## Main definitions

* `Reference`: a hash, or what it is the hash of
* `PredictorScript`: the answers of a scripted predictor
* `Step`: a step of the script
-/

namespace CardinalityAdvisor.Rehearsal

/-- A hash, or what it is the hash of. -/
inductive Reference where
  | value (hash : Int)
  /-- The fingerprint of a query. -/
  | query (name : String)
  /-- The key with which a relation is marked. -/
  | relation (name : String)
  /-- The key of groups over an input with a key. -/
  | group (input : Reference) (clauses : List String)
  deriving DecidableEq, Repr

/-- A query class whose hashes are references. -/
structure ClassEntry where
  queryHash : Reference
  spaceHash : Reference
  /-- The flags; its hashes do not count. -/
  flags : QueryClass
  deriving DecidableEq, Repr

/-- The answers of a scripted predictor. -/
structure PredictorScript where
  /-- The answer to every other request; a refusal if there is none. -/
  default : Option Float := none
  /-- The answers to requests by their keys, of which the last one counts. -/
  answers : List (Reference × Option Float) := []
  /-- The key with which all answers are given. -/
  key : Option Int := none
  deriving Repr

/-- A query of the script: the name of its tree, and its text. -/
structure ScriptedQuery where
  tree : Option String := none
  text : Option String := none
  deriving DecidableEq, Repr

/-- The mark that a relation has from the beginning. -/
structure ScriptedMark where
  predicted : Float
  key : Reference
  deriving Repr

/-- A step of the script. A name that follows `as` is the name of what the step creates. -/
inductive Step where
  | classify (query : ScriptedQuery) (as : Option String)
  | release (queryHash : Reference)
  | begin (query : ScriptedQuery) (as : Option String)
  /-- Leaves the planning call that was begun last. -/
  | leave
  /-- Plans a query. The host's planner runs steps on the way and may raise an error. -/
  | plan (query : ScriptedQuery) (as : Option String) (arguments options : Json)
      (during : List Step) (raised : Option String)
  | finish (policy : String) (total : Float)
  | push (policy : PlanningPolicy) (as : Option String)
  | pop (as : Option String)
  | disable (policy : String)
  | advanceClock (seconds : Float)
  | setHost (fields : List (String × Value))
  | setSettings (fields : List (String × Value))
  | setKnowledge (installed : Option Bool) (failing : List String) (race : Option QueryClass)
  | isInstalled
  | findClass (queryHash : Reference)
  | upsertClass (entry : ClassEntry)
  | listClasses
  | recordText (queryHash : Reference) (text : String)
  | findText (queryHash : Reference)
  | storeSample (space key : Reference) (target : Float) (count : Int)
  | loadSample (space key : Reference)
  | describeKnowledge
  | lock (queryHash : Reference) (timeout : Value)
  | unlock (queryHash : Reference)
  | predict (space key : Reference)
  | describePredictor
  | relation (as : String) (members : List Int) (index : Int) (restrictions : List String)
      (rows : Float) (mark : Option ScriptedMark)
  | path (as parent : String) (rows : Float) (parameters : Option String) (cheapest : Bool)
  | parameterization (as : String) (requiredOuter : List Int) (clauses : List String)
      (rows : Float)
  | defaultEstimator (hook : String)
  | setScript (hook : String) (script : PredictorScript)
  | setSelectivities (answers : List Float)
  | selectivity (clause : String) (scope : Int) (fingerprint : Option Reference)
      (join : Option JoinType) (contained : List (Reference × Int))
  | clearCache
  | baseRows (hook relation : String)
  | filteredBaseRows (hook relation : String) (clauses : List String)
  | attach (hook parameterization : String)
  | joinRows (hook relation outer inner : String) (join : JoinType) (clauses : List String)
  | filteredJoinRows (hook relation outer inner : String) (join : JoinType)
      (clauses : List String)
  | groups (hook : String) (exprs : List String) (path relation : String)
      (sets : Option (List Json)) (flags : Option Int)
  deriving Repr

end CardinalityAdvisor.Rehearsal
