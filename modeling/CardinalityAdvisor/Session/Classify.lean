import CardinalityAdvisor.Fingerprint.Key
import CardinalityAdvisor.Session.Guards
import CardinalityAdvisor.Value.Export

/-!
# The classification of queries

Every query is classified before it is planned. Its fingerprint says to which class it belongs,
and the class and the mode give the policy of the planning call. A class that needs nothing of the
machinery is ignored from then on. New classes are registered under the lock of the class. If the
knowledge base cannot be used, the policy is disabled.

## Main definitions

* `Query`: a query as it reaches the planner
* `Classified`: the policy of a query, and whether its class was activated
* `registerClass`: the registration of a new class
* `classify`: the classification
-/

namespace CardinalityAdvisor

/-- A query as it reaches the planner: its tree, its text, or both. -/
structure Query where
  tree : Option Json
  text : Option String
  deriving DecidableEq, Repr

/-- The policy of a query, and whether its class is active because of it. -/
structure Classified where
  policy : PlanningPolicy
  entered : Bool
  deriving DecidableEq, Repr

namespace Classified

/-- The result for a query that runs without the machinery and is not active. -/
def passedOver (queryHash : Int) : Classified := ⟨.disabled queryHash, false⟩

end Classified

/-- A line of the log of classifications. -/
def logClassification (entries : List Value) : Action Unit := do
  Action.logIf (← get).verbose "classifier" entries

/-- The tree of a query. Its text is parsed only if there is no tree. -/
def Query.resolve (query : Query) : Action Json :=
  match query.tree, query.text with
  | some tree, _ => pure tree
  | none, some text => do ofResult (statementOf text (← Action.ask (.parse text)))
  | none, none => throw .wrongKind

/-- How the text of a query is shown in the log. -/
def shownText (text : Option String) : String :=
  match text with
  | none => "<no text>"
  | some text => if text.isEmpty then "<no text>" else Text.quoted text

/-- The registration of a new class with the text of its query. Another session may have
registered the class in the meantime, so it is looked for again under the lock. -/
def registerUnderLock (policy : PlanningPolicy) (text : Option String) : Action Unit := do
  let hash := policy.queryHash
  if (← ofResult (← Action.knowledge (.findClass hash))).isNone then
    ofResult (← Action.knowledge (.upsertClass policy.queryClass))
    logClassification [.text "Registered query class", .int hash]
  match text with
  | some text => ofResult (← Action.knowledge (.recordText hash text))
  | none => pure ()

/-- Whether a new class could be registered. -/
def registerClass (policy : PlanningPolicy) (text : Option String) : Action Bool := do
  let hash := policy.queryHash
  let timeout := (← get).settings.lockTimeout
  match ← attempt (Action.withLock hash timeout (registerUnderLock policy text)) with
  | .ok () => return true
  | .error (.unavailable cause) =>
    logClassification
      [.text "Cannot register query class", .int hash, .text "-", .text cause.message]
    return false
  | .error fault => throw fault

/-- Deactivates a class whose stored flags need nothing of the machinery. -/
def deactivateIfIdle (hash : Int) (stored : Option QueryClass) (force : Bool) : Action Unit := do
  if stored.any (·.idle force) then
    logClassification [.text "Deactivating query class", .int hash]
    modify fun s => { s with deactivated := s.deactivated.insert hash }

/-- The policy that the knowledge base and the mode give to a class, and whether the knowledge base
could be used. If it could not, the policy is disabled. -/
def lookUpPolicy (mode : Mode) (start : PlanningPolicy) (text : Option String) :
    Action (PlanningPolicy × Bool) := do
  let force := (← get).settings.forcesCollection
  match ← Action.knowledge (.findClass start.queryHash) with
  | .error (.unavailable cause) =>
    logClassification [.text "Cannot load query class", .int start.queryHash, .text "-",
      .text cause.message]
    return (start.disable, false)
  | .error fault => throw fault
  | .ok stored =>
    deactivateIfIdle start.queryHash stored force
    let policy := start.underMode mode stored
    if stored.isNone && (policy.isNewClass || force) then
      if !(← registerClass policy text) then return (policy.disable, false)
    return (policy, true)

/-- The policy of an active class: forced collection and the start of planning are added to what
the mode and the knowledge base give. -/
def resolvePolicy (mode : Mode) (start : PlanningPolicy) (text : Option String) :
    Action PlanningPolicy := do
  let settings := (← get).settings
  let (policy, usable) ←
    if mode = .disabled then pure (start.disable, true) else lookUpPolicy mode start text
  if !usable then return policy
  let policy := if settings.forcesCollection then policy.collecting else policy
  logClassification [.text "Resolved policy", .text policy.jsonText]
  let timed ← if policy.isDisabled then ofResult settings.profilingEnabled else pure true
  if timed then return { policy with start := some (← Action.ask .now) }
  else return policy

/-- The policy of a query that passed the guards, by its fingerprint. -/
def classifyHash (mode : Mode) (hash : Int) (explained : Bool) (text : Option String) :
    Action Classified := do
  let session ← get
  if session.deactivated.contains hash then
    logClassification [.text "Query class", .int hash, .text "is deactivated"]
    return .passedOver hash
  if session.active.contains hash then
    logClassification [.text "Query class", .int hash, .text "is already being planned"]
    return .passedOver hash
  logClassification [.text "Classifying query", .text (shownText text), .text "as class",
    .int hash]
  modify fun s => { s with active := hash :: s.active }
  let start : PlanningPolicy :=
    { queryHash := hash, spaceHash := hash, explainOnly := explained }
  return ⟨← resolvePolicy mode start text, true⟩

/-- The classification of a query. -/
def classify (query : Query) : Action Classified := do
  let mode ← ofResult (← get).settings.resolvedMode
  let (stmt, explained) ← Action.ofTree (unwrapExplain (← query.resolve))
  match ← skipReason stmt mode with
  | some reason =>
    logClassification [.text "Ignoring query:", .text reason.text]
    return .passedOver 0
  | none =>
    modify fun s => { s with cache := .clear }
    let hash ← Action.ofTree (Fingerprint.expressionKeyOf stmt)
    classifyHash mode hash explained query.text

end CardinalityAdvisor
