import CardinalityAdvisor.ParseTree.Statement
import CardinalityAdvisor.ParseTree.Walk
import CardinalityAdvisor.Session.Action

/-!
# Queries that are never touched

Some queries are planned without any of the machinery: all of them as long as there is no
knowledge base, and those that could disturb it, the catalogs of the system, or other connections.

## Main definitions

* `SkipReason`: why a query is not touched
* `isProxy`: whether a connection belongs to a connection proxy
* `usesSystemRelations`: whether a statement scans a catalog or the knowledge base itself
* `skipReason`: the first reason that applies to a statement
-/

namespace CardinalityAdvisor

/-- Why a query is not touched. -/
inductive SkipReason where
  | notInstalled
  | notDml
  | parallelWorker
  | disabledMode
  | connectionProxy
  | systemRelations
  | recovery
  deriving DecidableEq, Repr

/-- The words for a reason. -/
def SkipReason.text : SkipReason → String
  | .notInstalled => "knowledge base is not installed"
  | .notDml => "not a DML statement"
  | .parallelWorker => "planning in parallel worker"
  | .disabledMode => "disabled mode"
  | .connectionProxy => "connection proxy"
  | .systemRelations => "query uses system relations"
  | .recovery => "recovery in progress"

/-- Whether one of the patterns is a part of the name of an application. -/
def isProxy (applicationName : Value) : List Value → Except Fault Bool
  | [] => .ok false
  | pattern :: rest => do
    if ← ofKind (pattern.isPartOf? applicationName) then .ok true
    else isProxy applicationName rest

/-- Whether a relation belongs to the catalogs of the system or has one of some names. -/
def isSystemOr (own : List String) (r : RelationName) : TreeResult Bool := do
  if ← r.isSystem then .ok true else RelationName.isAmong own r.name

/-- Whether one of some relations belongs to the catalogs of the system or has one of some
names. -/
def anySystemOr (own : List String) : List RelationName → TreeResult Bool
  | [] => .ok false
  | r :: rest => do if ← isSystemOr own r then .ok true else anySystemOr own rest

/-- Whether a statement scans a catalog or one of the knowledge base's own relations. -/
def usesSystemRelations (own : List String) (stmt : Json) : TreeResult Bool := do
  anySystemOr own (← referencedRelations stmt)

/-- Whether the knowledge base is there. Once it was found, it is not asked again; while a
connection sets it up, it is not. -/
def knowledgePresent : Action Bool := do
  let session ← get
  if session.host.creatingExtension then return false
  if session.confirmed then return true
  match ← Action.knowledge .isInstalled with
  | .ok installed =>
    set { session with confirmed := installed }
    return installed
  | .error (.unavailable _) =>
    set { session with confirmed := false }
    return false
  | .error fault => throw fault

/-- Whether nothing at all is wanted from the machinery: the mode is disabled, and neither
statistics nor execution times are collected. -/
def nothingWanted (settings : Settings) (mode : Mode) : Except Fault Bool :=
  if mode == .disabled && !settings.forcesCollection then (!·) <$> settings.profilingEnabled
  else .ok false

/-- The first reason not to touch a statement. -/
def skipReason (stmt : Json) (mode : Mode) : Action (Option SkipReason) := do
  if !(← knowledgePresent) then return some .notInstalled
  let session ← get
  if !(← Action.ofTree (statementKind stmt)).isDml then return some .notDml
  if session.host.parallelWorker then return some .parallelWorker
  if ← ofResult (nothingWanted session.settings mode) then return some .disabledMode
  let patterns ← ofResult session.settings.patterns
  if ← ofResult (isProxy session.host.applicationName patterns) then return some .connectionProxy
  let own ← Action.ask .knowledgeRelations
  if ← Action.ofTree (usesSystemRelations own stmt) then return some .systemRelations
  if session.host.recoveryInProgress then return some .recovery
  return none

end CardinalityAdvisor
