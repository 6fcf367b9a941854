import CardinalityAdvisor.Knowledge.Store
import CardinalityAdvisor.Log.Line
import CardinalityAdvisor.Outside
import CardinalityAdvisor.Rehearsal.Step

/-!
# The scripted host

## Main definitions

* `Event`: what the host is asked, as it is listed afterwards
* `NativeTable`: fixed answers of an estimator of the host
* `World`: the scripted host
* `World.answer`: its reply to a request
-/

namespace CardinalityAdvisor.Rehearsal

/-- What the host is asked, as it is listed afterwards. -/
inductive Event where
  | knowledge (call : Knowledge.Call)
  | selectivity (clause : String) (join : Option JoinType)
  | predict (request : PredictionRequest)
  | native (estimator : String) (call : NativeCall)
  | planner (name : String) (withoutTree : Bool) (text : Option String)
      (arguments options : Json) (current : PlanningPolicy)
  deriving Repr

/-- Fixed answers of an estimator of the host, one for each place. -/
structure NativeTable where
  baseRows : Float := 0
  filteredBaseRows : Float := 0
  joinRows : Float := 0
  filteredJoinRows : Float := 0
  groups : Float := 0
  deriving Repr

/-- The answer for the place of a call. -/
def NativeTable.answer (t : NativeTable) : NativeCall → Float
  | .baseRows _ => t.baseRows
  | .filteredBaseRows _ _ => t.filteredBaseRows
  | .joinRows _ _ _ _ _ => t.joinRows
  | .filteredJoinRows _ _ _ _ _ => t.filteredJoinRows
  | .groups _ _ _ _ _ => t.groups

/-- A scripted predictor whose references are resolved. -/
structure PredictorTable where
  default : Option Float
  answers : List (Int × Option Float)
  key : Option Int
  deriving Repr

namespace PredictorTable

/-- The rows for a key, by the last answer with the key. -/
def rowsFor (t : PredictorTable) (key : Int) : Option Float :=
  (t.answers.reverse.lookup key).getD t.default

/-- The answer to a request. -/
def answer (t : PredictorTable) (request : PredictionRequest) : Prediction :=
  let key := t.key.getD request.sampleKey
  match t.rowsFor request.sampleKey with
  | some rows => ⟨rows, key⟩
  | none => .refused key

end PredictorTable

/-- The scripted host. Its lists of events, lines and warnings begin with the last one. -/
structure World where
  store : Knowledge.Store := {}
  /-- The names of the calls to the knowledge base that fail. -/
  failing : List String := []
  /-- The class that another session registers whenever a lock is asked for. -/
  race : Option QueryClass := none
  knowledgeRelations : List String := []
  clock : Float := 0
  selectivities : List Float := [0.5]
  /-- How many selectivities were answered. -/
  answered : Nat := 0
  predictors : List (String × PredictorTable) := []
  natives : List (String × NativeTable) := []
  parser : List (String × ParseReply) := []
  events : List Event := []
  lines : List String := []
  warnings : List String := []

namespace World

/-- The name of a call by which it is made to fail; nothing for calls that are not listed. -/
def callName? : Knowledge.Call → Option String
  | .isInstalled => some "is_installed"
  | .findClass _ => some "find_class"
  | .upsertClass _ => some "upsert_class"
  | .recordText _ _ => some "record_query_text"
  | .loadSample _ _ => some "load_sample"
  | .storeSample _ _ _ => some "store_sample"
  | .lockClass _ _ => some "class_lock"
  | .unlockClass _ => none

/-- The host after it was asked something. -/
def noteEvent (w : World) (event : Event) : World := { w with events := event :: w.events }

/-- The host after another session may have registered a class, just before its lock is taken. -/
def letOthersRegister (w : World) : Knowledge.Call → World
  | .lockClass queryHash _ =>
    match w.race with
    | some c => { w with store := w.store.putClass { c with queryHash } }
    | none => w
  | _ => w

/-- The reply of the knowledge base, and the host after it. -/
def answerKnowledge (w : World) (call : Knowledge.Call) : Except Fault call.Reply × World :=
  match callName? call with
  | none =>
    let (reply, store) := w.store.answer call
    (reply, { w with store })
  | some name =>
    let w := w.noteEvent (.knowledge call)
    if w.failing.contains name then (.error (.unavailable (.refused name)), w)
    else
      let w := w.letOthersRegister call
      let (reply, store) := w.store.answer call
      (reply, { w with store })

/-- The next selectivity, which the host answers in turn. -/
def nextSelectivity (w : World) : Float :=
  (w.selectivities[w.answered % w.selectivities.length]?).getD 0

/-- The reply to a request, and the host after it. -/
def answer : (request : Request) → World → request.Reply × World
  | .parse text, w => ((w.parser.lookup text).getD (.complaint text none), w)
  | .now, w => (w.clock, w)
  | .log component entries, w =>
    ((), { w with lines := Log.taggedLine component entries :: w.lines })
  | .warn text, w => ((), { w with warnings := text :: w.warnings })
  | .selectivity restriction join, w =>
    let w' := w.noteEvent (.selectivity restriction.label join)
    (.ok w.nextSelectivity, { w' with answered := w.answered + 1 })
  | .predict predictor request, w =>
    let table := (w.predictors.lookup predictor).getD ⟨none, [], none⟩
    (.ok (table.answer request), w.noteEvent (.predict request))
  | .native estimator call, w =>
    (.ok (((w.natives.lookup estimator).getD {}).answer call),
      w.noteEvent (.native estimator call))
  | .knowledge call, w => w.answerKnowledge call
  | .knowledgeRelations, w => (w.knowledgeRelations, w)

end World

end CardinalityAdvisor.Rehearsal
