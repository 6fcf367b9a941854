import CardinalityAdvisor.Knowledge.Call
import CardinalityAdvisor.Server.Link
import CardinalityAdvisor.Value.Condition

/-!
# A knowledge base on a server

The knowledge base consists of three relations. Every statement takes effect at once. The lock of a
class is a lock of the server on the hash of the class; it is tried for over and over until it is
granted or the time is up.

## Main definitions

* `ClassRow`, `SampleRow`: what the rows of the server hold
* `install`, `isInstalled`, `findClass`, `upsertClass`, `recordText`, `loadSample`, `storeSample`:
  the statements behind the calls
* `acquire`, `release`: the lock of a class
* `underLock`: something done under the lock of a class
* `answer`: the calls to the knowledge base
-/

namespace CardinalityAdvisor.Server

/-- The relation with the classes. -/
def classRelation : String := "adaptq_queries"

/-- The relation with one text of each class. -/
def textRelation : String := "adaptq_query_texts"

/-- The relation with the samples. -/
def sampleRelation : String := "adaptq_data"

/-- The relations of the knowledge base. -/
def relationNames : List String := [sampleRelation, classRelation, textRelation]

/-- The statements that make the relations. -/
def schema : List String := [
  "CREATE TABLE IF NOT EXISTS " ++ classRelation ++ " ( query_hash bigint PRIMARY KEY, " ++
    "fspace_hash bigint NOT NULL, learn boolean NOT NULL, use_prediction boolean NOT NULL, " ++
    "auto_tune boolean NOT NULL, collect_stat boolean NOT NULL )",
  "CREATE TABLE IF NOT EXISTS " ++ textRelation ++ " ( query_hash bigint PRIMARY KEY REFERENCES " ++
    classRelation ++ " ON DELETE CASCADE, query_text text NOT NULL )",
  "CREATE TABLE IF NOT EXISTS " ++ sampleRelation ++ " ( fspace_hash bigint NOT NULL, " ++
    "fss_hash bigint NOT NULL, target double precision NOT NULL, sample_count integer NOT NULL, " ++
    "PRIMARY KEY (fspace_hash, fss_hash) )"]

/-- Statements without arguments, one after the other. -/
def executeAll : List String → Action Unit
  | [] => pure ()
  | text :: rest => do
    let _ ← execute text []
    executeAll rest

/-- Makes the relations of the knowledge base. -/
def install : Action Unit := do
  withCursor (executeAll schema)
  modify fun l => { l with installed := true }

/-- Whether all of some relations exist. -/
def allExist : List String → Action Bool
  | [] => pure true
  | name :: rest => do if ← relationExists name then allExist rest else pure false

/-- Whether the relations of the knowledge base are there. Once they were found, the server is not
asked again. -/
def isInstalled : Action Bool := do
  if (← get).installed then return true
  match ← attempt (withCursor (allExist relationNames)) with
  | .ok found =>
    if found then modify fun l => { l with installed := true }
    return found
  | .error (.unavailable _) => return false
  | .error fault => throw fault

/-- A class as a row of the server gives it. The server is not trusted to send what was stored. -/
structure ClassRow where
  queryHash : Int
  space : Json
  learn : Json
  usePrediction : Json
  autoTune : Json
  collectStat : Json
  deriving DecidableEq, Repr

namespace ClassRow

/-- The class that the columns of a row give. -/
def ofColumns (queryHash : Int) : List Json → Except Fault ClassRow
  | [space, learn, usePrediction, autoTune, collectStat] =>
    .ok ⟨queryHash, space, learn, usePrediction, autoTune, collectStat⟩
  | columns => .error (.rowWidth 5 columns.length)

/-- The class that a row stands for, if its columns are of the kinds with which they were made. -/
def queryClass? (r : ClassRow) : Option QueryClass :=
  match r.space, r.learn, r.usePrediction, r.autoTune, r.collectStat with
  | .int space, .bool learn, .bool usePrediction, .bool autoTune, .bool collectStat =>
    some ⟨r.queryHash, space, usePrediction, learn, autoTune, collectStat⟩
  | _, _, _, _, _ => none

/-- The row as an object with the fields of a class. -/
def toJson (r : ClassRow) : Json := .object [
  ("query_hash", .int r.queryHash), ("fspace_hash", r.space),
  ("use_prediction", r.usePrediction), ("learn", r.learn), ("auto_tune", r.autoTune),
  ("collect_stat", r.collectStat)]

end ClassRow

/-- A sample as a row of the server gives it. -/
structure SampleRow where
  target : Json
  count : Json
  deriving DecidableEq, Repr

namespace SampleRow

/-- The sample that the columns of a row give. -/
def ofColumns : List Json → Except Fault SampleRow
  | [target, count] => .ok ⟨target, count⟩
  | columns => .error (.rowWidth 2 columns.length)

/-- The sample that a row stands for, if its columns are of the kinds with which they were made. -/
def sample? (r : SampleRow) : Option Sample :=
  match (Value.ofJson r.target).toFloat?, r.count with
  | some target, .int count => some ⟨target, count⟩
  | _, _ => none

end SampleRow

/-- The row of the stored class with a hash. -/
def findClass (queryHash : Int) : Action (Option ClassRow) := do
  let rows ← query ("SELECT fspace_hash, learn, use_prediction, auto_tune, collect_stat FROM " ++
    classRelation ++ " WHERE query_hash = %s") [.int queryHash]
  match rows with
  | [] => return none
  | row :: _ => some <$> ofResult (ClassRow.ofColumns queryHash row)

/-- Stores a class in the place of the one with its hash. -/
def upsertClass (c : QueryClass) : Action Unit := do
  log [.text "Storing query class", .queryClass c]
  let _ ← query ("INSERT INTO " ++ classRelation ++ " (query_hash, fspace_hash, learn, " ++
    "use_prediction, auto_tune, collect_stat) VALUES (%s, %s, %s, %s, %s, %s) ON CONFLICT " ++
    "(query_hash) DO UPDATE SET fspace_hash = EXCLUDED.fspace_hash, learn = EXCLUDED.learn, " ++
    "use_prediction = EXCLUDED.use_prediction, auto_tune = EXCLUDED.auto_tune, " ++
    "collect_stat = EXCLUDED.collect_stat")
    [.int c.queryHash, .int c.spaceHash, .bool c.learn, .bool c.usePrediction, .bool c.autoTune,
      .bool c.collectStat]

/-- Stores the text of a query, unless one is stored already. -/
def recordText (queryHash : Int) (text : String) : Action Unit := do
  let _ ← query ("INSERT INTO " ++ textRelation ++ " (query_hash, query_text) VALUES (%s, %s) " ++
    "ON CONFLICT (query_hash) DO NOTHING") [.int queryHash, .text text]

/-- The row of the sample of a feature space with a key. -/
def loadSample (space key : Int) : Action (Option SampleRow) := do
  let rows ← query ("SELECT target, sample_count FROM " ++ sampleRelation ++
    " WHERE fspace_hash = %s AND fss_hash = %s") [.int space, .int key]
  match rows with
  | [] => return none
  | row :: _ => some <$> ofResult (SampleRow.ofColumns row)

/-- Stores a sample in the place of the one with its key. -/
def storeSample (space key : Int) (target count : Value) : Action Unit := do
  let _ ← query ("INSERT INTO " ++ sampleRelation ++ " (fspace_hash, fss_hash, target, " ++
    "sample_count) VALUES (%s, %s, %s, %s) ON CONFLICT (fspace_hash, fss_hash) DO UPDATE SET " ++
    "target = EXCLUDED.target, sample_count = EXCLUDED.sample_count")
    [.int space, .int key, target, count]

/-- Tries for the lock of a class once. -/
def tryLock (queryHash : Int) : Action Bool := do
  match ← execute "SELECT pg_try_advisory_lock(%s)" [.int queryHash] with
  | [] => throw .wrongKind
  | [granted] :: _ => return (Value.ofJson granted).holds
  | row :: _ => throw (.rowWidth 1 row.length)

/-- Tries for the lock of a class until it is granted or the deadline is reached. Every attempt
takes one of the coming replies; an attempt that gets none fails. -/
def poll (queryHash : Int) (deadline : Float) : (coming : List Reply) → Action Unit
  | [] => do
    let _ ← tryLock queryHash
    throw .wrongKind
  | _ :: rest => do
    if ← tryLock queryHash then pure ()
    else
      let link ← get
      if link.clock ≥ deadline then throw (.unavailable (.lockTimeout queryHash))
      else
        wait link.pollInterval.seconds
        poll queryHash deadline rest

/-- Takes the lock of a class, waiting for it at most so many seconds. -/
def acquire (queryHash : Int) (timeout : Float) : Action Unit := do
  let link ← get
  withCursor (poll queryHash (link.clock + timeout) link.replies)
  log [.text "Acquired class lock", .int queryHash]

/-- Gives the lock of a class back. -/
def release (queryHash : Int) : Action Unit := do
  let _ ← query "SELECT pg_advisory_unlock(%s)" [.int queryHash]

/-- Something done under the lock of a class. The lock is given back however that ends. If giving
it back fails, that is what the whole fails with. -/
def underLock {α : Type} (queryHash : Int) (timeout : Float) (body : Action α) : Action α := do
  acquire queryHash timeout
  let result ← attempt body
  release queryHash
  ofResult result

/-- Closes the connection. -/
def close : Action Unit := modify fun l => { l with isClosed := true }

/-- What was made of a row, if there is one. -/
def made {α β : Type} (make : α → Option β) : Option α → Action (Option β)
  | none => return none
  | some row => some <$> ofResult (ofKind (make row))

/-- The calls to the knowledge base. -/
def answer : (c : Knowledge.Call) → Action c.Reply
  | .isInstalled => isInstalled
  | .findClass queryHash => do made ClassRow.queryClass? (← findClass queryHash)
  | .upsertClass c => upsertClass c
  | .recordText queryHash text => recordText queryHash text
  | .loadSample space key => do made SampleRow.sample? (← loadSample space key)
  | .storeSample space key sample =>
    storeSample space key (.float sample.target) (.int sample.count)
  | .lockClass queryHash timeout => do acquire queryHash (← ofResult (ofKind timeout.toFloat?))
  | .unlockClass queryHash => release queryHash

end CardinalityAdvisor.Server
