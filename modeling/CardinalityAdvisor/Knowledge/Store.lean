import CardinalityAdvisor.Association
import CardinalityAdvisor.Knowledge.Call
import CardinalityAdvisor.Knowledge.Timeout

/-!
# A knowledge base in memory

## Main definitions

* `Store`: classes, texts, samples and the locks that are held
* `Store.answer`: the reply to a call, and the store after it
-/

namespace CardinalityAdvisor.Knowledge

/-- A knowledge base in memory. -/
structure Store where
  /-- Whether it presents itself as set up. Else nothing can be stored or found. -/
  installed : Bool := true
  /-- The classes by their hashes. -/
  classes : List (Int × QueryClass) := []
  /-- The text of one query of each class. -/
  texts : List (Int × String) := []
  /-- The samples by their feature spaces and keys. -/
  samples : List ((Int × Int) × Sample) := []
  /-- The classes whose locks are held. -/
  locked : List Int := []
  deriving Repr

namespace Store

/-- The store after a class was put into it. -/
def putClass (s : Store) (c : QueryClass) : Store :=
  { s with classes := put c.queryHash c s.classes }

/-- The store after the text of a query was recorded. A text that is there already stays. -/
def recordText (s : Store) (queryHash : Int) (text : String) : Store :=
  if (s.texts.lookup queryHash).isSome then s
  else { s with texts := put queryHash text s.texts }

/-- The store after a sample was put into it. -/
def putSample (s : Store) (space key : Int) (sample : Sample) : Store :=
  { s with samples := put (space, key) sample s.samples }

/-- The store after the lock of a class was taken. A timeout is checked even if nobody holds the
lock. -/
def lockClass (s : Store) (queryHash : Int) (timeout : Value) : Except Fault Store := do
  checkTimeout timeout
  if s.locked.contains queryHash then .error (.unavailable (.lockHeld queryHash))
  else .ok { s with locked := queryHash :: s.locked }

/-- The store after the lock of a class was given back. -/
def unlockClass (s : Store) (queryHash : Int) : Store :=
  { s with locked := s.locked.erase queryHash }

/-- The reply of a store that is set up, and the store after the call. -/
def reply (s : Store) : (c : Call) → Except Fault c.Reply × Store
  | .isInstalled => (.ok s.installed, s)
  | .findClass queryHash => (.ok (s.classes.lookup queryHash), s)
  | .upsertClass c => (.ok (), s.putClass c)
  | .recordText queryHash text => (.ok (), s.recordText queryHash text)
  | .loadSample space key => (.ok (s.samples.lookup (space, key)), s)
  | .storeSample space key sample => (.ok (), s.putSample space key sample)
  | .lockClass queryHash timeout =>
    match s.lockClass queryHash timeout with
    | .ok s' => (.ok (), s')
    | .error fault => (.error fault, s)
  | .unlockClass queryHash => (.ok (), s.unlockClass queryHash)

/-- Whether a call is refused as long as the store is not set up. -/
def needsInstallation : Call → Bool
  | .isInstalled | .lockClass _ _ | .unlockClass _ => false
  | _ => true

/-- The reply to a call, and the store after it. -/
def answer (s : Store) (c : Call) : Except Fault c.Reply × Store :=
  if needsInstallation c && !s.installed then (.error (.unavailable .notInstalled), s)
  else s.reply c

/-- The store as an object. -/
def describe (s : Store) : Value := .object [
  ("name", .text "in-memory"), ("classes", .int s.classes.length),
  ("samples", .int s.samples.length)]

/-- The name of the kind of the knowledge base. -/
def kindName : String := "InMemoryKnowledgeBase"

end Store

end CardinalityAdvisor.Knowledge
