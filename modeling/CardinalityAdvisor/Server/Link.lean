import CardinalityAdvisor.Fault
import CardinalityAdvisor.Value.Text

/-!
# The connection to a server

Statements are sent to a server one after the other. The server's replies are given beforehand, and
time passes while it answers and while somebody waits.

## Main definitions

* `Reply`: what the server answers to a statement
* `Pause`: a time that can be waited for
* `Link`: the connection with the replies that are still to come
* `Action`: what is done over a connection
* `execute`: a statement sent to the server
* `withCursor`: something done with a cursor
* `query`: a statement with a cursor of its own
* `relationExists`: the server's answer whether there is a relation
-/

namespace CardinalityAdvisor.Server

/-- What the server answers to a statement, and how many seconds it takes. -/
inductive Reply where
  /-- The rows of the answer. -/
  | rows (rows : List (List Json)) (seconds : Float)
  /-- The statement fails, or its answer cannot be fetched. -/
  | failure (report : String) (seconds : Float)
  /-- The connection does not take a statement at all. -/
  | noStatement (report : String)
  deriving DecidableEq, Repr

/-- What happens on a connection, as it is listed afterwards. -/
inductive Event where
  | connect (parameters applicationName : String)
  | statement (text : String) (arguments : List Value)
  | wait (seconds : Float)
  /-- Something was done under the lock of a class. -/
  | inside
  deriving Repr

/-- A time that can be waited for: it is not negative, and a whole number of 64 bits holds its
nanoseconds. -/
structure Pause where
  seconds : Float
  nonneg : 0 ≤ seconds
  fits : seconds * 1000000000 < 9223372036854775808

/-- A hundredth of a second. -/
def Pause.brief : Pause where
  seconds := 0.01
  nonneg := by decide +kernel
  fits := by decide +kernel

/-- A connection. Its lists of events, lines and warnings begin with the last one. -/
structure Link where
  /-- The replies to the next statements; later statements get no rows. -/
  replies : List Reply := []
  /-- The relations that the server has; nothing if it cannot say. -/
  relations : Option (List String) := some []
  clock : Float := 0
  /-- Whether the relations of the knowledge base are known to be there. -/
  installed : Bool := false
  /-- How long is waited between two attempts to get a lock. -/
  pollInterval : Pause := .brief
  /-- Whether what is done is logged. -/
  verbose : Bool := false
  isClosed : Bool := false
  events : List Event := []
  lines : List (List Value) := []
  warnings : List String := []

/-- What is done over a connection. -/
abbrev Action := ExceptT Fault (StateM Link)

/-- Lists what happens. -/
def note (event : Event) : Action Unit := modify fun l => { l with events := event :: l.events }

/-- Logs what is done, if that is wanted. -/
def log (entries : List Value) : Action Unit :=
  modify fun l => if l.verbose then { l with lines := entries :: l.lines } else l

/-- The server reported a failure. -/
def failed {α : Type} (report : String) : Action α := throw (.connectionRefused report)

/-- Waits for some seconds. -/
def wait (seconds : Float) : Action Unit := do
  note (.wait seconds)
  modify fun l => { l with clock := l.clock + seconds }

/-- Sends a statement to the server and gives the rows that it answers. -/
def execute (text : String) (arguments : List Value) : Action (List (List Json)) := do
  let link ← get
  match link.replies with
  | [] =>
    note (.statement text arguments)
    return []
  | .rows rows seconds :: rest =>
    set { link with replies := rest, clock := link.clock + seconds }
    note (.statement text arguments)
    return rows
  | .failure report seconds :: rest =>
    set { link with replies := rest, clock := link.clock + seconds }
    note (.statement text arguments)
    failed report
  | .noStatement report :: rest =>
    set { link with replies := rest }
    failed report

/-- Something done with a cursor. If the server reports a failure there, it cannot be used. -/
def withCursor {α : Type} (body : Action α) : Action α := do
  match ← attempt body with
  | .error (.connectionRefused report) => throw (.unavailable (.server report))
  | result => ofResult result

/-- Sends a statement with a cursor of its own. -/
def query (text : String) (arguments : List Value) : Action (List (List Json)) :=
  withCursor (execute text arguments)

/-- Whether the server has a relation. -/
def relationExists (name : String) : Action Bool := do
  match (← get).relations with
  | some names => return names.contains name
  | none => failed "server failed"

end CardinalityAdvisor.Server
