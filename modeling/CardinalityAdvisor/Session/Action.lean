import CardinalityAdvisor.Outside
import CardinalityAdvisor.Session.Basic

/-!
# Actions of a session

An action reads and changes the state of the session, asks the surroundings, and may fail. What it
changed before it failed stays changed.

## Main definitions

* `Action`: an action of a session
* `Action.ask`: the reply to a request
* `Action.withLock`: an action under the lock of a class
-/

namespace CardinalityAdvisor

/-- An action of a session. -/
abbrev Action := ExceptT Fault (StateT Session (Program Request.Reply))

namespace Action

variable {α : Type}

/-- The reply to a request. -/
def ask (request : Request) : Action (Request.Reply request) :=
  ExceptT.lift (StateT.lift (Program.request request))

/-- The value read from a tree, or the fault of the tree. -/
def ofTree (r : TreeResult α) : Action α := ofResult (CardinalityAdvisor.ofTree r)

/-- The result of a call to the knowledge base. -/
def knowledge (call : Knowledge.Call) : Action (Except Fault call.Reply) := ask (.knowledge call)

/-- A line of a component's log, if the component logs. -/
def logIf (enabled : Bool) (component : String) (entries : List Value) : Action Unit :=
  if enabled then ask (.log component entries) else pure ()

/-- An action under the lock of a class. The lock is given back however the action ends. If that
fails, it is what the whole fails with. -/
def withLock (queryHash : Int) (timeout : Value) (action : Action α) : Action α := do
  ofResult (← knowledge (.lockClass queryHash timeout))
  let result ← attempt action
  ofResult (← knowledge (.unlockClass queryHash))
  ofResult result

end Action

end CardinalityAdvisor
