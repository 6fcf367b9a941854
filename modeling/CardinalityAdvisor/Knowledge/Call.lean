import CardinalityAdvisor.Fault
import CardinalityAdvisor.Policy.QueryClass
import CardinalityAdvisor.Value.Basic

/-!
# The calls that a knowledge base answers

A knowledge base keeps query classes, the text of one query of each class, and samples. Each class
has a lock, which guards the registration of the class.

## Main definitions

* `Call`: the calls
* `Call.Reply`: what a call gives if it does not fail
-/

namespace CardinalityAdvisor.Knowledge

/-- The calls that a knowledge base answers. -/
inductive Call where
  /-- Whether the knowledge base has been set up. -/
  | isInstalled
  /-- The stored class with a hash. -/
  | findClass (queryHash : Int)
  /-- Stores a class in the place of the one with its hash. -/
  | upsertClass (queryClass : QueryClass)
  /-- Stores the text of a query of a class, unless one is stored already. -/
  | recordText (queryHash : Int) (text : String)
  /-- The sample of a feature space with a key. -/
  | loadSample (space key : Int)
  /-- Stores a sample in the place of the one with its key. -/
  | storeSample (space key : Int) (sample : Sample)
  /-- Takes the lock of a class, waiting for it at most so many seconds. -/
  | lockClass (queryHash : Int) (timeout : Value)
  /-- Gives the lock of a class back. -/
  | unlockClass (queryHash : Int)
  deriving Repr

namespace Call

/-- What a call gives if it does not fail. -/
abbrev Reply : Call → Type
  | .isInstalled => Bool
  | .findClass _ => Option QueryClass
  | .loadSample _ _ => Option Sample
  | .upsertClass _ | .recordText _ _ | .storeSample _ _ _ | .lockClass _ _ | .unlockClass _ => Unit

end Call

end CardinalityAdvisor.Knowledge
