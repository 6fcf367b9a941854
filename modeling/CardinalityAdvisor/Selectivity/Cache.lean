import CardinalityAdvisor.Association

/-!
# Remembered selectivities

The selectivities of clauses are remembered while a query is planned, so that the host is asked
only once for each. They are told apart by the fingerprint of the clause and by the relation for
which it is estimated. Fingerprints do not tell constants apart, so everything is forgotten before
the next query is planned.

## Main definitions

* `clamp`: a number moved into the unit interval
* `SelectivityCache`: what is remembered, and how often the host was asked
* `SelectivityCache.find?`, `SelectivityCache.remember`, `SelectivityCache.clear`

## Main results

* `SelectivityCache.find?_remember`: what is remembered after the host answered
-/

namespace CardinalityAdvisor

/-- The larger of two numbers, the first one unless the second is larger. -/
def larger (x y : Float) : Float := if y > x then y else x

/-- The smaller of two numbers, the first one unless the second is smaller. -/
def smaller (x y : Float) : Float := if y < x then y else x

/-- A number moved into the unit interval; NaN stays what it is. -/
def clamp (x : Float) : Float := smaller (larger x 0) 1

/-- The fingerprint of a clause and the index of the relation for which it is estimated, zero if
there is no such relation. -/
structure SelectivityKey where
  fingerprint : Int
  scope : Int
  deriving DecidableEq, Repr

/-- The remembered selectivities, and how often the host was asked since they were cleared. -/
structure SelectivityCache where
  entries : List (SelectivityKey × Float) := []
  misses : Nat := 0
  deriving Repr

namespace SelectivityCache

/-- The remembered selectivity. -/
def find? (c : SelectivityCache) (key : SelectivityKey) : Option Float := c.entries.lookup key

/-- The cache after the host answered. -/
def remember (c : SelectivityCache) (key : SelectivityKey) (answer : Float) : SelectivityCache :=
  { entries := put key (clamp answer) c.entries, misses := c.misses + 1 }

/-- What is remembered after the host answered: its answer moved into the unit interval. -/
theorem find?_remember (c : SelectivityCache) (key other : SelectivityKey) (answer : Float) :
    (c.remember key answer).find? other =
      if other = key then some (clamp answer) else c.find? other :=
  lookup_put key other (clamp answer) c.entries

/-- Nothing is remembered. -/
def clear : SelectivityCache := {}

/-- The number of entries in words. -/
def summary (c : SelectivityCache) : String :=
  "SelectivityCache(" ++ toString c.entries.length ++ " entries)"

end SelectivityCache

end CardinalityAdvisor
