/-!
# Join types

## Main definitions

* `JoinType`: the logical joins that a planner tells apart
* `JoinType.name`: the word for a join type, which is part of the fingerprint of its clauses

## Main results

* `JoinType.name_injective`: different join types have different words
-/

namespace CardinalityAdvisor

/-- The logical joins that a planner tells apart. -/
inductive JoinType where
  | inner
  | left
  | right
  | full
  | semi
  | anti
  deriving DecidableEq, Repr

namespace JoinType

/-- All join types. -/
def all : List JoinType := [.inner, .left, .right, .full, .semi, .anti]

/-- The word for a join type. -/
def name : JoinType → String
  | .inner => "inner"
  | .left => "left"
  | .right => "right"
  | .full => "full"
  | .semi => "semi"
  | .anti => "anti"

/-- The word with a capital letter in front. -/
def title (j : JoinType) : String := j.name.capitalize

/-- The join type that a word denotes. -/
def ofName? (word : String) : Option JoinType := all.find? fun j => j.name == word

/-- Different join types have different words. -/
theorem name_injective {a b : JoinType} (h : a.name = b.name) : a = b := by
  cases a <;> cases b <;> simp_all [name]

end JoinType

end CardinalityAdvisor
