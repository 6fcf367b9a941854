import CardinalityAdvisor.Policy.Mode

/-!
# Query classes, their flags and their samples

All queries that differ only in their constants belong to one class. A class has flags that say
what is learned from its queries and whether their cardinalities are predicted, and it names the
feature space that holds its samples: a space of its own or the one that is shared.

For a class that is not stored, the mode alone gives the flags:

    mode         learn  use  space   tune  collect  stored
    intelligent  yes    no   own     yes   yes      yes
    forced       yes    yes  shared  no    no       no
    learn        yes    yes  own     no    yes      yes
    others       no     no   own     no    no       no

A stored class keeps its flags, except that in frozen mode nothing is learned, tuned or collected
and that in learn mode statistics are collected and the space is the class's own.

## Main definitions

* `QueryClass`: a stored class
* `Sample`: the learned target of an intermediate result
* `ClassFlags`: the flags of a class under a mode
* `ClassFlags.ofNew`, `ClassFlags.ofStored`: the two tables
* `QueryClass.idle`: whether a stored class needs nothing of the machinery

## Main results

* `ClassFlags.ofNew_space`: a new class has its own space or, in forced mode, the shared one
-/

namespace CardinalityAdvisor

/-- The feature space that the classes of forced mode share. -/
def sharedSpace : Int := 0

/-- The stored record of the queries that share a fingerprint. -/
structure QueryClass where
  queryHash : Int
  /-- The feature space whose samples the class uses. -/
  spaceHash : Int
  /-- Whether predictions replace native estimates. -/
  usePrediction : Bool
  /-- Whether execution feedback is learned. -/
  learn : Bool
  /-- Whether the flags may be tuned. -/
  autoTune : Bool
  /-- Whether execution statistics are collected. -/
  collectStat : Bool
  deriving DecidableEq, Repr

/-- A stored sample of a feature space. -/
structure Sample where
  /-- The logarithm of the learned cardinality. -/
  target : Float
  /-- The number of rows that the sample consists of. -/
  count : Int := 1
  deriving DecidableEq, Repr

/-- The flags of a class under a mode. -/
structure ClassFlags where
  learn : Bool
  usePrediction : Bool
  spaceHash : Int
  autoTune : Bool
  collectStat : Bool
  /-- Whether a new class is to be stored. -/
  persist : Bool
  deriving DecidableEq, Repr

namespace ClassFlags

/-- The flags of a class that is not stored. -/
def ofNew (queryHash : Int) : Mode → ClassFlags
  | .intelligent => ⟨true, false, queryHash, true, true, true⟩
  | .forced => ⟨true, true, sharedSpace, false, false, false⟩
  | .learn => ⟨true, true, queryHash, false, true, true⟩
  | .controlled | .frozen | .disabled => ⟨false, false, queryHash, false, false, false⟩

/-- The flags of a stored class. -/
def ofStored (c : QueryClass) : Mode → ClassFlags
  | .frozen => ⟨false, c.usePrediction, c.spaceHash, false, false, false⟩
  | .learn => ⟨c.learn, c.usePrediction, c.queryHash, c.autoTune, true, false⟩
  | .intelligent | .forced | .controlled | .disabled =>
    ⟨c.learn, c.usePrediction, c.spaceHash, c.autoTune, c.collectStat, false⟩

/-- A new class has its own space or, in forced mode, the shared one. -/
theorem ofNew_space (queryHash : Int) (m : Mode) :
    (ofNew queryHash m).spaceHash = if m = .forced then sharedSpace else queryHash := by
  cases m <;> rfl

end ClassFlags

/-- Whether a stored class needs nothing of the machinery, by its flags as they are stored. -/
def QueryClass.idle (c : QueryClass) (forceCollect : Bool) : Bool :=
  !(c.learn || c.usePrediction || c.autoTune || forceCollect)

end CardinalityAdvisor
