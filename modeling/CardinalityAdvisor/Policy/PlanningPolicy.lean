import CardinalityAdvisor.Policy.QueryClass

/-!
# The policy of a planning call

Every planning call runs under a policy, which the classification of its query creates and which
all cardinality hooks of the call consult. A policy without any flag is disabled.

## Main definitions

* `PlanningPolicy`: the policy of a planning call
* `PlanningPolicy.disabled`: the policy that turns everything off
* `PlanningPolicy.disable`: a policy with all flags turned off; the hashes stay
* `PlanningPolicy.underMode`: the policy that a mode gives to a class
* `PlanningPolicy.queryClass`: the part of a policy that is stored

## Main results

* `PlanningPolicy.isDisabled_disable`: a policy whose flags were turned off is disabled
-/

namespace CardinalityAdvisor

/-- The policy of a planning call. -/
structure PlanningPolicy where
  queryHash : Int := 0
  spaceHash : Int := 0
  usePrediction : Bool := false
  learn : Bool := false
  autoTune : Bool := false
  collectStat : Bool := false
  /-- Whether the class of the query is new and to be stored. -/
  isNewClass : Bool := false
  /-- Whether the query is explained and not executed. -/
  explainOnly : Bool := false
  /-- When planning started, if times are kept. -/
  start : Option Float := none
  /-- How long planning took, negative as long as that is not known. -/
  planningTime : Float := -1
  deriving DecidableEq, Repr

namespace PlanningPolicy

/-- The policy that turns everything off for the queries of a class. -/
def disabled (queryHash : Int) : PlanningPolicy :=
  { queryHash := queryHash, spaceHash := queryHash }

/-- Whether no flag is set. To be explained involves no learning and no prediction. -/
def isDisabled (p : PlanningPolicy) : Bool :=
  !(p.usePrediction || p.learn || p.autoTune || p.collectStat || p.isNewClass)

/-- A policy with all flags turned off. -/
def disable (p : PlanningPolicy) : PlanningPolicy :=
  { queryHash := p.queryHash, spaceHash := p.spaceHash }

/-- The part of a policy that is stored. -/
def queryClass (p : PlanningPolicy) : QueryClass :=
  ⟨p.queryHash, p.spaceHash, p.usePrediction, p.learn, p.autoTune, p.collectStat⟩

/-- A policy that follows the flags of its class. -/
def withFlags (p : PlanningPolicy) (flags : ClassFlags) : PlanningPolicy :=
  { p with
    learn := flags.learn
    usePrediction := flags.usePrediction
    spaceHash := flags.spaceHash
    autoTune := flags.autoTune
    collectStat := flags.collectStat }

/-- The policy that a mode gives to a class that is stored or not. -/
def underMode (p : PlanningPolicy) (mode : Mode) : Option QueryClass → PlanningPolicy
  | none =>
    let flags := ClassFlags.ofNew p.queryHash mode
    { p.withFlags flags with isNewClass := flags.persist }
  | some stored => p.withFlags (.ofStored stored mode)

/-- A policy under which statistics are collected, in the space of the class itself. -/
def collecting (p : PlanningPolicy) : PlanningPolicy :=
  { p with collectStat := true, spaceHash := p.queryHash }

/-- A policy whose flags were turned off is disabled. -/
theorem isDisabled_disable (p : PlanningPolicy) : p.disable.isDisabled = true := rfl

theorem isDisabled_disabled (queryHash : Int) : (disabled queryHash).isDisabled = true := rfl

end PlanningPolicy

end CardinalityAdvisor
