import CardinalityAdvisor.Json.Basic
import CardinalityAdvisor.Planner.JoinType
import CardinalityAdvisor.Policy.PlanningPolicy

/-!
# Values that are shown, logged and exported

Settings, log entries and exports take any value that a host hands over: JSON data, sets, and the
library's own modes, classes, policies and samples. A value of a kind that is not known here can
be passed along, but not exported.

## Main definitions

* `Value`: a value
* `Value.ofJson`: JSON data as a value
* `Value.asInt?`: the integer that a value counts as
* `Value.kindName`: the name of a value's kind in messages
* `Value.record?`: the name and the fields of a record
-/

namespace CardinalityAdvisor

/-- A value that a host hands over. -/
inductive Value where
  | null
  | bool (value : Bool)
  | int (value : Int)
  | float (value : Float)
  | text (value : String)
  | list (items : List Value)
  | object (fields : List (String × Value))
  | set (members : List Value)
  | mode (value : Mode)
  | joinType (value : JoinType)
  | queryClass (value : QueryClass)
  | policy (value : PlanningPolicy)
  | sample (value : Sample)
  | foreign
  deriving Inhabited, Repr

namespace Value

mutual
/-- JSON data as a value. -/
def ofJson : Json → Value
  | .null => .null
  | .bool b => .bool b
  | .int i => .int i
  | .float x => .float x
  | .text s => .text s
  | .list items => .list (ofItems items)
  | .object fields => .object (ofFields fields)

/-- A list of JSON data as values. -/
def ofItems : List Json → List Value
  | [] => []
  | item :: rest => ofJson item :: ofItems rest

/-- Fields of a JSON object as fields of a value. -/
def ofFields : List (String × Json) → List (String × Value)
  | [] => []
  | (name, value) :: rest => (name, ofJson value) :: ofFields rest
end

/-- The integer that a value counts as: truth values count as one and zero. -/
def asInt? : Value → Option Int
  | .int i => some i
  | .bool b => some (if b then 1 else 0)
  | _ => none

/-- The name of a value's kind in messages. -/
def kindName : Value → String
  | .null => "NoneType"
  | .bool _ => "bool"
  | .int _ => "int"
  | .float _ => "float"
  | .text _ => "str"
  | .list _ => "list"
  | .object _ => "dict"
  | .set _ => "set"
  | .mode _ => "AqoMode"
  | .joinType _ => "JoinType"
  | .queryClass _ => "QueryClass"
  | .policy _ => "PlanningPolicyContext"
  | .sample _ => "Sample"
  | .foreign => "object"

/-- The fields of a query class in the order in which they are shown and exported. -/
def classFields (c : QueryClass) : List (String × Value) := [
  ("query_hash", .int c.queryHash), ("fspace_hash", .int c.spaceHash),
  ("use_prediction", .bool c.usePrediction), ("learn", .bool c.learn),
  ("auto_tune", .bool c.autoTune), ("collect_stat", .bool c.collectStat)]

/-- The fields of a policy that its planning call shares with its class, and its marks. -/
def policyFlags (p : PlanningPolicy) : List (String × Value) :=
  classFields p.queryClass ++
    [("is_new_class", .bool p.isNewClass), ("explain_only", .bool p.explainOnly)]

/-- The fields of a policy as they are exported. -/
def policyFields (p : PlanningPolicy) : List (String × Value) :=
  policyFlags p ++ [("planning_time", .float p.planningTime)]

/-- The fields of a sample. -/
def sampleFields (s : Sample) : List (String × Value) :=
  [("target", .float s.target), ("count", .int s.count)]

/-- The name and the fields of a record. -/
def record? : Value → Option (String × List (String × Value))
  | .queryClass c => some ("QueryClass", classFields c)
  | .policy p =>
    some ("PlanningPolicyContext",
      policyFlags p ++
        [("planning_start_time", (p.start.map Value.float).getD .null),
          ("planning_time", .float p.planningTime)])
  | .sample s => some ("Sample", sampleFields s)
  | _ => none

end Value

end CardinalityAdvisor
