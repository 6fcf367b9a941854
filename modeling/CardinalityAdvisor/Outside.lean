import CardinalityAdvisor.Knowledge.Call
import CardinalityAdvisor.ParseTree.Source
import CardinalityAdvisor.Planner.JoinType
import CardinalityAdvisor.Prediction.Basic
import CardinalityAdvisor.Program

/-!
# The surroundings of a session

## Main definitions

* `NativeCall`: the five places at which a planner estimates cardinalities
* `Request`: what a session asks its surroundings
* `Request.Reply`: what it gets
-/

namespace CardinalityAdvisor

/-- An estimate that is asked of the host's own estimation, with all that the host needs for it. -/
inductive NativeCall where
  /-- The rows of a base relation. -/
  | baseRows (relation : Relation)
  /-- The rows of a base relation that is filtered by further clauses. -/
  | filteredBaseRows (relation : Relation) (clauses : List Restriction)
  /-- The rows of a join of two relations. -/
  | joinRows (relation outer inner : Relation) (join : JoinType) (clauses : List Restriction)
  /-- The rows of a join of two paths that is filtered by further clauses. -/
  | filteredJoinRows (relation : Relation) (outer inner : Path) (join : JoinType)
      (clauses : List Restriction)
  /-- The number of groups on top of a path. -/
  | groups (exprs : List Json) (input : Path) (relation : Relation) (sets : Option (List Json))
      (flags : Option Int)
  deriving Repr

/-- What a session asks its surroundings. -/
inductive Request where
  /-- The parser's answer to a text. -/
  | parse (text : String)
  /-- The time in seconds. -/
  | now
  /-- A line for the log of a component. -/
  | log (component : String) (entries : List Value)
  /-- A warning for whoever operates the host. -/
  | warn (text : String)
  /-- The host's estimate of the selectivity of a clause. -/
  | selectivity (restriction : Restriction) (join : Option JoinType)
  /-- The prediction of a predictor of the host. -/
  | predict (predictor : String) (request : PredictionRequest)
  /-- An estimate of one of the host's own estimators. -/
  | native (estimator : String) (call : NativeCall)
  /-- A call to the knowledge base. -/
  | knowledge (call : Knowledge.Call)
  /-- The names of the relations that the knowledge base itself uses. -/
  | knowledgeRelations
  deriving Repr

namespace Request

/-- What a session gets for a request. -/
abbrev Reply : Request → Type
  | .parse _ => ParseReply
  | .now => Float
  | .log _ _ | .warn _ => Unit
  | .selectivity _ _ | .native _ _ => Except Fault Float
  | .predict _ _ => Except Fault Prediction
  | .knowledge call => Except Fault call.Reply
  | .knowledgeRelations => List String

end Request

end CardinalityAdvisor
