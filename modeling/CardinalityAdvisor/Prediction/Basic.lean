import CardinalityAdvisor.Planner.ClauseRecord
import CardinalityAdvisor.Planner.Memory

/-!
# Predictions

A predictor is told all about an intermediate result and answers with a cardinality or refuses.

## Main definitions

* `PredictionRequest`: what a predictor is told
* `Prediction`: a cardinality, or a refusal
* `Predictor`: who predicts
-/

namespace CardinalityAdvisor

/-- What a predictor is told about an intermediate result. -/
structure PredictionRequest where
  record : ClauseRecord
  /-- The feature space of the class of the query. -/
  space : Int
  /-- The key of the sample that describes the result. -/
  sampleKey : Int
  deriving DecidableEq, Repr

/-- A cardinality with the key of its sample. A cardinality below zero is a refusal. -/
structure Prediction where
  rows : Float
  sampleKey : Int
  deriving DecidableEq, Repr

namespace Prediction

/-- The refusal to predict. -/
def refused (sampleKey : Int) : Prediction := ⟨noPrediction, sampleKey⟩

/-- Whether the predictor refused. -/
def isRefusal (p : Prediction) : Bool := p.rows < 0

/-- The mark that a prediction leaves. -/
def mark (p : Prediction) : Mark := ⟨p.rows, p.sampleKey⟩

end Prediction

/-- Who predicts the cardinalities of relations and joins. -/
inductive Predictor where
  /-- The samples that are stored under exactly the requested key. -/
  | stored
  /-- A predictor of the host, by its name. -/
  | external (name : String)
  deriving DecidableEq, Repr

end CardinalityAdvisor
