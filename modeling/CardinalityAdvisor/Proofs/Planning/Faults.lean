import CardinalityAdvisor.Prediction.Estimator
import CardinalityAdvisor.Proofs.Knowledge.Outages
import CardinalityAdvisor.Proofs.Session.Faults

/-!
# How hooks fail

A hook hands on the faults of the host's own estimation and of a predictor of the host. It does not
hand on that the knowledge base is unavailable. Besides that, a clause may have no fingerprint, and
a sample may stand for more rows than there are numbers.

## Main definitions

* `Tells A P`: replies with the property `A` make hooks fail only with faults that have the property
  `P`

## Main results

* `failsWith_collect`: how the record of an intermediate result fails
* `sampleRows_of_exponential`: a sample of groups that fails fails as one of rows
-/

namespace CardinalityAdvisor

open CardinalityAdvisor.Action

/-- What is known about the replies says with which faults hooks fail because of them. -/
structure Tells (A : Asked → Prop) (P : Fault → Prop) : Prop where
  selectivity : ∀ restriction join fault, A ⟨.selectivity restriction join, .error fault⟩ → P fault
  native : ∀ name call fault, A ⟨.native name call, .error fault⟩ → P fault
  predict : ∀ name request fault, A ⟨.predict name request, .error fault⟩ → P fault
  /-- That the knowledge base is unavailable is not handed on. -/
  unavailable : ∀ space key fault, A ⟨.knowledge (.loadSample space key), .error fault⟩ →
    fault.IsUnavailable ∨ P fault
  sample : ∀ space key sample fault, A ⟨.knowledge (.loadSample space key), .ok (some sample)⟩ →
    sampleRows sample = .error fault → P fault

/-- Nothing is known about the replies, and nothing is said about the faults. -/
theorem tells_anything : Tells (fun _ => True) (fun _ => True) :=
  ⟨fun _ _ _ _ => trivial, fun _ _ _ _ => trivial, fun _ _ _ _ => trivial,
    fun _ _ _ _ => .inr trivial, fun _ _ _ _ _ _ => trivial⟩

variable {A : Asked → Prop} {P : Fault → Prop}

/-! ## Records -/

theorem fault_of_ofTree {α : Type} {r : TreeResult α}
    (h : ∀ cause, r = .error cause → P (.tree cause)) (fault : Fault)
    (failed : CardinalityAdvisor.ofTree r = .error fault) : P fault := by
  cases r with
  | ok value => cases failed
  | error cause =>
    cases failed
    exact h cause rfl

theorem failsWith_ofTree {α : Type} {r : TreeResult α}
    (h : ∀ cause, r = .error cause → P (.tree cause)) : FailsWith A P (Action.ofTree r) :=
  failsWith_ofResult (fault_of_ofTree h)

theorem failsWith_selectivityOf (tells : Tells A P) (key : SelectivityKey)
    (restriction : Restriction) (join : Option JoinType) :
    FailsWith A P (selectivityOf key restriction join) := by
  refine failsWith_get.bind fun s => ?_
  split
  · exact failsWith_pure _
  · refine failsWith_ask_bind fun reply answers => ?_
    refine FailsWith.bind (failsWith_ofResult ?_) fun _ => ?_
    · rintro fault rfl
      exact tells.selectivity _ _ _ answers
    · exact (failsWith_modify _).bind fun _ => failsWith_pure _

theorem failsWith_measure (tells : Tells A P) {e : Fingerprint.Equivalence} {scope : Int}
    {join : Option JoinType} {restrictions : List Restriction}
    (keys : ∀ r ∈ restrictions, ∀ cause,
      Fingerprint.clauseKey e (join.getD .inner) r.clause = .error cause → P (.tree cause)) :
    FailsWith A P (measure e scope join restrictions) := by
  induction restrictions with
  | nil => exact failsWith_pure _
  | cons r rest ih =>
    obtain ⟨first, later⟩ := List.forall_mem_cons.mp keys
    refine (failsWith_ofTree first).bind fun key => ?_
    refine (failsWith_selectivityOf tells _ _ _).bind fun _ => ?_
    exact (ih later).bind fun _ => failsWith_pure _

/-- **A record** fails as the host's selectivities do, or because clauses have no fingerprints. -/
theorem failsWith_collect (tells : Tells A P) {place : Place} {restrictions : List Restriction}
    (classes : ∀ cause, Fingerprint.Equivalence.ofClauses
      (restrictions.map (·.clause) ++ place.inputs.flatMap (·.clauses)) = .error cause →
      P (.tree cause))
    (keys : ∀ e, ∀ r ∈ restrictions, ∀ cause,
      Fingerprint.clauseKey e (place.join.getD .inner) r.clause = .error cause → P (.tree cause)) :
    FailsWith A P (collect place restrictions) :=
  (failsWith_ofTree classes).bind fun e =>
    (failsWith_measure tells (keys e)).bind fun _ => failsWith_pure _

/-- A sample with exactly one row stands for as many rows as groups. -/
theorem sampleRows_of_exponential {sample : Sample} {fault : Fault} (single : sample.count = 1)
    (failed : exponential sample.target = .error fault) : sampleRows sample = .error fault := by
  rw [sampleRows, if_neg (by omega), failed]
  rfl

end CardinalityAdvisor
