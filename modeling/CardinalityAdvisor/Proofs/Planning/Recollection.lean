import CardinalityAdvisor.Proofs.Fingerprint.Classes
import CardinalityAdvisor.Proofs.Planning.Faults
import CardinalityAdvisor.Proofs.Planning.Records
import CardinalityAdvisor.Proofs.Session.Within
import Mathlib.Data.List.Forall2

/-!
# Records that are made again

Hooks that stand in front of each other each make the record of the same intermediate result. The
first one looks up the selectivities of its clauses, and after that they are remembered. So the
others make the same record without asking the host for anything.

## Main definitions

* `Asked.Answers x`: a reply is no failure that the host, a predictor or a sample could raise
* `SameButRemembered s s'`: more selectivities may be remembered, all else is the same
* `Collected cache place restrictions record`: everything that a record is made of is remembered

## Main results

* `collected_of_runs`: everything that a record was made of is remembered from then on
* `Collected.runs`: then the same record is made without asking for anything
* `neverFails_collect`: a record of clauses with fingerprints is always made
-/

namespace CardinalityAdvisor

open CardinalityAdvisor.Action

variable {s s' : Session} {t : List Asked}

/-! ## Replies that are no failures -/

/-- A reply is no failure that the host, a predictor or a stored sample could raise. The knowledge
base may be unavailable. -/
def Asked.Answers : Asked → Prop
  | ⟨.selectivity _ _, reply⟩ | ⟨.native _ _, reply⟩ => ∃ rows, reply = .ok rows
  | ⟨.predict _ _, reply⟩ => ∃ prediction, reply = .ok prediction
  | ⟨.knowledge (.loadSample _ _), reply⟩ =>
    (∃ cause, reply = .error (.unavailable cause)) ∨ reply = .ok none ∨
      ∃ sample, reply = .ok (some sample) ∧ ∃ rows, sampleRows sample = .ok rows
  | _ => True

/-- An action never fails as long as the replies are no failures. -/
abbrev NeverFails {α : Type} (action : Action α) : Prop :=
  FailsWith Asked.Answers (fun _ => False) action

theorem Asked.answers_tells : Tells Asked.Answers (fun _ => False) where
  selectivity _ _ _ := by
    rintro ⟨_, ⟨⟩⟩
  native _ _ _ := by
    rintro ⟨_, ⟨⟩⟩
  predict _ _ _ := by
    rintro ⟨_, ⟨⟩⟩
  unavailable _ _ _ := by
    rintro (⟨cause, ⟨⟩⟩ | ⟨⟨⟩⟩ | ⟨_, ⟨⟩, -⟩)
    exact .inl ⟨cause, rfl⟩
  sample _ _ _ _ := by
    rintro (⟨_, ⟨⟩⟩ | ⟨⟨⟩⟩ | ⟨_, ⟨⟩, rows, same⟩) failed
    rw [same] at failed
    cases failed

/-- Whether a request asks for the selectivity of a clause. -/
def Request.IsSelectivity (request : Request) : Prop :=
  ∃ restriction join, request = .selectivity restriction join

/-! ## Remembered selectivities -/

/-- Whatever is remembered in one cache is remembered in the other one. -/
def SelectivityCache.Extends (c c' : SelectivityCache) : Prop :=
  ∀ key value, c.find? key = some value → c'.find? key = some value

/-- More selectivities may be remembered; all else is the same. -/
structure SameButRemembered (s s' : Session) : Prop where
  same : s' = { s with cache := s'.cache }
  more : s.cache.Extends s'.cache

theorem SameButRemembered.memory (h : SameButRemembered s s') : s'.memory = s.memory := by
  rw [h.same]

theorem SameButRemembered.current (h : SameButRemembered s s') : s'.current = s.current := by
  rw [h.same]
  rfl

instance : Std.Refl SameButRemembered := ⟨fun _ => ⟨rfl, fun _ _ found => found⟩⟩

instance : IsTrans Session SameButRemembered where
  trans s s₁ s' h h' := by
    refine ⟨?_, fun key value found => h'.more key value (h.more key value found)⟩
    rw [h'.same, h.same]

theorem runs_selectivityOf {key : SelectivityKey} {restriction : Restriction}
    {join : Option JoinType} {result : Except Fault Float}
    (run : Runs (selectivityOf key restriction join) s t result s') :
    SameButRemembered s s' ∧ ∀ value, result = .ok value → s'.cache.find? key = some value := by
  obtain ⟨answer, value, rfl, looks⟩ | ⟨fault, rfl, rfl⟩ := selectivityOf_looksUp run
  swap
  · exact ⟨refl_of _ _, by simp⟩
  cases looks with
  | cons here looked done =>
    cases done
    refine ⟨?_, by rintro _ ⟨⟩; exact Lookup.found looked⟩
    obtain ⟨-, -, rfl⟩ | ⟨answer, -, unknown, -, rfl⟩ := Lookup.of_runs looked
    · exact refl_of _ _
    · refine ⟨rfl, fun other found known => ?_⟩
      show (s.cache.remember key answer).find? other = some found
      rw [SelectivityCache.find?_remember, if_neg, known]
      rintro rfl
      rw [unknown] at known
      cases known

/-- A remembered selectivity is given without asking for it. -/
theorem runs_selectivityOf_known {key : SelectivityKey} {restriction : Restriction}
    {join : Option JoinType} {value : Float} {result : Except Fault Float}
    (known : s.cache.find? key = some value)
    (run : Runs (selectivityOf key restriction join) s t result s') :
    t = [] ∧ result = .ok value ∧ s' = s := by
  rw [selectivityOf, runs_get_bind, known] at run
  exact runs_pure.mp run

theorem asks_selectivityOf (key : SelectivityKey) (restriction : Restriction)
    (join : Option JoinType) :
    Asks Request.IsSelectivity (selectivityOf key restriction join) := by
  refine asks_get.bind fun s => ?_
  split
  · exact asks_pure _
  · refine (asks_ask ⟨restriction, join, rfl⟩).bind fun reply => (asks_ofResult _).bind fun _ => ?_
    exact (asks_modify _).bind fun _ => asks_pure _

/-! ## Records of clauses -/

/-- The fingerprints of some restrictions, with selectivities that are remembered. -/
def Measured (cache : SelectivityCache) (e : Fingerprint.Equivalence) (scope : Int)
    (join : Option JoinType) (restrictions : List Restriction)
    (measured : List (Int × Float)) : Prop :=
  List.Forall₂ (fun r m => Fingerprint.clauseKey e (join.getD .inner) r.clause = .ok m.1 ∧
    cache.find? ⟨m.1, scope⟩ = some m.2) restrictions measured

section

variable {e : Fingerprint.Equivalence} {scope : Int} {join : Option JoinType}
  {restrictions : List Restriction}

theorem Measured.mono {cache cache' : SelectivityCache} {measured : List (Int × Float)}
    (h : Measured cache e scope join restrictions measured) (more : cache.Extends cache') :
    Measured cache' e scope join restrictions measured :=
  h.imp fun _ _ known => ⟨known.1, more _ _ known.2⟩

theorem within_measure : Within SameButRemembered (measure e scope join restrictions) := by
  have looked (key : SelectivityKey) (r : Restriction) :
      Within SameButRemembered (selectivityOf key r join) :=
    fun _ _ _ _ run => (runs_selectivityOf run).1
  induction restrictions with
  | nil => exact within_pure _
  | cons r rest ih =>
    refine (within_ofTree _).bind fun key => (looked _ r).bind fun value => ?_
    exact ih.bind fun _ => within_pure _

/-- What was measured is remembered. -/
theorem measured_of_runs {measured : List (Int × Float)}
    (run : Runs (measure e scope join restrictions) s t (.ok measured) s') :
    Measured s'.cache e scope join restrictions measured := by
  induction restrictions generalizing s t measured with
  | nil =>
    obtain ⟨-, same, -⟩ := runs_pure.mp run
    cases same
    exact .nil
  | cons r rest ih =>
    rw [measure] at run
    obtain ⟨key, fingerprint, run⟩ | ⟨_, -, -, failed, -⟩ := runs_ofTree_bind.mp run
    swap
    · cases failed
    obtain ⟨_, _, value, s₁, -, looked, run⟩ | ⟨_, failed, -⟩ := runs_bind.mp run
    swap
    · cases failed
    obtain ⟨_, _, others, s₂, -, more, run⟩ | ⟨_, failed, -⟩ := runs_bind.mp run
    swap
    · cases failed
    obtain ⟨-, same, rfl⟩ := runs_pure.mp run
    cases same
    have known := (runs_selectivityOf looked).2 value rfl
    exact .cons ⟨fingerprint, (within_measure more).more _ _ known⟩ (ih more)

/-- What is remembered is measured again without asking for it. -/
theorem Measured.runs {measured : List (Int × Float)} {result : Except Fault (List (Int × Float))}
    (h : Measured s.cache e scope join restrictions measured)
    (run : Runs (measure e scope join restrictions) s t result s') :
    t = [] ∧ result = .ok measured ∧ s' = s := by
  induction restrictions generalizing t result measured s' with
  | nil =>
    cases h
    exact runs_pure.mp run
  | cons r rest ih =>
    cases h with
    | @cons _ m _ ms known later =>
      rw [measure, known.1] at run
      obtain ⟨_, ⟨⟩, run⟩ | ⟨_, failed, -⟩ := runs_ofTree_bind.mp run
      swap
      · cases failed
      obtain ⟨_, _, value, s₁, rfl, looked, run⟩ | ⟨_, -, looked⟩ := runs_bind.mp run
      swap
      · cases (runs_selectivityOf_known known.2 looked).2.1
      obtain ⟨rfl, same, rfl⟩ := runs_selectivityOf_known known.2 looked
      cases same
      obtain ⟨_, _, others, s₂, rfl, more, run⟩ | ⟨_, -, more⟩ := runs_bind.mp run
      swap
      · cases (ih later more).2.1
      obtain ⟨rfl, same, rfl⟩ := ih later more
      cases same
      exact runs_pure.mp run

theorem asks_measure : Asks Request.IsSelectivity (measure e scope join restrictions) := by
  induction restrictions with
  | nil => exact asks_pure _
  | cons r rest ih =>
    refine (asks_ofTree _).bind fun key => (asks_selectivityOf _ r join).bind fun _ => ?_
    exact ih.bind fun _ => asks_pure _

end

/-- Everything that a record is made of is remembered. -/
def Collected (cache : SelectivityCache) (place : Place) (restrictions : List Restriction)
    (record : ClauseRecord) : Prop :=
  ∃ e measured,
    Fingerprint.Equivalence.ofClauses
      (restrictions.map (·.clause) ++ place.inputs.flatMap (·.clauses)) = .ok e ∧
    Measured cache e place.scope place.join restrictions measured ∧
    record = .concat ({
      clauses := restrictions.map (·.clause), fingerprints := measured.map (·.1)
      selectivities := measured.map (·.2), relationIds := place.relationIds } :: place.inputs)

section

variable {place : Place} {restrictions : List Restriction} {record : ClauseRecord}

theorem Collected.mono {cache cache' : SelectivityCache}
    (h : Collected cache place restrictions record) (more : cache.Extends cache') :
    Collected cache' place restrictions record := by
  obtain ⟨e, measured, classes, known, whole⟩ := h
  exact ⟨e, measured, classes, known.mono more, whole⟩

theorem remembers_collect : Within SameButRemembered (collect place restrictions) :=
  (within_ofTree _).bind fun _ => within_measure.bind fun _ => within_pure _

theorem asks_collect : Asks Request.IsSelectivity (collect place restrictions) :=
  (asks_ofTree _).bind fun _ => asks_measure.bind fun _ => asks_pure _

theorem collected_of_runs (run : Runs (collect place restrictions) s t (.ok record) s') :
    Collected s'.cache place restrictions record := by
  rw [collect] at run
  obtain ⟨e, classes, run⟩ | ⟨_, -, -, failed, -⟩ := runs_ofTree_bind.mp run
  swap
  · cases failed
  obtain ⟨_, _, measured, s₁, -, measuring, run⟩ | ⟨_, failed, -⟩ := runs_bind.mp run
  swap
  · cases failed
  obtain ⟨-, same, rfl⟩ := runs_pure.mp run
  cases same
  exact ⟨e, measured, classes, measured_of_runs measuring, rfl⟩

theorem Collected.runs {result : Except Fault ClauseRecord}
    (h : Collected s.cache place restrictions record)
    (run : Runs (collect place restrictions) s t result s') :
    t = [] ∧ result = .ok record ∧ s' = s := by
  obtain ⟨e, measured, classes, known, rfl⟩ := h
  rw [collect, classes] at run
  obtain ⟨_, ⟨⟩, run⟩ | ⟨_, failed, -⟩ := runs_ofTree_bind.mp run
  swap
  · cases failed
  obtain ⟨_, _, again, s₁, rfl, measuring, run⟩ | ⟨_, -, measuring⟩ := runs_bind.mp run
  swap
  · cases (known.runs measuring).2.1
  obtain ⟨rfl, same, rfl⟩ := known.runs measuring
  cases same
  exact runs_pure.mp run

theorem neverFails_collect (own : ∀ r ∈ restrictions, r.clause.Fingerprinted)
    (inputs : ∀ input ∈ place.inputs, ∀ clause ∈ input.clauses, clause.Fingerprinted) :
    NeverFails (collect place restrictions) := by
  have all : ∀ clause ∈ restrictions.map (·.clause) ++ place.inputs.flatMap (·.clauses),
      clause.Fingerprinted := by
    intro clause member
    rcases List.mem_append.mp member with member | member
    · obtain ⟨r, inside, rfl⟩ := List.mem_map.mp member
      exact own r inside
    · obtain ⟨input, inside, member⟩ := List.mem_flatMap.mp member
      exact inputs input inside clause member
  refine failsWith_collect Asked.answers_tells ?_ ?_
  · intro cause failed
    obtain ⟨e, classes⟩ := exists_ofClauses all
    rw [classes] at failed
    cases failed
  · intro e r member cause failed
    obtain ⟨key, fingerprint⟩ := (own r member).clauseKey e (place.join.getD .inner)
    rw [fingerprint] at failed
    cases failed

end

end CardinalityAdvisor
