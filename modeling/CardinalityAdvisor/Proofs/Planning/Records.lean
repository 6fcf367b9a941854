import CardinalityAdvisor.Proofs.Planning.Run

/-!
# The lookups behind a clause record

Under a policy that uses predictions, the record of an intermediate result holds a selectivity for
each of its own clauses. Each of them is looked up, in the order of the clauses, and nothing else
happens to what planning calls share.

## Main definitions

* `LooksUp s own s'`: some lookups, one after the other, lead from one session to another
* `Lookup.IsFor e scope join l`: under which key a clause is looked up

## Main results

* `measure_looksUp`, `collect_looksUp`: what is looked up for the clauses of a record
-/

namespace CardinalityAdvisor

variable {s s₁ s' : Session} {t : List Asked}

/-- Some lookups lead from one session to another, one after the other. -/
inductive LooksUp : Session → List Lookup → Session → Prop
  | nil (s : Session) : LooksUp s [] s
  | cons {s s₁ s' : Session} {l : Lookup} {rest : List Lookup} : l.calls = s.calls →
      Action.Runs (selectivityOf l.key l.restriction l.join) s l.asked (.ok l.value) s₁ →
      LooksUp s₁ rest s' → LooksUp s (l :: rest) s'

namespace LooksUp

variable {own : List Lookup}

theorem sameCalls (h : LooksUp s own s') : SameCalls s s' := by
  induction h with
  | nil => exact ⟨rfl, rfl, rfl⟩
  | cons _ run _ ih => exact (Lookup.sameCalls run).trans ih

/-- All lookups happen in the same planning calls. -/
theorem calls (h : LooksUp s own s') : ∀ l ∈ own, l.calls = s.calls := by
  induction h with
  | nil => simp
  | cons here run _ ih =>
    intro l inside
    rcases List.mem_cons.mp inside with rfl | inside
    · exact here
    · exact (ih l inside).trans (Lookup.sameCalls run).calls

/-- **Lookups are a run** in which they happen one after the other. -/
theorem run (h : LooksUp s own s') (predicts : Predicts s) (frames : List Frame) :
    Run ⟨s, frames⟩ (own.map .looked).reverse ⟨s', frames⟩ := by
  induction h with
  | nil => exact .start
  | cons here looked rest ih =>
    have first := Run.step .start (Step.looked (m := ⟨_, frames⟩) predicts here looked)
    rw [List.map_cons, List.reverse_cons]
    exact first.trans (ih ((Lookup.sameCalls looked).predicts predicts))

theorem planned (h : LooksUp s own s') (predicts : Predicts s) :
    PlannedBy Event.Classifies s s' := by
  refine fun frames => ⟨_, fun e inside => ?_, h.run predicts frames⟩
  obtain ⟨l, -, rfl⟩ := List.mem_map.mp (List.mem_reverse.mp inside)
  exact fun _ => Event.noConfusion

end LooksUp

/-- A selectivity is looked up, or the host fails to answer and nothing changes. -/
theorem selectivityOf_looksUp {key : SelectivityKey} {restriction : Restriction}
    {join : Option JoinType} {result : Except Fault Float}
    (run : Action.Runs (selectivityOf key restriction join) s t result s') :
    (∃ answer value, result = .ok value ∧
      LooksUp s [⟨s.calls, key, restriction, join, answer, value⟩] s') ∨
      ∃ fault, result = .error fault ∧ s' = s := by
  have whole := run
  rw [selectivityOf, Action.runs_get_bind] at run
  split at run
  · obtain ⟨rfl, rfl, rfl⟩ := Action.runs_pure.mp run
    exact .inl ⟨none, _, rfl, .cons rfl whole (.nil _)⟩
  · obtain ⟨reply, rest, rfl, answered⟩ := Action.runs_ask_bind.mp run
    obtain ⟨answer, rfl, kept⟩ | ⟨fault, -, -, rfl, rfl⟩ :=
      Action.runs_ofResult_bind.mp answered
    · rw [Action.runs_modify_bind] at kept
      obtain ⟨rfl, rfl, -⟩ := Action.runs_pure.mp kept
      exact .inl ⟨some answer, _, rfl, .cons rfl whole (.nil _)⟩
    · exact .inr ⟨fault, rfl, rfl⟩

/-- A clause is looked up under the fingerprint that it has among others, and for the relation and
the join for which it is estimated. -/
structure Lookup.IsFor (e : Fingerprint.Equivalence) (scope : Int) (join : Option JoinType)
    (l : Lookup) : Prop where
  fingerprint :
    Fingerprint.clauseKey e (join.getD .inner) l.restriction.clause = .ok l.key.fingerprint
  inScope : l.key.scope = scope
  atJoin : l.join = join

/-- The selectivities of restrictions are looked up in their order. If that fails, some of them have
been looked up. -/
theorem measure_looksUp {equivalence : Fingerprint.Equivalence} {scope : Int}
    {join : Option JoinType} {restrictions : List Restriction}
    {result : Except Fault (List (Int × Float))}
    (run : Action.Runs (measure equivalence scope join restrictions) s t result s') :
    ∃ own, LooksUp s own s' ∧ ∀ measured, result = .ok measured →
      own.map (·.restriction) = restrictions ∧
      own.map (fun l => (l.key.fingerprint, l.value)) = measured ∧
      ∀ l ∈ own, l.IsFor equivalence scope join := by
  induction restrictions generalizing s t result with
  | nil =>
    obtain ⟨-, rfl, rfl⟩ := Action.runs_pure.mp run
    refine ⟨[], .nil _, ?_⟩
    rintro measured ⟨⟩
    exact ⟨rfl, rfl, by simp⟩
  | cons restriction rest ih =>
    rw [measure] at run
    -- The fingerprint, this lookup or a later one may fail. Those before have happened even then.
    obtain ⟨fingerprint, keyed, run⟩ | ⟨fault, -, -, rfl, rfl⟩ := Action.runs_ofTree_bind.mp run
    swap
    · exact ⟨[], .nil _, by simp⟩
    obtain ⟨_, _, selectivity, s₁, -, looked, run⟩ | ⟨fault, rfl, failed⟩ :=
      Action.runs_bind.mp run
    swap
    · obtain ⟨_, _, same, -⟩ | ⟨_, -, rfl⟩ := selectivityOf_looksUp failed
      · cases same
      · exact ⟨[], .nil _, by simp⟩
    obtain ⟨answer, _, same, first⟩ | ⟨_, same, -⟩ := selectivityOf_looksUp looked
    swap
    · cases same
    cases same
    cases first with
    | cons here asked done =>
      cases done
      obtain ⟨_, _, others, _, -, more, run⟩ | ⟨fault, rfl, failed⟩ := Action.runs_bind.mp run
      · obtain ⟨-, rfl, rfl⟩ := Action.runs_pure.mp run
        obtain ⟨own, looks, all⟩ := ih more
        obtain ⟨restrictions, measured, places⟩ := all _ rfl
        refine ⟨_ :: own, .cons here asked looks, ?_⟩
        rintro _ ⟨⟩
        refine ⟨?_, ?_, ?_⟩
        · rw [List.map_cons, restrictions]
        · rw [List.map_cons, measured]
        · exact List.forall_mem_cons.mpr ⟨⟨keyed, rfl, rfl⟩, places⟩
      · obtain ⟨own, looks, -⟩ := ih failed
        exact ⟨_ :: own, .cons here asked looks, by simp⟩

namespace ClauseRecord

/-- Records that are put together hold all lists of their parts, one after the other. -/
theorem concat_eq_flatMap {α : Type} {part : ClauseRecord → List α} (empty : part {} = [])
    (append : ∀ a b, part (a ++ b) = part a ++ part b) (records : List ClauseRecord) :
    part (concat records) = records.flatMap part := by
  have fold (acc : ClauseRecord) :
      part (records.foldl (· ++ ·) acc) = part acc ++ records.flatMap part := by
    induction records generalizing acc with
    | nil => exact (List.append_nil _).symm
    | cons record rest ih =>
      rw [List.foldl_cons, ih, append, List.flatMap_cons, List.append_assoc]
  rw [concat, fold, empty, List.nil_append]

theorem concat_clauses (records : List ClauseRecord) :
    (concat records).clauses = records.flatMap (·.clauses) :=
  concat_eq_flatMap rfl (fun _ _ => rfl) records

theorem concat_fingerprints (records : List ClauseRecord) :
    (concat records).fingerprints = records.flatMap (·.fingerprints) :=
  concat_eq_flatMap rfl (fun _ _ => rfl) records

theorem concat_selectivities (records : List ClauseRecord) :
    (concat records).selectivities = records.flatMap (·.selectivities) :=
  concat_eq_flatMap rfl (fun _ _ => rfl) records

theorem concat_relationIds (records : List ClauseRecord) :
    (concat records).relationIds = records.flatMap (·.relationIds) :=
  concat_eq_flatMap rfl (fun _ _ => rfl) records

end ClauseRecord

/-- **The record of an intermediate result** holds the selectivities that were looked up for its
own clauses, and then those of the inputs as they are. -/
theorem collect_looksUp {place : Place} {restrictions : List Restriction}
    {result : Except Fault ClauseRecord}
    (run : Action.Runs (collect place restrictions) s t result s') :
    ∃ own, LooksUp s own s' ∧ ∀ record, result = .ok record →
      own.map (·.restriction) = restrictions ∧
      (∃ e, Fingerprint.Equivalence.ofClauses
          (restrictions.map (·.clause) ++ place.inputs.flatMap (·.clauses)) = .ok e ∧
        ∀ l ∈ own, l.IsFor e place.scope place.join) ∧
      record = .concat ({
        clauses := restrictions.map (·.clause)
        fingerprints := own.map (·.key.fingerprint)
        selectivities := own.map (·.value)
        relationIds := place.relationIds } :: place.inputs) := by
  rw [collect] at run
  obtain ⟨equivalence, classes, run⟩ | ⟨fault, -, -, rfl, rfl⟩ := Action.runs_ofTree_bind.mp run
  swap
  · exact ⟨[], .nil _, by simp⟩
  obtain ⟨_, _, measured, _, -, measuring, run⟩ | ⟨fault, rfl, failed⟩ := Action.runs_bind.mp run
  · obtain ⟨-, rfl, rfl⟩ := Action.runs_pure.mp run
    obtain ⟨own, looks, all⟩ := measure_looksUp measuring
    obtain ⟨restrictions, rfl, places⟩ := all _ rfl
    refine ⟨own, looks, ?_⟩
    rintro _ ⟨⟩
    refine ⟨restrictions, ⟨equivalence, classes, places⟩, ?_⟩
    rw [List.map_map, List.map_map]
    rfl
  · obtain ⟨own, looks, -⟩ := measure_looksUp failed
    exact ⟨own, looks, by simp⟩

end CardinalityAdvisor
