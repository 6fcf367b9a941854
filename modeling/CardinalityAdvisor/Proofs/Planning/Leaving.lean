import CardinalityAdvisor.Proofs.Planning.Answers

/-!
# Records that hooks leave

A hook leaves its record where the planner finds it: on the relation whose rows it estimates, or
staged for the parameterization that the planner makes next. The hooks behind it make the same
record again, so whatever they leave is this one.

## Main definitions

* `Site.left site name s`: the record that is left at a place, for a hook of some name
* `Site.Leaves site hook record s s'`: a hook has left its record at a place
* `Site.EstimatedBy`: the rows at a place were estimated by a record

## Main results

* `left_of_estimate`: a chain of hooks leaves the record that is known
* `estimate_by_record`: rows are estimated by a record of what the planner keeps
-/

namespace CardinalityAdvisor

open CardinalityAdvisor.Action

variable {s s' : Session} {t : List Asked} {site : Site} {hook : Hook} {behind : Estimator}
  {record : ClauseRecord} {rows : Float} {result : Except Fault Float}

namespace Site

/-- The record that is left at a place: on the relation, or staged for a hook. -/
def left (site : Site) (name : String) (s : Session) : Option ClauseRecord :=
  match site.target with
  | some id => (s.memory.relations id).record
  | none => (s.staged name).map (·.record)

theorem left_of_target {id : RelationId} (place : site.target = some id) (name : String)
    (s : Session) : site.left name s = (s.memory.relations id).record := by
  rw [left, place]

theorem left_of_staged (place : site.target = none) (name : String) (s : Session) :
    site.left name s = (s.staged name).map (·.record) := by
  rw [left, place]

/-- A hook has left its record at a place, and nothing that records are made of has changed. -/
structure Leaves (site : Site) (hook : Hook) (record : ClauseRecord) (s s' : Session) : Prop where
  noted : Noted site.target record s s'
  left : site.left hook.name s' = some record
  kept : ∀ name, site.left name s = some record → site.left name s' = some record

/-- A hook that estimates a relation writes its record on it. -/
theorem leaves_update {id : RelationId} {change : Relation → Relation} {s s₁ s₂ : Session}
    (place : site.target = some id) (input : ∀ r, SameInput r (change r))
    (written : ∀ r, (change r).record = r.record)
    (recorded : s₁ =
      { s with memory := s.memory.updateRelation id fun r => { r with record := some record } })
    (changed : s₂ = { s₁ with memory := s₁.memory.updateRelation id change }) :
    site.Leaves hook record s s₂ := by
  have left (name : String) : site.left name s₂ = some record := by
    rw [left_of_target place, changed, recorded]
    simp [Memory.updateRelation, written]
  refine ⟨?_, left _, fun name _ => left name⟩
  rw [changed]
  refine Noted.trans ?_ (.update _ input fun r => .inl (written r))
  rw [recorded]
  exact .update s (fun _ => ⟨rfl, rfl, rfl, rfl⟩) fun _ => .inr ⟨place, rfl⟩

/-- A hook that estimates filtered rows stages its record. -/
theorem leaves_stage (s : Session) (mark : Mark) (place : site.target = none) :
    site.Leaves hook record s (s.stage hook.name (some ⟨mark, record⟩)) := by
  refine ⟨.stage s _ _, ?_, fun name left => ?_⟩
  · simp [left_of_staged place, Session.stage]
  · rw [left_of_staged place] at left ⊢
    by_cases same : name = hook.name
    · simp [Session.stage, same]
    · simpa [Session.stage, same] using left

/-- The record is left before the estimator behind the hook is asked. -/
theorem leaves_of_settle {id : RelationId} {otherwise : Action Unit} (place : site.target = some id)
    (estimate : site.estimate behind = do otherwise; rowsOf id)
    (run : Runs (hook.settle id record otherwise >>= fun _ => rowsOf id) s t (.ok rows) s') :
    ∃ s₁, site.Leaves hook record s s₁ ∧
      (s' = s₁ ∨ ∃ t', Runs (site.estimate behind) s₁ t' (.ok rows) s') := by
  simp only [Hook.settle, bind_assoc, updateRelation, runs_modify_bind] at run
  obtain ⟨t₁, t₂, p, s₂, rfl, consulted, run⟩ | ⟨_, failed, -⟩ := runs_bind.mp run
  swap
  · cases failed
  obtain rfl := leavesSession_predict hook record consulted
  cases refuses : p.isRefusal with
  | true =>
    simp only [refuses, if_true, annotate, updateRelation, bind_assoc, runs_modify_bind] at run
    rw [← estimate] at run
    refine ⟨_, ?_, .inr ⟨t₂, run⟩⟩
    refine leaves_update place ?_ ?_ rfl rfl
    · exact fun _ => ⟨rfl, rfl, rfl, rfl⟩
    · exact fun _ => rfl
  | false =>
    simp only [refuses, Bool.false_eq_true, if_false, adopt, updateRelation,
      runs_modify_bind] at run
    obtain ⟨-, -, rfl⟩ := runs_rowsOf.mp run
    refine ⟨_, ?_, .inl rfl⟩
    refine leaves_update place ?_ ?_ rfl rfl
    · exact fun _ => ⟨rfl, rfl, rfl, rfl⟩
    · exact fun _ => rfl

theorem leaves_of_settleFiltered (place : site.target = none)
    (run : Runs (hook.settleFiltered record (site.estimate behind)) s t (.ok rows) s') :
    ∃ s₁, site.Leaves hook record s s₁ ∧
      (s' = s₁ ∨ ∃ t', Runs (site.estimate behind) s₁ t' (.ok rows) s') := by
  rw [Hook.settleFiltered] at run
  obtain ⟨t₁, t₂, p, s₂, rfl, consulted, run⟩ | ⟨_, failed, -⟩ := runs_bind.mp run
  swap
  · cases failed
  obtain rfl := leavesSession_predict hook record consulted
  simp only [CardinalityAdvisor.stage, runs_modify_bind] at run
  refine ⟨_, leaves_stage s p.mark place, ?_⟩
  cases refuses : p.isRefusal with
  | true =>
    rw [refuses, if_pos rfl] at run
    exact .inr ⟨t₂, run⟩
  | false =>
    rw [refuses, if_neg Bool.false_ne_true] at run
    exact .inl (runs_pure.mp run).2.2

/-- **A hook leaves its record** before it asks the estimator behind it, if it does. -/
theorem leaves_of_runs (run : Runs (site.settle hook behind record) s t (.ok rows) s') :
    ∃ s₁, site.Leaves hook record s s₁ ∧
      (s' = s₁ ∨ ∃ t', Runs (site.estimate behind) s₁ t' (.ok rows) s') := by
  cases site with
  | base | join => exact leaves_of_settle rfl rfl run
  | filteredBase | filteredJoin | groups => exact leaves_of_settleFiltered rfl run

/-- The host's own estimation leaves no record. -/
theorem left_native {native name : String}
    (run : Runs (site.estimate (.native native)) s t (.ok rows) s') :
    site.left name s' = site.left name s := by
  have answered {call : NativeCall} {f : Float → Action Float}
      (run : Runs (askNative native call >>= f) s t (.ok rows) s') :
      ∃ rows' t', Runs (f rows') s t' (.ok rows) s' := by
    simp only [askNative, bind_assoc] at run
    obtain ⟨reply, rest, -, answered⟩ := runs_ask_bind.mp run
    obtain ⟨rows', -, last⟩ | ⟨_, -, -, failed, -⟩ := runs_ofResult_bind.mp answered
    · exact ⟨rows', rest, last⟩
    · cases failed
  cases site with
  | base id =>
    simp only [estimate, Estimator.baseRows, bind_assoc, runs_get_bind] at run
    obtain ⟨rows', t', run⟩ := answered run
    obtain ⟨-, -, rfl⟩ := runs_rowsOf.mp (runs_modify_bind.mp run)
    simp [left, target, Memory.updateRelation]
  | join id outer inner type clauses =>
    simp only [estimate, Estimator.joinRows, bind_assoc, runs_get_bind] at run
    obtain ⟨rows', t', run⟩ := answered run
    obtain ⟨-, -, rfl⟩ := runs_rowsOf.mp (runs_modify_bind.mp run)
    simp [left, target, Memory.updateRelation]
  | filteredBase id clauses =>
    simp only [estimate, Estimator.filteredBaseRows, runs_get_bind] at run
    rw [← bind_pure (askNative _ _)] at run
    obtain ⟨rows', t', run⟩ := answered run
    rw [(runs_pure.mp run).2.2]
  | filteredJoin id outer inner type clauses =>
    simp only [estimate, Estimator.filteredJoinRows, runs_get_bind] at run
    rw [← bind_pure (askNative _ _)] at run
    obtain ⟨rows', t', run⟩ := answered run
    rw [(runs_pure.mp run).2.2]
  | groups g flags =>
    simp only [estimate, Estimator.groups, bind_assoc, runs_get_bind] at run
    obtain ⟨rows', t', run⟩ := answered run
    rw [(runs_pure.mp run).2.2]

end Site

/-! ## Records that a chain leaves -/

/-- **Hooks behind one that has left its record** leave the same record, as long as no input of a
join is the relation of the join itself. -/
theorem left_of_estimate {e : Estimator} {name : String} (on : Predicts s)
    (ofRows : site.ofRows = true) (distinct : site.Distinct s.memory)
    (known : (site.source s.memory).Known s.cache record) (left : site.left name s = some record)
    (run : Runs (site.estimate e) s t (.ok rows) s') : site.left name s' = some record := by
  induction e generalizing s t with
  | native native => rw [Site.left_native run, left]
  | hooked hook behind ih =>
    obtain ⟨t₁, t₂, again, s₁, rfl, made, run⟩ | ⟨_, failed, -⟩ :=
      runs_bind.mp ((Site.runs_hooked_iff on ofRows).mp run)
    swap
    · cases failed
    obtain ⟨-, same, rfl⟩ := known.runs made
    cases same
    obtain ⟨s₂, leaves, rfl | ⟨t', goesOn⟩⟩ := Site.leaves_of_runs run
    · exact leaves.kept name left
    · refine ih ?_ (distinct.noted leaves.noted) ?_ (leaves.kept name left) goesOn
      · rw [Predicts, leaves.noted.current]
        exact on
      · rw [Site.source_noted distinct leaves.noted, leaves.noted.cache]
        exact known

/-! ## Rows that are estimated by a record -/

/-- A hook that has decided has consulted its predictor by its record. -/
theorem Decided.consults (decided : Decided site hook behind record s t (.ok rows) s') :
    ∃ t₁ t₂ answer, consultations t = t₁ ++ t₂ ∧
      hook.ConsultsPredictor (· = requestFor s record) t₁ answer := by
  have asked {s₁ : Session} (current : s₁.current = s.current) :
      requestFor s₁ record = requestFor s record := by
    rw [requestFor, requestFor, current]
  generalize ended : Except.ok rows = result at decided
  cases decided with
  | failed => cases ended
  | answered current predicted =>
    exact ⟨_, [], _, (List.append_nil _).symm, runs_predict_ok predicted (asked current)⟩
  | refused current predicted =>
    exact ⟨_, _, _, consultations_append _ _, runs_predict_ok predicted (asked current)⟩

/-- The rows at a place were estimated by a record: the first hook has consulted its predictor by
it. All hooks of the chain do so up to the first one that answers, and the record is left, as long
as no input of a join is the relation of the join itself. -/
structure Site.EstimatedBy (site : Site) (hook : Hook) (behind : Estimator) (record : ClauseRecord)
    (s : Session) (t : List Asked) (rows : Float) (s' : Session) : Prop where
  first : ∃ t₁ t₂ answer, consultations t = t₁ ++ t₂ ∧
    hook.ConsultsPredictor (· = requestFor s record) t₁ answer
  answered : Answered
    (site.Consults (fun r => site.Distinct s.memory → r = requestFor s record) s.current.spaceHash)
    site.Poses (.hooked hook behind) (consultations t) rows
  left : site.Distinct s.memory → site.left hook.name s' = some record

/-- **Rows are estimated by a record** that is made of what the planner keeps. -/
theorem estimate_by_record (on : Predicts s) (ofRows : site.ofRows = true)
    (run : Runs (site.estimate (.hooked hook behind)) s t (.ok rows) s') :
    ∃ cache record, (site.source s.memory).Known cache record ∧
      site.EstimatedBy hook behind record s t rows s' := by
  obtain ⟨t₁, t₂, record, s₁, rfl, made, run⟩ | ⟨_, failed, -⟩ :=
    runs_bind.mp ((Site.runs_hooked_iff on ofRows).mp run)
  swap
  · cases failed
  have repeated := repeats_of_runs made
  have decided := Site.decided_of_runs run
  refine ⟨s₁.cache, record, RecordSource.known_of_runs made, ?_,
    answered_of_made on ofRows made decided, fun distinct => ?_⟩
  · rw [consultations_append, consultations_of_record made, List.nil_append]
    obtain ⟨t₁, t₂, answer, split, consulted⟩ := decided.consults
    rw [requestFor, repeated.current] at consulted
    exact ⟨t₁, t₂, answer, split, consulted⟩
  -- The record is left by this hook, and the hooks behind it leave the same one again.
  · obtain ⟨s₂, leaves, rfl | ⟨t', goesOn⟩⟩ := Site.leaves_of_runs run
    · exact leaves.left
    · obtain ⟨distinct, known⟩ := (repeated.noted leaves.noted).known distinct
      refine left_of_estimate ?_ ofRows distinct known leaves.left goesOn
      rw [Predicts, (repeated.noted leaves.noted).current]
      exact on

end CardinalityAdvisor
