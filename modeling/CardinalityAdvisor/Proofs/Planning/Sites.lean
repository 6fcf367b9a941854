import CardinalityAdvisor.Proofs.Planning.HookParts

/-!
# Estimates of hooks in front of each other

At each of the five places a hook either answers itself or lets the estimator behind it decide, and
what it writes on the way does not change what the hooks behind it are asked for. Here the five
places are brought into one form.

## Main definitions

* `Site`: a place at which a planner asks for an estimate, with what it submits there
* `Site.estimate`: the estimate of an estimator at a place
* `Site.source`: what the record at a place is made of
* `Noted target record s s'`: what a hook may have written before it asks the estimator behind it
* `Decided site hook behind record`: how a hook settles the rows by a record
* `Site.settle site hook behind record`: what a hook does after it has made a record

## Main results

* `Site.runs_off`: without predictions, only the host's own estimation is asked
* `Site.runs_hooked_iff`: with predictions, a hook makes the record of the place, then settles
* `Site.runs_hooked`: with predictions, a hook consults its predictor or stops with a fault
-/

namespace CardinalityAdvisor

open CardinalityAdvisor.Action

variable {s s' : Session} {t : List Asked}

/-- A place at which a planner asks for an estimate, with what it submits there. -/
inductive Site where
  | base (id : RelationId)
  | filteredBase (id : RelationId) (clauses : List Restriction)
  | join (id outer inner : RelationId) (type : JoinType) (clauses : List Restriction)
  | filteredJoin (id : RelationId) (outer inner : PathId) (type : JoinType)
      (clauses : List Restriction)
  | groups (g : Estimator.Grouping) (flags : Option Int)

namespace Site

/-- The rows that are written on a relation. -/
def rowsOf (id : RelationId) : Action Float := return ((← get).memory.relations id).rows

/-- The estimate of an estimator at a place. For relations and joins, it is written on them. -/
def estimate : Site → Estimator → Action Float
  | .base id, e => do e.baseRows id; rowsOf id
  | .filteredBase id clauses, e => e.filteredBaseRows id clauses
  | .join id outer inner type clauses, e => do e.joinRows id outer inner type clauses; rowsOf id
  | .filteredJoin id outer inner type clauses, e => e.filteredJoinRows id outer inner type clauses
  | .groups g flags, e => do return (← e.groups g flags).1

/-- Whether a call of the host's own estimation is one for a place. The flags of a grouping may
have been reset. -/
def Poses : Site → NativeCall → Prop
  | .base id, call => ∃ m : Memory, call = .baseRows (m.relations id)
  | .filteredBase id clauses, call =>
    ∃ m : Memory, call = .filteredBaseRows (m.relations id) clauses
  | .join id outer inner type clauses, call => ∃ m : Memory,
    call = .joinRows (m.relations id) (m.relations outer) (m.relations inner) type clauses
  | .filteredJoin id outer inner type clauses, call => ∃ m : Memory,
    call = .filteredJoinRows (m.relations id) (m.paths outer) (m.paths inner) type clauses
  | .groups g _, call => ∃ (m : Memory) (flags : Option Int),
    call = .groups g.exprs (m.paths g.input) (m.relations g.relation) g.sets flags

/-- Whether a grouping has nothing that could be predicted. -/
def unsupported : Site → Bool
  | .groups g _ => g.unsupported
  | _ => false

theorem runs_rowsOf {id : RelationId} {result : Except Fault Float} :
    Runs (rowsOf id) s t result s' ↔
      t = [] ∧ result = .ok (s.memory.relations id).rows ∧ s' = s := runs_pure

/-- The host's own estimation is asked once, and its answer is used if it is one. -/
theorem runs_askNative_bind {name : String} {call : NativeCall} {f : Float → Action Float}
    {result : Except Fault Float}
    (given : ∀ rows s t result s', Runs (f rows) s t result s' → t = [] ∧ result = .ok rows)
    (run : Runs (askNative name call >>= f) s t result s') : t = [⟨.native name call, result⟩] := by
  rw [askNative, bind_assoc] at run
  obtain ⟨reply, rest, rfl, answered⟩ := runs_ask_bind.mp run
  obtain ⟨rows, rfl, goesOn⟩ | ⟨fault, rfl, rfl, rfl, -⟩ := runs_ofResult_bind.mp answered
  · obtain ⟨rfl, rfl⟩ := given rows _ _ _ _ goesOn
    rfl
  · rfl

/-- An answer of the host's own estimation is written on the relation. -/
theorem runs_write {id : RelationId} {rows : Float} {result : Except Fault Float}
    (run : Runs (updateRelation id (fun r => { r with rows }) >>= fun _ => rowsOf id) s t result
      s') : t = [] ∧ result = .ok rows := by
  obtain ⟨rfl, rfl, -⟩ := runs_rowsOf.mp (runs_modify_bind.mp run)
  refine ⟨rfl, ?_⟩
  simp only [Memory.updateRelation, if_pos]

/-- **The host's own estimation** is asked once for its estimate. -/
theorem runs_native {site : Site} {name : String} {result : Except Fault Float}
    (run : Runs (site.estimate (.native name)) s t result s') :
    ∃ call, site.Poses call ∧ t = [⟨.native name call, result⟩] := by
  cases site with
  | base id =>
    simp only [estimate, Estimator.baseRows, bind_assoc, runs_get_bind] at run
    exact ⟨_, ⟨s.memory, rfl⟩, runs_askNative_bind (fun _ _ _ _ _ run => runs_write run) run⟩
  | join id outer inner type clauses =>
    simp only [estimate, Estimator.joinRows, bind_assoc, runs_get_bind] at run
    exact ⟨_, ⟨s.memory, rfl⟩, runs_askNative_bind (fun _ _ _ _ _ run => runs_write run) run⟩
  | filteredBase id clauses =>
    simp only [estimate, Estimator.filteredBaseRows, runs_get_bind] at run
    rw [← bind_pure (askNative _ _)] at run
    refine ⟨_, ⟨s.memory, rfl⟩, runs_askNative_bind (fun _ _ _ _ _ run => ?_) run⟩
    obtain ⟨rfl, rfl, -⟩ := runs_pure.mp run
    exact ⟨rfl, rfl⟩
  | filteredJoin id outer inner type clauses =>
    simp only [estimate, Estimator.filteredJoinRows, runs_get_bind] at run
    rw [← bind_pure (askNative _ _)] at run
    refine ⟨_, ⟨s.memory, rfl⟩, runs_askNative_bind (fun _ _ _ _ _ run => ?_) run⟩
    obtain ⟨rfl, rfl, -⟩ := runs_pure.mp run
    exact ⟨rfl, rfl⟩
  | groups g flags =>
    simp only [estimate, Estimator.groups, bind_assoc, runs_get_bind] at run
    refine ⟨_, ⟨s.memory, flags, rfl⟩, runs_askNative_bind (fun _ _ _ _ _ run => ?_) run⟩
    obtain ⟨rfl, rfl, -⟩ := runs_pure.mp run
    exact ⟨rfl, rfl⟩

/-! ## Without predictions -/

theorem runs_predicting_bind {α : Type} {f : Bool → Action α} {result : Except Fault α} :
    Runs (predicting >>= f) s t result s' ↔ Runs (f s.current.usePrediction) s t result s' :=
  Iff.rfl

/-- A hook without predictions marks the relation or stages nothing, and lets the estimator behind
it decide. -/
theorem runs_hooked_off {site : Site} {hook : Hook} {behind : Estimator}
    {result : Except Fault Float}
    (off : s.current.usePrediction = false ∨ site.unsupported = true)
    (run : Runs (site.estimate (.hooked hook behind)) s t result s') :
    ∃ s₁, Runs (site.estimate behind) s₁ t result s' ∧ s₁.current = s.current := by
  cases site with
  | base id =>
    simp only [estimate, Estimator.baseRows, bind_assoc, runs_predicting_bind,
      off.resolve_right Bool.false_ne_true, Bool.false_eq_true, if_false, annotate,
      updateRelation, runs_modify_bind] at run
    exact ⟨_, run, rfl⟩
  | filteredBase id clauses =>
    simp only [estimate, Estimator.filteredBaseRows, runs_predicting_bind,
      off.resolve_right Bool.false_ne_true, Bool.false_eq_true, if_false, stage,
      runs_modify_bind] at run
    exact ⟨_, run, rfl⟩
  | join id outer inner type clauses =>
    simp only [estimate, Estimator.joinRows, bind_assoc, runs_predicting_bind,
      off.resolve_right Bool.false_ne_true, Bool.false_eq_true, if_false, annotate,
      updateRelation, runs_modify_bind] at run
    exact ⟨_, run, rfl⟩
  | filteredJoin id outer inner type clauses =>
    simp only [estimate, Estimator.filteredJoinRows, runs_predicting_bind,
      off.resolve_right Bool.false_ne_true, Bool.false_eq_true, if_false, stage,
      runs_modify_bind] at run
    exact ⟨_, run, rfl⟩
  | groups g flags =>
    simp only [estimate, Estimator.groups, bind_assoc, runs_predicting_bind] at run
    cases on : s.current.usePrediction with
    | false =>
      simp only [on, Bool.not_false, if_true, annotate, updateRelation, bind_assoc,
        runs_modify_bind] at run
      exact ⟨_, run, rfl⟩
    | true =>
      have unsupported : g.unsupported = true := off.resolve_left (by rw [on]; simp)
      rw [on, unsupported] at run
      exact ⟨s, run, rfl⟩

/-- The estimator of the host itself at the end of a chain of hooks. -/
def nativeName : Estimator → String
  | .native name => name
  | .hooked _ behind => nativeName behind

/-- **Without predictions**, the host's own estimation is asked and nothing else happens. -/
theorem runs_off {site : Site} {e : Estimator} {result : Except Fault Float}
    (off : s.current.usePrediction = false ∨ site.unsupported = true)
    (run : Runs (site.estimate e) s t result s') :
    ∃ call, site.Poses call ∧ t = [⟨.native (nativeName e) call, result⟩] := by
  induction e generalizing s with
  | native name => exact runs_native run
  | hooked hook behind ih =>
    obtain ⟨s₁, run, current⟩ := runs_hooked_off off run
    rw [← current] at off
    exact ih off run

/-! ## With predictions -/

/-- What the record at a place is made of. -/
def source : Site → Memory → RecordSource
  | .base id, m =>
    .own (m.relations id).index (m.baseCatalogIds (m.relations id)) (m.relations id).restrictions
  | .filteredBase id clauses, m =>
    .own (m.relations id).index (m.baseCatalogIds (m.relations id))
      (clauses ++ (m.relations id).restrictions)
  | .join _ outer inner type clauses, m =>
    .join (m.pathSource (m.inputPath outer)) (m.pathSource (m.inputPath inner)) type clauses
  | .filteredJoin _ outer inner type clauses, m =>
    .join (m.pathSource (m.paths outer)) (m.pathSource (m.paths inner)) type clauses
  | .groups g _, m => m.pathSource (m.paths g.input)

/-- The relation that a hook writes its record on. -/
def target : Site → Option RelationId
  | .base id | .join id _ _ _ _ => some id
  | _ => none

/-- Whether rows of a relation or a join are estimated, and not groups. -/
def ofRows : Site → Bool
  | .groups _ _ => false
  | _ => true

end Site

/-- A hook may have written marks and rows, and its record on one relation; all else that records
are made of is the same. -/
structure Noted (target : Option RelationId) (record : ClauseRecord) (s s' : Session) : Prop where
  current : s'.current = s.current
  cache : s'.cache = s.cache
  rangeTable : s'.memory.rangeTable = s.memory.rangeTable
  paths : s'.memory.paths = s.memory.paths
  parameterizations : s'.memory.parameterizations = s.memory.parameterizations
  relations : ∀ id, SameInput (s.memory.relations id) (s'.memory.relations id)
  records : ∀ id, (s'.memory.relations id).record = (s.memory.relations id).record ∨
    target = some id ∧ (s'.memory.relations id).record = some record

/-- A hook with a record consults its predictor, and then lets the estimator behind it decide if the
predictor refuses. -/
inductive Decided (site : Site) (hook : Hook) (behind : Estimator) (record : ClauseRecord)
    (s : Session) : List Asked → Except Fault Float → Session → Prop
  | failed {s₁ s' : Session} {t : List Asked} {fault : Fault} : s₁.current = s.current →
      Runs (hook.predict record) s₁ t (.error fault) s' →
      Decided site hook behind record s t (.error fault) s'
  | answered {s₁ s₂ s' : Session} {t : List Asked} {p : Prediction} : s₁.current = s.current →
      Runs (hook.predict record) s₁ t (.ok p) s₂ → p.isRefusal = false →
      Decided site hook behind record s t (.ok p.rows) s'
  | refused {s₁ s₂ s₃ s' : Session} {t₁ t₂ : List Asked} {p : Prediction}
      {result : Except Fault Float} : s₁.current = s.current →
      Runs (hook.predict record) s₁ t₁ (.ok p) s₂ → p.isRefusal = true →
      Noted site.target record s s₃ → Runs (site.estimate behind) s₃ t₂ result s' →
      Decided site hook behind record s (t₁ ++ t₂) result s'

namespace Noted

variable {target : Option RelationId} {record : ClauseRecord}

theorem refl (s : Session) : Noted target record s s :=
  ⟨rfl, rfl, rfl, rfl, rfl, fun _ => .refl _, fun _ => .inl rfl⟩

theorem trans {s s₁ s' : Session} (h : Noted target record s s₁) (h' : Noted target record s₁ s') :
    Noted target record s s' := by
  refine ⟨h'.current.trans h.current, h'.cache.trans h.cache, h'.rangeTable.trans h.rangeTable,
    h'.paths.trans h.paths, h'.parameterizations.trans h.parameterizations,
    fun id => (h.relations id).trans (h'.relations id), fun id => ?_⟩
  rcases h'.records id with same | written
  · rw [same]
    exact h.records id
  · exact .inr written

/-- A hook writes on one relation. -/
theorem update {id : RelationId} {change : Relation → Relation} (s : Session)
    (input : ∀ r, SameInput r (change r))
    (written : ∀ r, (change r).record = r.record ∨
      target = some id ∧ (change r).record = some record) :
    Noted target record s { s with memory := s.memory.updateRelation id change } := by
  refine ⟨rfl, rfl, rfl, rfl, rfl, fun other => ?_, fun other => ?_⟩
  · show SameInput _ (if other = id then change (s.memory.relations id) else _)
    split
    · rename_i same
      rw [same]
      exact input _
    · exact .refl _
  · show (if other = id then change (s.memory.relations id) else _).record = _ ∨ _ ∧
      (if other = id then change (s.memory.relations id) else _).record = _
    split
    · rename_i same
      rw [same]
      exact written _
    · exact .inl rfl

theorem stage (s : Session) (hook : String) (estimate : Option StagedEstimate) :
    Noted target record s (s.stage hook estimate) :=
  ⟨rfl, rfl, rfl, rfl, rfl, fun _ => .refl _, fun _ => .inl rfl⟩

end Noted

namespace Site

/-- A hook that settles the rows of a relation writes its record on it first. -/
theorem decided_of_settle {site : Site} {id : RelationId} {hook : Hook} {behind : Estimator}
    {record : ClauseRecord} {otherwise : Action Unit} {result : Except Fault Float}
    (place : site.target = some id)
    (estimate : site.estimate behind = do otherwise; rowsOf id)
    (run : Runs (hook.settle id record otherwise >>= fun _ => rowsOf id) s t result s') :
    Decided site hook behind record s t result s' := by
  simp only [Hook.settle, bind_assoc, updateRelation, runs_modify_bind] at run
  have recorded : Noted site.target record s
      { s with memory := s.memory.updateRelation id fun r => { r with record := some record } } :=
    .update s (fun _ => ⟨rfl, rfl, rfl, rfl⟩) fun _ => .inr ⟨place, rfl⟩
  obtain ⟨t₁, t₂, p, s₂, rfl, consulted, run⟩ | ⟨fault, rfl, failed⟩ := runs_bind.mp run
  swap
  · exact .failed recorded.current failed
  obtain rfl := leavesSession_predict hook record consulted
  cases refuses : p.isRefusal with
  | true =>
    simp only [refuses, if_true, annotate, updateRelation, bind_assoc, runs_modify_bind] at run
    rw [← estimate] at run
    refine .refused recorded.current consulted refuses (recorded.trans ?_) run
    exact .update _ (fun _ => ⟨rfl, rfl, rfl, rfl⟩) fun _ => .inl rfl
  | false =>
    simp only [refuses, Bool.false_eq_true, if_false, adopt, updateRelation,
      runs_modify_bind] at run
    obtain ⟨rfl, rfl, -⟩ := runs_rowsOf.mp run
    rw [List.append_nil]
    simp only [Memory.updateRelation, if_pos]
    exact .answered recorded.current consulted refuses

/-- A hook that settles filtered rows stages what its predictor answered. -/
theorem decided_of_settleFiltered {site : Site} {hook : Hook} {behind : Estimator}
    {record : ClauseRecord} {result : Except Fault Float}
    (run : Runs (hook.settleFiltered record (site.estimate behind)) s t result s') :
    Decided site hook behind record s t result s' := by
  rw [Hook.settleFiltered] at run
  obtain ⟨t₁, t₂, p, s₂, rfl, consulted, run⟩ | ⟨fault, rfl, failed⟩ := runs_bind.mp run
  swap
  · exact .failed rfl failed
  obtain rfl := leavesSession_predict hook record consulted
  simp only [CardinalityAdvisor.stage, runs_modify_bind] at run
  cases refuses : p.isRefusal with
  | true =>
    rw [refuses, if_pos rfl] at run
    exact .refused rfl consulted refuses (.stage s _ _) run
  | false =>
    rw [refuses, if_neg Bool.false_ne_true] at run
    obtain ⟨rfl, rfl, -⟩ := runs_pure.mp run
    rw [List.append_nil]
    exact .answered rfl consulted refuses

/-- What a hook does at a place after it has made a record there. -/
def settle (site : Site) (hook : Hook) (behind : Estimator) (record : ClauseRecord) :
    Action Float :=
  match site with
  | .base id => do hook.settle id record (behind.baseRows id); rowsOf id
  | .join id outer inner type clauses => do
    hook.settle id record (behind.joinRows id outer inner type clauses)
    rowsOf id
  | site => hook.settleFiltered record (site.estimate behind)

theorem decided_of_runs {site : Site} {hook : Hook} {behind : Estimator} {record : ClauseRecord}
    {result : Except Fault Float} (run : Runs (site.settle hook behind record) s t result s') :
    Decided site hook behind record s t result s' := by
  cases site with
  | base | join => exact decided_of_settle rfl rfl run
  | filteredBase | filteredJoin | groups => exact decided_of_settleFiltered run

/-- **With predictions**, a hook makes the record of the place, and then it settles the rows. -/
theorem runs_hooked_iff {site : Site} {hook : Hook} {behind : Estimator}
    {result : Except Fault Float} (on : Predicts s) (rows : site.ofRows = true) :
    Runs (site.estimate (.hooked hook behind)) s t result s' ↔
      Runs ((site.source s.memory).record >>= site.settle hook behind) s t result s' := by
  have on : s.current.usePrediction = true := on
  cases site with
  | base id =>
    simp only [estimate, Estimator.baseRows, bind_assoc, runs_predicting_bind, on, if_true]
    rfl
  | filteredBase id clauses =>
    simp only [estimate, Estimator.filteredBaseRows, runs_predicting_bind, on, if_true]
    rfl
  | join id outer inner type clauses =>
    simp only [estimate, Estimator.joinRows, bind_assoc, runs_predicting_bind, on, if_true,
      runs_get_bind]
    rw [runs_bind, runs_bind]
    simp only [runs_joinRecord]
    rfl
  | filteredJoin id outer inner type clauses =>
    simp only [estimate, Estimator.filteredJoinRows, runs_predicting_bind, on, if_true,
      runs_get_bind]
    rw [runs_bind, runs_bind]
    simp only [runs_joinRecord]
    rfl
  | groups g flags => cases rows

/-- So it decides by the record, unless none could be made. -/
theorem runs_hooked {site : Site} {hook : Hook} {behind : Estimator}
    {result : Except Fault Float} (on : Predicts s) (rows : site.ofRows = true)
    (run : Runs (site.estimate (.hooked hook behind)) s t result s') :
    (∃ fault, result = .error fault ∧
      Runs (site.source s.memory).record s t (.error fault) s') ∨
    ∃ t₁ t₂ record s₁, t = t₁ ++ t₂ ∧ Runs (site.source s.memory).record s t₁ (.ok record) s₁ ∧
      Decided site hook behind record s₁ t₂ result s' := by
  obtain ⟨t₁, t₂, record, s₁, rfl, made, run⟩ | ⟨fault, rfl, failed⟩ :=
    runs_bind.mp ((runs_hooked_iff on rows).mp run)
  · exact .inr ⟨t₁, t₂, record, s₁, rfl, made, decided_of_runs run⟩
  · exact .inl ⟨fault, rfl, failed⟩

end Site

end CardinalityAdvisor
