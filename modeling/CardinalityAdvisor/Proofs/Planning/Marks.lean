import CardinalityAdvisor.Proofs.Planning.Leaving

/-!
# Marks on estimated relations

A relation whose rows or groups are estimated is marked: with the prediction that became the
estimate, or as not predicted. The marks of earlier estimates are overwritten, whatever the host's
own estimation is asked for. Only a grouping that has nothing to predict leaves the mark of its
relation alone.

## Main definitions

* `Site.marked`: the relation that is marked at a place
* `KeepsMarks s s'`: the marks of all relations are the same
* `Site.PredictedBy site hook s t p`: a prediction is the one that a hook has made at a place
* `Site.Marking`: how a hook in front of another estimator marks a relation

## Main results

* `Site.marking_of_runs`: a hook with predictions marks its relation in one of three ways
* `mark_of_estimate`: marks tell where an estimate in front of the host's own estimation is from
-/

namespace CardinalityAdvisor

open CardinalityAdvisor.Action

variable {s s' : Session} {t : List Asked}

/-- The relation that is marked at a place. -/
def Site.marked : Site → Option RelationId
  | .base id | .join id _ _ _ _ => some id
  | .groups g _ => some g.relation
  | .filteredBase _ _ | .filteredJoin _ _ _ _ _ => none

/-- The marks of all relations are the same. -/
def KeepsMarks (s s' : Session) : Prop :=
  ∀ id, (s'.memory.relations id).mark = (s.memory.relations id).mark

instance : Std.Refl KeepsMarks := ⟨fun _ _ => rfl⟩

instance : IsTrans Session KeepsMarks := ⟨fun _ _ _ h h' id => (h' id).trans (h id)⟩

/-- A relation that was changed. -/
@[simp] theorem Memory.relations_updateRelation (m : Memory) (id : RelationId)
    (change : Relation → Relation) :
    (m.updateRelation id change).relations id = change (m.relations id) := if_pos rfl

/-! ## What leaves marks alone -/

theorem SameButRemembered.keepsMarks (h : SameButRemembered s s') : KeepsMarks s s' := by
  intro id
  rw [h.memory]

theorem keepsMarks_updateRelation (id : RelationId) {change : Relation → Relation}
    (keeps : ∀ r, (change r).mark = r.mark) : Within KeepsMarks (updateRelation id change) := by
  refine within_modify fun s other => ?_
  show (if other = id then change (s.memory.relations id) else _).mark = _
  split
  · rename_i same
    rw [same, keeps]
  · rfl

/-- **The host's own estimation** leaves all marks alone. -/
theorem keepsMarks_native (site : Site) (name : String) :
    Within KeepsMarks (site.estimate (.native name)) := by
  have asked (call : NativeCall) : Within KeepsMarks (askNative name call) :=
    (within_ask _).bind fun _ => within_ofResult _
  have written (id : RelationId) (rows : Float) :
      Within KeepsMarks (updateRelation id fun r => { r with rows }) :=
    keepsMarks_updateRelation id fun _ => rfl
  have read (id : RelationId) : Within KeepsMarks (Site.rowsOf id) :=
    within_get.bind fun _ => within_pure _
  cases site with
  | base id =>
    refine Within.bind ?_ fun _ => read id
    exact within_get.bind fun _ => (asked _).bind fun rows => written id rows
  | join id outer inner type clauses =>
    refine Within.bind ?_ fun _ => read id
    exact within_get.bind fun _ => (asked _).bind fun rows => written id rows
  | filteredBase id clauses => exact within_get.bind fun _ => asked _
  | filteredJoin id outer inner type clauses => exact within_get.bind fun _ => asked _
  | groups g flags =>
    refine Within.bind ?_ fun _ => within_pure _
    exact within_get.bind fun _ => (asked _).bind fun _ => within_pure _

/-- Looking the sample of a grouping up leaves all marks alone. -/
theorem keepsMarks_consultGroups (hook : Hook) (g : Estimator.Grouping) :
    Within KeepsMarks (hook.consultGroups g) := by
  have found (path : Path) : Within KeepsMarks (hook.inputKey path) := by
    have part : HookPart (fun _ => True) (fun _ => True) KeepsMarks true (hook.inputKey path) :=
      .inputKey tells_anything (fun _ => trivial) hook path
    exact part.within (fun _ _ kept => kept)
      fun _ _ => remembers_collect.mono fun _ _ => SameButRemembered.keepsMarks
  have looked : Within KeepsMarks (hook.lookUpGroups g) := by
    refine within_get.bind fun _ => (found _).bind fun _ => (within_ofTree _).bind fun _ => ?_
    refine within_get.bind fun _ => Within.bind ?_ fun _ => within_pure _
    exact within_of_leavesSession (leavesSession_predictGroups hook _ _)
  unfold Hook.consultGroups
  split
  · exact (within_ask _).bind fun _ => looked
  · exact looked

/-! ## Hooks that mark relations -/

namespace Site

variable {site : Site} {hook : Hook} {behind : Estimator} {id : RelationId}
  {record : ClauseRecord} {result : Except Fault Float}

/-- A prediction is the one that a hook has made at a place. For groups it is the number that the
sample stands for, with the key under which the sample was looked up. For relations and joins it is
the answer of the predictor, which was asked by the record of the place. -/
def PredictedBy (site : Site) (hook : Hook) (s : Session) (t : List Asked) (p : Prediction) :
    Prop :=
  match site with
  | .groups g _ => hook.LooksUpGroups g s.current.spaceHash t p.sampleKey (some p.rows)
  | site => ∃ cache record s₁, (site.source s.memory).Known cache record ∧
      Runs (hook.consult (requestFor s record)) s₁ t (.ok p) s₁ ∧ p.isRefusal = false

/-- How a hook marks a relation: the call fails before it could, the hook's own prediction becomes
the estimate and the mark, or the relation is marked as not predicted and the estimator behind the
hook decides. That one is asked at the same place, possibly with other flags. -/
inductive Marking (site : Site) (hook : Hook) (behind : Estimator) (id : RelationId)
    (s : Session) : List Asked → Except Fault Float → Session → Prop
  | failed {s' : Session} {t : List Asked} {fault : Fault} :
      (s'.memory.relations id).mark = (s.memory.relations id).mark →
      Marking site hook behind id s t (.error fault) s'
  | predicted {s' : Session} {t : List Asked} {p : Prediction} :
      site.PredictedBy hook s (consultations t) p →
      (s'.memory.relations id).rows = p.rows → (s'.memory.relations id).mark = p.mark →
      Marking site hook behind id s t (.ok p.rows) s'
  | refused {place : Site} {s₁ s' : Session} {t₁ t₂ : List Asked} {result : Except Fault Float}
      (key : Int) : (s₁.memory.relations id).mark = .unpredicted key →
      (∀ call, place.Poses call → site.Poses call) → Runs (place.estimate behind) s₁ t₂ result s' →
      Marking site hook behind id s (t₁ ++ t₂) result s'

/-- The answer of a hook's predictor, as the hook hands it on. -/
theorem consulted_of_answered {p : Prediction} (run : Runs (hook.predict record) s t (.ok p) s')
    (answers : p.isRefusal = false) :
    Runs (hook.consult (requestFor s record)) s (consultations t) (.ok p) s := by
  obtain ⟨_, failed, -⟩ | ⟨q, handed, consulted, same, key, answer⟩ := runs_predict run
  · cases failed
  cases same
  rw [Prediction.answer, Prediction.answer, answers, if_neg Bool.false_ne_true] at answer
  split at answer
  · cases answer
  obtain ⟨rows, own⟩ := p
  obtain ⟨rows', own'⟩ := q
  cases answer
  cases key
  exact consulted

/-- A hook that settles the rows of a relation marks it. -/
theorem marking_of_settle {otherwise : Action Unit} {source : List Asked} {s₀ : Session}
    (made : SameButRemembered s₀ s) (silent : consultations source = [])
    (rows : site.ofRows = true) (known : (site.source s₀.memory).Known s.cache record)
    (estimate : site.estimate behind = do otherwise; rowsOf id)
    (run : Runs (hook.settle id record otherwise >>= fun _ => rowsOf id) s t result s') :
    Marking site hook behind id s₀ (source ++ t) result s' := by
  simp only [Hook.settle, bind_assoc, updateRelation, runs_modify_bind] at run
  obtain ⟨t₁, t₂, p, s₂, rfl, consulted, run⟩ | ⟨fault, rfl, failed⟩ := runs_bind.mp run
  swap
  · refine .failed ?_
    rw [← leavesSession_predict hook record failed, ← made.memory]
    simp
  obtain rfl := leavesSession_predict hook record consulted
  cases refuses : p.isRefusal with
  | true =>
    simp only [refuses, if_true, annotate, updateRelation, bind_assoc, runs_modify_bind] at run
    rw [← estimate] at run
    rw [← List.append_assoc]
    refine .refused p.sampleKey ?_ (fun _ posed => posed) run
    simp
  | false =>
    simp only [refuses, Bool.false_eq_true, if_false, adopt, updateRelation,
      runs_modify_bind] at run
    obtain ⟨rfl, rfl, rfl⟩ := runs_rowsOf.mp run
    have request : requestFor s₀ record = requestFor s record := by
      rw [requestFor, requestFor, made.current]
    have predicted : site.PredictedBy hook s₀ (consultations (source ++ (t₁ ++ []))) p := by
      rw [List.append_nil, consultations_append, silent, List.nil_append]
      have answered := consulted_of_answered consulted refuses
      cases site with
      | groups => cases rows
      | _ => exact ⟨_, record, _, known, request ▸ answered, refuses⟩
    rw [Memory.relations_updateRelation]
    refine .predicted predicted ?_ ?_
    · simp
    · simp

/-- A hook that looks the sample of a grouping up marks the relation of the groups. -/
theorem marking_of_groups {g : Estimator.Grouping} {flags : Option Int} (on : Predicts s)
    (supported : g.unsupported = false)
    (run : Runs ((Site.groups g flags).estimate (.hooked hook behind)) s t result s') :
    Marking (.groups g flags) hook behind g.relation s t result s' := by
  rw [runs_groups_hooked on supported] at run
  obtain ⟨t₁, t₂, ⟨key, answer⟩, s₁, rfl, looked, decided⟩ | ⟨_, rfl, failed⟩ := runs_bind.mp run
  swap
  · exact .failed (keepsMarks_consultGroups hook g failed _)
  cases answer with
  | none =>
    simp only [decideGroups, annotate, updateRelation, runs_modify_bind] at decided
    have same (call : NativeCall) (posed : (groups g (flags.map fun _ => 0)).Poses call) :
        (groups g flags).Poses call := posed
    refine .refused key ?_ same decided
    simp
  | some rows =>
    simp only [decideGroups, adopt, updateRelation, runs_modify_bind] at decided
    obtain ⟨rfl, rfl, rfl⟩ := runs_pure.mp decided
    rw [List.append_nil]
    refine .predicted (p := ⟨rows, key⟩) ?_ ?_ ?_
    · exact (lookedUp_of_runs looked).2
    · simp
    · simp [Prediction.mark]

/-- Without predictions, a hook marks the relation as not predicted. -/
theorem marking_of_off (marked : site.marked = some id) (off : s.current.usePrediction = false)
    (run : Runs (site.estimate (.hooked hook behind)) s t result s') :
    Marking site hook behind id s t result s' := by
  rw [← List.nil_append t]
  cases site with
  | filteredBase | filteredJoin => cases marked
  | base | join =>
    cases marked
    simp only [estimate, Estimator.baseRows, Estimator.joinRows, bind_assoc, runs_predicting_bind,
      off, Bool.false_eq_true, if_false, annotate, updateRelation, runs_modify_bind] at run
    refine .refused 0 ?_ (fun _ posed => posed) run
    simp
  | groups g flags =>
    cases marked
    simp only [estimate, Estimator.groups, bind_assoc, runs_predicting_bind, off, Bool.not_false,
      if_true, annotate, updateRelation, runs_modify_bind] at run
    refine .refused 0 ?_ (fun _ posed => posed) run
    simp

/-- **A hook marks its relation** in one of three ways, unless it is asked with predictions for a
grouping that has nothing to predict. -/
theorem marking_of_runs (marked : site.marked = some id)
    (predictable : ¬(s.current.usePrediction = true ∧ site.unsupported = true))
    (run : Runs (site.estimate (.hooked hook behind)) s t result s') :
    Marking site hook behind id s t result s' := by
  cases on : s.current.usePrediction with
  | false => exact marking_of_off marked on run
  | true =>
    rw [on, eq_self, true_and, Bool.not_eq_true] at predictable
    cases site with
    | filteredBase | filteredJoin => cases marked
    | groups g flags =>
      cases marked
      exact marking_of_groups on predictable run
    | base | join =>
      cases marked
      rw [runs_hooked_iff on rfl] at run
      obtain ⟨t₁, t₂, record, s₁, rfl, made, run⟩ | ⟨_, rfl, failed⟩ := runs_bind.mp run
      · exact marking_of_settle (RecordSource.remembers _ made) (consultations_of_record made) rfl
          (RecordSource.known_of_runs made) rfl run
      · exact .failed ((RecordSource.remembers _ failed).keepsMarks _)

/-- With predictions, a grouping that has nothing to predict is left to the estimator behind. -/
theorem runs_unsupported {hook : Hook} {behind : Estimator} {g : Estimator.Grouping}
    {flags : Option Int} (on : s.current.usePrediction = true) (unsupported : g.unsupported = true)
    (run : Runs ((Site.groups g flags).estimate (.hooked hook behind)) s t result s') :
    Runs ((Site.groups g flags).estimate behind) s t result s' := by
  simpa only [estimate, Estimator.groups, bind_assoc, runs_predicting_bind, on, unsupported,
    Bool.not_true, Bool.false_eq_true, if_false, if_true] using run

end Site

/-! ## Hooks in front of the host's own estimation -/

/-- The host's own estimation was asked at a place, and gave the rows. -/
def Site.GivenBy (site : Site) (name : String) (t : List Asked) (rows : Float) : Prop :=
  ∃ call, site.Poses call ∧ ⟨.native name call, .ok rows⟩ ∈ t

/-- The rows at a place are the prediction that a hook made in this very call, and the relation is
marked with it. -/
def Site.OwnPrediction (site : Site) (hook : Hook) (id : RelationId) (s : Session) (t : List Asked)
    (rows : Float) (s' : Session) : Prop :=
  ∃ p, site.PredictedBy hook s (consultations t) p ∧ rows = p.rows ∧
    (s'.memory.relations id).rows = p.rows ∧ (s'.memory.relations id).mark = p.mark

/-- **Marks tell where an estimate is from.** Whatever mark a relation had before, after a hook in
front of the host's own estimation was asked, it is marked with the prediction that this very call
has made its estimate, or the estimate is the host's and the relation is marked as not predicted. A
call that fails puts no prediction on the relation. The one exception is a grouping that has
nothing to predict: with predictions, its estimate is the host's, and its relation keeps the mark of
an earlier call. -/
theorem mark_of_estimate {site : Site} {hook : Hook} {name : String} {id : RelationId}
    {result : Except Fault Float} (marked : site.marked = some id)
    (run : Runs (site.estimate (.hooked hook (.native name))) s t result s') :
    (s.current.usePrediction = true ∧ site.unsupported = true →
      (s'.memory.relations id).mark = (s.memory.relations id).mark ∧
        ∀ rows, result = .ok rows → site.GivenBy name t rows) ∧
    (¬(s.current.usePrediction = true ∧ site.unsupported = true) →
      (∀ rows, result = .ok rows → site.OwnPrediction hook id s t rows s' ∨
        site.GivenBy name t rows ∧ (s'.memory.relations id).mark.predicted = noPrediction) ∧
      ∀ fault, result = .error fault →
        (s'.memory.relations id).mark = (s.memory.relations id).mark ∨
          (s'.memory.relations id).mark.predicted = noPrediction) := by
  refine ⟨fun ⟨on, unsupported⟩ => ?_, fun predictable => ?_⟩
  · cases site with
    | groups g flags =>
      have native := Site.runs_unsupported on unsupported run
      refine ⟨keepsMarks_native _ name native id, ?_⟩
      rintro rows rfl
      obtain ⟨call, posed, rfl⟩ := Site.runs_native native
      exact ⟨call, posed, List.mem_singleton_self _⟩
    | _ => cases unsupported
  · have marking := Site.marking_of_runs marked predictable run
    cases marking with
    | failed same =>
      refine ⟨fun rows ended => ?_, fun _ _ => .inl same⟩
      cases ended
    | @predicted _ _ p made rows mark =>
      refine ⟨?_, fun _ ended => ?_⟩
      · rintro _ ⟨⟩
        exact .inl ⟨p, made, rfl, rows, mark⟩
      · cases ended
    | @refused place s₁ _ t₁ t₂ _ key mark same native =>
      have unpredicted : (s'.memory.relations id).mark.predicted = noPrediction := by
        rw [keepsMarks_native place name native id, mark]
        rfl
      refine ⟨?_, fun _ _ => .inr unpredicted⟩
      rintro rows rfl
      obtain ⟨call, posed, rfl⟩ := Site.runs_native native
      refine .inr ⟨⟨call, same call posed, ?_⟩, unpredicted⟩
      exact List.mem_append_right _ (List.mem_singleton_self _)

/-- A hook with a predictor of stored samples in front of the host's own estimation. -/
def sampleHook : Hook := ⟨"hook", .stored, false, false⟩

/-- A planning call that uses predictions, with the prediction of an earlier call on its second
relation. -/
def planningGroups : Session where
  policies _ := { usePrediction := true }
  calls := [0]
  memory := { relations := fun id => if id = 2 then { mark := ⟨12, 7⟩ } else { index := 1 } }

/-- A grouping of the first path with one grouping set. -/
def groupingSets : Estimator.Grouping := ⟨[.object [("FuncCall", .null)]], 0, 2, some [.int 0]⟩

/-- The number of groups is the host's, and the prediction of an earlier call is still there. -/
theorem mark_of_estimate_kept :
    let site : Site := .groups groupingSets none
    ∃ t s', Runs (site.estimate (.hooked sampleHook (.native "host"))) planningGroups t (.ok 0.5)
        s' ∧ site.GivenBy "host" t 0.5 ∧ (s'.memory.relations 2).hasPrediction = true ∧
      (s'.memory.relations 2).mark = ⟨12, 7⟩ := by
  intro site
  have given : (outcome nothingStored (site.estimate (.hooked sampleHook (.native "host")))
      planningGroups).1.toOption = some 0.5 := by decide +kernel
  obtain ⟨t, run, -⟩ := exists_runs_ok given
  obtain ⟨kept, -⟩ := mark_of_estimate (show site.marked = some 2 from rfl) run
  obtain ⟨mark, native⟩ := kept ⟨rfl, rfl⟩
  refine ⟨t, _, run, native _ rfl, ?_, mark⟩
  rw [Relation.hasPrediction, mark]
  decide +kernel

end CardinalityAdvisor
