import CardinalityAdvisor.Proofs.Planning.Hooks
import CardinalityAdvisor.Proofs.Planning.Marks
import CardinalityAdvisor.Proofs.Planning.Reordering
import CardinalityAdvisor.Proofs.Planning.StoredSamples

/-!
# Keys of groupings

The key of a grouping is made of the key of its input and of the grouping expressions. For an input
whose relation was predicted, a hook takes the key of that prediction. For one that was refused, it
asks its predictor again, by the record of the path. That is the record of the relation, and so
gives the same key, unless the path has a parameterization with a record of its own.

## Main definitions

* `Asked.Echoes x`: a predictor answers under the key that it was asked for
* `RecordSource.HasKey space source key`: the key of the sample that a record of a source has
* `KeepsEstimate id s s'`: what an estimate has left on a relation is still there
* `Memory.inputKey`: the key of the input of a grouping

## Main results

* `RecordSource.HasKey.unique`: what a planner keeps determines the key
* `estimated_of_runs`: an estimated relation has a record and is marked with its key
* `group_key_of_estimated`: the key under which the sample of a grouping is looked up
-/

namespace CardinalityAdvisor

open CardinalityAdvisor.Action

variable {s s' : Session} {t : List Asked}

/-! ## Predictors that answer under the requested key -/

/-- A predictor answers, or refuses, under the key that it was asked for. -/
def Asked.Echoes : Asked → Prop
  | ⟨.predict _ request, reply⟩ => ∀ p, reply = .ok p → p.sampleKey = request.sampleKey
  | _ => True

section Predictions

variable {hook : Hook} {record : ClauseRecord} {p : Prediction}

theorem key_of_consult {request : PredictionRequest}
    (run : Runs (hook.consult request) s t (.ok p) s') (echoes : ∀ x ∈ t, x.Echoes) :
    p.sampleKey = request.sampleKey := by
  unfold Hook.consult at run
  split at run
  · obtain ⟨reply, rest, -, decided⟩ := runs_knowledge_bind.mp run
    have given {q : Prediction} {rest : List Asked} (own : q.sampleKey = request.sampleKey)
        (run : Runs (pure q) s rest (.ok p) s') : p.sampleKey = request.sampleKey := by
      obtain ⟨-, same, -⟩ := runs_pure.mp run
      cases same
      exact own
    split at decided
    · exact given rfl decided
    · exact given rfl decided
    · cases (runs_throw.mp decided).2.1
    · obtain ⟨rows, -, last⟩ | ⟨_, -, -, failed, -⟩ := runs_ofResult_bind.mp decided
      swap
      · cases failed
      split at last
      · exact given rfl last
      · exact given rfl last
  · obtain ⟨reply, rest, rfl, answered⟩ := runs_ask_bind.mp run
    obtain ⟨-, rfl, -⟩ := runs_ofResult.mp answered
    exact echoes _ List.mem_cons_self p rfl

/-- A prediction for a record has the key of the record. -/
theorem key_of_predict (run : Runs (hook.predict record) s t (.ok p) s')
    (echoes : ∀ x ∈ t, x.Echoes) : p.sampleKey = record.keyIn s.current.spaceHash := by
  obtain ⟨_, failed, -⟩ | ⟨q, handed, consulted, same, key, -⟩ := runs_predict run
  · cases failed
  cases same
  rw [key]
  exact key_of_consult consulted fun x member => echoes x (List.mem_of_mem_filter member)

end Predictions

/-! ## Keys of records -/

namespace RecordSource

/-- The key of the sample that a record of a source is described by. -/
def HasKey (space : Int) (source : RecordSource) (key : Int) : Prop :=
  ∃ cache record, source.Known cache record ∧ key = record.keyIn space

theorem Reordered.refl (source : RecordSource) : source.Reordered source := by
  induction source with
  | made record => exact .made record
  | own scope relationIds clauses => exact .own scope relationIds (.refl clauses)
  | join outer inner type clauses ihOuter ihInner =>
    exact .join type ihOuter ihInner (.refl clauses)

/-- **The key of a source** does not depend on what is remembered. -/
theorem HasKey.unique {space key key' : Int} {source : RecordSource}
    (h : source.HasKey space key) (h' : source.HasKey space key') : key' = key := by
  obtain ⟨cache, record, known, rfl⟩ := h
  obtain ⟨cache', record', known', rfl⟩ := h'
  exact (((Reordered.refl source).record known known').keyIn space).symm

end RecordSource

/-! ## Estimated relations -/

/-- A relation was estimated by a record: it has the record, and it is marked with its key, whether
its rows were predicted or not. -/
structure Relation.EstimatedBy (r : Relation) (space : Int) (record : ClauseRecord) : Prop where
  recorded : r.record = some record
  marked : r.mark.sampleKey = record.keyIn space

section Estimated

variable {site : Site} {hook : Hook} {name : String} {id : RelationId} {record : ClauseRecord}
  {rows : Float}

/-- A hook in front of the host's own estimation leaves its record on the relation, and marks the
relation with the key of the record. -/
theorem estimated_of_settle {otherwise : Action Unit} (place : site.target = some id)
    (estimate : site.estimate (.native name) = do otherwise; Site.rowsOf id)
    (run : Runs (hook.settle id record otherwise >>= fun _ => Site.rowsOf id) s t (.ok rows) s')
    (echoes : ∀ x ∈ t, x.Echoes) :
    (s'.memory.relations id).EstimatedBy s.current.spaceHash record := by
  simp only [Hook.settle, bind_assoc, updateRelation, runs_modify_bind] at run
  obtain ⟨t₁, t₂, p, s₂, rfl, consulted, run⟩ | ⟨_, failed, -⟩ := runs_bind.mp run
  swap
  · cases failed
  have key := key_of_predict consulted fun x member => echoes x (List.mem_append_left _ member)
  change p.sampleKey = record.keyIn s.current.spaceHash at key
  obtain rfl := leavesSession_predict hook record consulted
  cases refuses : p.isRefusal with
  | true =>
    simp only [refuses, if_true, annotate, updateRelation, bind_assoc, runs_modify_bind] at run
    rw [← estimate] at run
    have left : site.left name s' = site.left name _ := Site.left_native run
    rw [Site.left_of_target place, Site.left_of_target place] at left
    refine ⟨?_, ?_⟩
    · rw [left]
      simp
    · rw [keepsMarks_native site name run id]
      simpa [Mark.unpredicted] using key
  | false =>
    simp only [refuses, Bool.false_eq_true, if_false, adopt, updateRelation,
      runs_modify_bind] at run
    obtain ⟨-, -, rfl⟩ := Site.runs_rowsOf.mp run
    refine ⟨?_, ?_⟩
    · simp
    · simpa [Prediction.mark] using key

/-- **An estimated relation** has the record of the place, and is marked with its key. -/
theorem estimated_of_runs (on : Predicts s) (place : site.target = some id)
    (run : Runs (site.estimate (.hooked hook (.native name))) s t (.ok rows) s')
    (echoes : ∀ x ∈ t, x.Echoes) :
    ∃ cache record, (site.source s.memory).Known cache record ∧
      (s'.memory.relations id).EstimatedBy s.current.spaceHash record := by
  have ofRows : site.ofRows = true := by
    cases site with
    | groups => cases place
    | _ => rfl
  obtain ⟨t₁, t₂, record, s₁, rfl, made, run⟩ | ⟨_, failed, -⟩ :=
    runs_bind.mp ((Site.runs_hooked_iff on ofRows).mp run)
  swap
  · cases failed
  replace echoes := fun x member => echoes x (List.mem_append_right _ member)
  refine ⟨s₁.cache, record, RecordSource.known_of_runs made, ?_⟩
  rw [← (RecordSource.remembers _ made).current]
  cases site with
  | filteredBase | filteredJoin | groups => cases place
  | base other | join other =>
    obtain rfl : other = id := Option.some.inj place
    exact estimated_of_settle place rfl run echoes

end Estimated

/-! ## Groupings of estimated relations -/

/-- The planner goes on under the same policy, and what an estimate has left on a relation is still
there. -/
structure KeepsEstimate (id : RelationId) (s s' : Session) : Prop where
  current : s'.current = s.current
  recorded : (s'.memory.relations id).record = (s.memory.relations id).record
  mark : (s'.memory.relations id).mark = (s.memory.relations id).mark

/-- The record of the parameterization of a path, if it was estimated. -/
def Memory.parameterRecord? (m : Memory) (path : Path) : Option ClauseRecord :=
  path.parameters.bind fun id => (m.parameterizations id).record

/-- The key of the input of a grouping, by the key that its relation was estimated with: it is that
key if the relation is marked with a prediction, or if the path has no parameterization that was
estimated. Otherwise it is the key of the parameterization. -/
def Memory.inputKey (m : Memory) (space own : Int) (input : Path) : Int :=
  if (m.relations input.parent).hasPrediction then own
  else ((m.parameterRecord? input).map (·.keyIn space)).getD own

/-- A path over a relation with a record has the record of its parameterization, or else that of the
relation. -/
theorem pathSource_of_recorded {m : Memory} {path : Path} {record : ClauseRecord}
    (recorded : (m.relations path.parent).record = some record) :
    m.pathSource path = .made ((m.parameterRecord? path).getD record) := by
  unfold Memory.pathSource Memory.pathRecord? Memory.parameterRecord?
  rw [recorded]
  cases path.parameters.bind fun id => (m.parameterizations id).record with
  | none => rfl
  | some own => rfl

section Groupings

variable {hook : Hook} {g : Estimator.Grouping}

/-- The key of the input of a grouping is found by what was left on its relation. -/
theorem inputKey_of_estimated {input : Path} {record : ClauseRecord} {key : Int}
    (estimated : (s.memory.relations input.parent).EstimatedBy s.current.spaceHash record)
    (run : Runs (hook.inputKey input) s t (.ok key) s') (echoes : ∀ x ∈ t, x.Echoes) :
    key = s.memory.inputKey s.current.spaceHash (record.keyIn s.current.spaceHash) input := by
  rw [Hook.inputKey, runs_get_bind] at run
  dsimp only at run
  unfold Memory.inputKey
  split at run
  · obtain ⟨-, same, -⟩ := runs_pure.mp run
    cases same
    rename_i predicted
    rw [if_pos predicted, estimated.marked]
  rename_i unpredicted
  rw [if_neg unpredicted]
  obtain ⟨t₁, t₂, found, s₁, rfl, made, run⟩ | ⟨_, failed, -⟩ := runs_bind.mp run
  swap
  · cases failed
  rw [runs_pathRecord, pathSource_of_recorded estimated.recorded] at made
  obtain ⟨rfl, same, rfl⟩ := runs_pure.mp made
  cases same
  obtain ⟨t₂, t₃, p, s₂, rfl, predicted, last⟩ | ⟨_, failed, -⟩ := runs_bind.mp run
  swap
  · cases failed
  obtain ⟨rfl, same, -⟩ := runs_pure.mp last
  cases same
  rw [key_of_predict predicted fun x member => echoes x (by simp [member])]
  cases s₁.memory.parameterRecord? input with
  | none => rfl
  | some own => rfl

/-- The order of the grouping expressions does not matter. -/
theorem groupKey_of_perm (inputKey : Int) {exprs exprs' : List Json} (h : exprs.Perm exprs') :
    Fingerprint.groupKey inputKey exprs = Fingerprint.groupKey inputKey exprs' := by
  rw [Fingerprint.groupKey, Fingerprint.groupText, Fingerprint.multisetKey_of_perm (h.map _)]
  rfl

/-- The sample of a grouping of an estimated relation is looked up under the key of the grouping. -/
theorem lookedUp_of_estimated {record : ClauseRecord} {key : Int} {answer : Option Float}
    (estimated : (s.memory.relations (s.memory.paths g.input).parent).EstimatedBy
      s.current.spaceHash record)
    (run : Runs (hook.consultGroups g) s t (.ok (key, answer)) s') (echoes : ∀ x ∈ t, x.Echoes) :
    (∃ reply, loaded s.current.spaceHash key reply ∈ t) ∧
      key = Fingerprint.groupKey (s.memory.inputKey s.current.spaceHash
        (record.keyIn s.current.spaceHash) (s.memory.paths g.input)) g.exprs := by
  obtain ⟨-, t₁, inputKey, reply, -, -, asked, -⟩ := lookedUp_of_runs run
  refine ⟨⟨reply, ?_⟩, ?_⟩
  · refine List.mem_of_mem_filter (p := (·.request.isConsultation)) ?_
    show _ ∈ consultations t
    rw [asked]
    exact List.mem_append_right _ (List.mem_singleton_self _)
  -- What was looked up does not tell which record the input was found by, so the run is followed.
  obtain ⟨t₀, t', rfl, -, looksUp⟩ := runs_consultGroups run
  rw [Hook.lookUpGroups, runs_get_bind] at looksUp
  obtain ⟨t₁, t₂, inputKey, s₁, rfl, finds, looksUp⟩ | ⟨_, failed, -⟩ := runs_bind.mp looksUp
  swap
  · cases failed
  have own := inputKey_of_estimated estimated finds fun x member => echoes x (by simp [member])
  obtain ⟨key', same, looksUp⟩ | ⟨_, -, -, failed, -⟩ := runs_ofTree_bind.mp looksUp
  swap
  · cases failed
  obtain rfl := groupKey_of_groupKeyOf same
  rw [runs_get_bind] at looksUp
  obtain ⟨_, _, _, _, -, -, last⟩ | ⟨_, failed, -⟩ := runs_bind.mp looksUp
  swap
  · cases failed
  obtain ⟨-, same, -⟩ := runs_pure.mp last
  cases same
  rw [own]

/-- A grouping whose sample was looked up leaves the key of the sample on the relation of the
groups. -/
theorem marked_of_decideGroups {flags : Option Int} {name : String} {key : Int}
    {answer : Option Float} {result : Except Fault Float}
    (run : Runs (Site.decideGroups g flags (.native name) key answer) s t result s') :
    (s'.memory.relations g.relation).mark.sampleKey = key := by
  cases answer with
  | none =>
    simp only [Site.decideGroups, annotate, updateRelation, runs_modify_bind] at run
    rw [keepsMarks_native _ name run g.relation]
    simp [Mark.unpredicted]
  | some rows =>
    simp only [Site.decideGroups, adopt, updateRelation, runs_modify_bind] at run
    obtain ⟨-, -, rfl⟩ := runs_pure.mp run
    simp [Prediction.mark]

end Groupings

/-- **The key of a grouping** of an estimated relation. The relation has a key of its own, by what
the planner keeps about it, and the sample of the grouping is looked up under the key of its input
and its expressions, in any order. The key of the input is that of the relation, whether its rows
were predicted or refused, if the path has no parameterization that was estimated. If it has one,
the key is that of the relation only while the relation is marked with a prediction. -/
theorem group_key_of_estimated {site : Site} {hook : Hook} {name : String} {id : RelationId}
    {g : Estimator.Grouping} {flags : Option Int} {s s₁ s₂ s₃ : Session} {t t' : List Asked}
    {rows n : Float} (on : Predicts s) (place : site.target = some id)
    (estimated : Runs (site.estimate (.hooked hook (.native name))) s t (.ok rows) s₁)
    (kept : KeepsEstimate id s₁ s₂) (parent : (s₂.memory.paths g.input).parent = id)
    (supported : g.unsupported = false)
    (grouped : Runs ((Site.groups g flags).estimate (.hooked hook (.native name))) s₂ t' (.ok n) s₃)
    (echoes : ∀ x ∈ t ++ t', x.Echoes) :
    ∃ own, (∀ k, (site.source s.memory).HasKey s.current.spaceHash k ↔ k = own) ∧
      ∃ key reply, loaded s.current.spaceHash key reply ∈ t' ∧
        (s₃.memory.relations g.relation).mark.sampleKey = key ∧
        ∀ exprs, exprs.Perm g.exprs → key = Fingerprint.groupKey
          (s₂.memory.inputKey s.current.spaceHash own (s₂.memory.paths g.input)) exprs := by
  obtain ⟨cache, record, known, left⟩ := estimated_of_runs on place estimated fun x member =>
    echoes x (List.mem_append_left _ member)
  have policy : s₂.current = s.current :=
    kept.current.trans (confined_estimate _ _ estimated).current
  have estimatedInput : (s₂.memory.relations (s₂.memory.paths g.input).parent).EstimatedBy
      s₂.current.spaceHash record := by
    rw [parent, policy]
    exact ⟨kept.recorded.trans left.recorded, by rw [kept.mark, left.marked]⟩
  have predicts : Predicts s₂ := by
    rw [Predicts, policy]
    exact on
  rw [Site.runs_groups_hooked predicts supported] at grouped
  obtain ⟨t₁, t₂, ⟨key, answer⟩, s', rfl, looked, decided⟩ | ⟨_, failed, -⟩ := runs_bind.mp grouped
  swap
  · cases failed
  obtain ⟨⟨reply, asked⟩, keyed⟩ := lookedUp_of_estimated estimatedInput looked fun x member =>
    echoes x (by simp [member])
  rw [policy] at asked keyed
  have own : (site.source s.memory).HasKey s.current.spaceHash
      (record.keyIn s.current.spaceHash) := ⟨cache, record, known, rfl⟩
  refine ⟨_, fun k => ⟨own.unique, fun same => same ▸ own⟩, key, reply, ?_, ?_, ?_⟩
  · exact List.mem_append_left _ asked
  · exact marked_of_decideGroups decided
  · intro exprs reordered
    rw [groupKey_of_perm _ reordered, keyed]

/-- A planning call that uses predictions, with a path over its first relation whose
parameterization was estimated by two clauses. -/
def planningParameters : Session where
  policies _ := { usePrediction := true }
  calls := [0]
  memory :=
    { relations := fun id => if id = 2 then {} else { index := 1 }
      paths := fun _ => { parent := 1, parameters := some 0 }
      parameterizations := fun _ => { record := some { fingerprints := [5, 6] } } }

/-- A grouping of the first path by one column. -/
def groupingColumn : Estimator.Grouping := ⟨[.object [("ColumnRef", .null)]], 0, 2, none⟩

theorem nothingStored_echoes (request : Request) :
    Asked.Echoes ⟨request, nothingStored request⟩ := by
  cases request with
  | predict =>
    rintro _ ⟨⟩
    rfl
  | _ => trivial

theorem secondPredicts_echoes (request : Request) :
    Asked.Echoes ⟨request, secondPredicts request⟩ := by
  unfold secondPredicts
  split
  · rintro _ ⟨⟩
    rfl
  · exact nothingStored_echoes _

/-- While the rows of the relation are predicted, the sample of the grouping is looked up under the
key of the relation. After they were refused, it is looked up under that of the parameterization. -/
theorem group_key_of_estimated_parameters :
    let hooks : Estimator := .hooked ⟨"inner", .external "second", false, false⟩ (.native "host")
    let estimate := (Site.base 1).estimate hooks
    let group := (Site.groups groupingColumn none).estimate hooks
    let s := planningParameters
    let key inputKey := Fingerprint.groupKey inputKey groupingColumn.exprs
    let own := Fingerprint.sampleKey 0 [] []
    let parameters := Fingerprint.sampleKey 0 [] [5, 6]
    (∃ t s₁ u s₂ reply, Runs estimate s t (.ok 7) s₁ ∧ Runs group s₁ u (.ok 0.5) s₂ ∧
      loaded 0 (key own) reply ∈ u) ∧
    (∃ t s₁ u s₂ reply, Runs estimate s t (.ok 0.5) s₁ ∧ Runs group s₁ u (.ok 0.5) s₂ ∧
      loaded 0 (key parameters) reply ∈ u) ∧ key own ≠ key parameters := by
  intro hooks estimate group s key own parameters
  have known : ((Site.base 1).source s.memory).HasKey 0 own :=
    ⟨s.cache, {}, ⟨.empty, [], rfl, .nil, rfl⟩, rfl⟩
  have lookedUp {surroundings : (request : Request) → Request.Reply request} {rows : Float}
      {input : Int} (echoes : ∀ request, Asked.Echoes ⟨request, surroundings request⟩)
      (estimated : (outcome surroundings estimate s).1.toOption = some rows)
      (grouped : (outcome surroundings group
        (outcome surroundings estimate s).2).1.toOption = some 0.5)
      (found : (if ((outcome surroundings estimate s).2.memory.relations 1).hasPrediction then own
        else parameters) = input) :
      ∃ t s₁ u s₂ reply, Runs estimate s t (.ok rows) s₁ ∧ Runs group s₁ u (.ok 0.5) s₂ ∧
        loaded 0 (key input) reply ∈ u := by
    obtain ⟨t, first, replies⟩ := exists_runs_ok estimated
    obtain ⟨u, second, replies'⟩ := exists_runs_ok grouped
    have echo : ∀ x ∈ t ++ u, x.Echoes := by
      rintro ⟨request, reply⟩ member
      obtain rfl : reply = surroundings request :=
        (List.mem_append.mp member).elim (replies _) (replies' _)
      exact echoes request
    obtain ⟨-, -, paths, parameterizations, -, -, -⟩ := confined_estimate _ _ first
    have parent : ((outcome surroundings estimate s).2.memory.paths groupingColumn.input).parent =
        1 := by
      rw [paths]
      rfl
    have on : Predicts s := rfl
    obtain ⟨own', unique, key', reply, asked, -, keyed⟩ :=
      group_key_of_estimated on rfl first ⟨rfl, rfl, rfl⟩ parent rfl second echo
    obtain rfl := (unique own).mp known
    refine ⟨t, _, u, _, reply, first, second, ?_⟩
    rw [keyed _ (.refl _), paths, Memory.inputKey, Memory.parameterRecord?,
      parameterizations] at asked
    rw [← found]
    exact asked
  refine ⟨?_, ?_, ?_⟩
  · refine lookedUp secondPredicts_echoes (by decide +kernel) (by decide +kernel) ?_
    exact if_pos (by decide +kernel)
  · have unpredicted : ((outcome nothingStored estimate s).2.memory.relations 1).hasPrediction =
        false := by decide +kernel
    refine lookedUp nothingStored_echoes (by decide +kernel) (by decide +kernel) ?_
    exact if_neg (Bool.eq_false_iff.mp unpredicted)
  · decide +kernel

end CardinalityAdvisor
