import CardinalityAdvisor.Proofs.Planning.Sites

/-!
# Consultations in a chain of hooks

What hooks that stand in front of each other consult is taken out of all that they ask, and what
one of them writes is followed to the ones behind it.

## Main definitions

* `consultations t`: what was asked of predictors, of the knowledge base and of the host's own
  estimation
* `Answered consults poses e t rows`: the estimators of a chain are consulted in their order up to
  the first one that answers
* `Site.Distinct`: no input of a join is the relation of the join itself

## Main results

* `runs_predict`: a hook hands on what its predictor answers
* `Site.source_noted`: what a hook writes does not change what a record is made of
-/

namespace CardinalityAdvisor

open CardinalityAdvisor.Action

variable {s s' : Session} {t : List Asked}

/-! ## Consultations -/

/-- Whether a request is one for an answer that can be an estimate, or decide about it. -/
def Request.isConsultation : Request → Bool
  | .predict _ _ | .native _ _ | .knowledge _ => true
  | _ => false

/-- What was asked of predictors, of the knowledge base and of the host's own estimation. -/
def consultations (t : List Asked) : List Asked := t.filter (·.request.isConsultation)

theorem consultations_append (t t' : List Asked) :
    consultations (t ++ t') = consultations t ++ consultations t' := List.filter_append ..

theorem consultations_eq_nil (h : ∀ x ∈ t, x.request.isConsultation = false) :
    consultations t = [] := by
  apply List.filter_eq_nil_iff.mpr
  intro x member
  rw [h x member]
  exact Bool.false_ne_true

theorem consultations_eq_self (h : ∀ x ∈ t, x.request.isConsultation = true) :
    consultations t = t := List.filter_eq_self.mpr h

/-- The estimators of a chain are consulted in their order up to the first one that answers. Those
behind it are not consulted. -/
inductive Answered (consults : Hook → List Asked → Option Float → Prop)
    (poses : NativeCall → Prop) : Estimator → List Asked → Float → Prop
  | native {name : String} {call : NativeCall} {rows : Float} : poses call →
      Answered consults poses (.native name) [⟨.native name call, .ok rows⟩] rows
  | answered {hook : Hook} {behind : Estimator} {t : List Asked} {rows : Float} :
      consults hook t (some rows) → Answered consults poses (.hooked hook behind) t rows
  | refused {hook : Hook} {behind : Estimator} {t t' : List Asked} {rows : Float} :
      consults hook t none → Answered consults poses behind t' rows →
      Answered consults poses (.hooked hook behind) (t ++ t') rows

/-! ## Predictors -/

/-- The answer of a predictor, unless it refused. -/
def Prediction.answer (p : Prediction) : Option Float := if p.isRefusal then none else some p.rows

/-- What a predictor is asked for a record. -/
def requestFor (s : Session) (record : ClauseRecord) : PredictionRequest :=
  ⟨record, s.current.spaceHash,
    Fingerprint.sampleKey s.current.spaceHash record.relationIds record.fingerprints⟩

theorem asks_consult (hook : Hook) (request : PredictionRequest) :
    Asks (fun r => r.isConsultation = true) (hook.consult request) := by
  unfold Hook.consult
  split
  · refine Asks.bind (asks_ask ?_) fun reply => ?_
    · rfl
    split
    · exact asks_pure _
    · exact asks_pure _
    · exact asks_throw _
    · refine (asks_ofResult _).bind fun rows => ?_
      split
      · exact asks_pure _
      · exact asks_pure _
  · refine Asks.bind (asks_ask ?_) fun reply => asks_ofResult _
    rfl

theorem asks_hookLog (hook : Hook) (entries : List Value) :
    Asks (fun r => r.isConsultation = false) (hook.log entries) := by
  unfold Hook.log logIf
  split
  · exact asks_ask rfl
  · exact asks_pure _

/-- Making a record consults nobody: only selectivities are asked for. -/
theorem consultations_of_record {source : RecordSource} {result : Except Fault ClauseRecord}
    (run : Runs source.record s t result s') : consultations t = [] := by
  apply consultations_eq_nil
  intro x member
  obtain ⟨restriction, join, same⟩ := source.asks_record run x member
  rw [same]
  rfl

theorem refused_isRefusal (key : Int) : (Prediction.refused key).isRefusal = true := by
  show decide (noPrediction < 0) = true
  decide +kernel

/-- A note in the log of a hook consults nobody and changes nothing. -/
theorem runs_hookLog_bind {α : Type} {hook : Hook} {entries : List Value} {value : α}
    {result : Except Fault α}
    (run : Runs (hook.log entries >>= fun _ => pure value) s t result s') :
    consultations t = [] ∧ result = .ok value ∧ s' = s := by
  refine ⟨?_, ?_⟩
  · apply consultations_eq_nil
    exact (asks_hookLog hook entries).bind (fun _ => asks_pure _) run
  obtain ⟨_, _, _, s₁, -, logged, last⟩ | ⟨_, -, failed⟩ := runs_bind.mp run
  · obtain rfl : s = s₁ := within_logIf _ _ _ logged
    exact (runs_pure.mp last).2
  · exact (failsWith_logIf (A := fun _ => True) (P := fun _ => False) _ _ _ failed
      fun _ _ => trivial).elim

/-- A hook hands on what its predictor answers, and notes it in its log. -/
theorem runs_predict {hook : Hook} {record : ClauseRecord} {result : Except Fault Prediction}
    (run : Runs (hook.predict record) s t result s') :
    (∃ fault, result = .error fault ∧
      Runs (hook.consult (requestFor s record)) s t (.error fault) s') ∨
    ∃ p handed, Runs (hook.consult (requestFor s record)) s (consultations t) (.ok p) s ∧
      result = .ok handed ∧ handed.sampleKey = p.sampleKey ∧ handed.answer = p.answer := by
  rw [Hook.predict, runs_get_bind] at run
  obtain ⟨t₁, t₂, p, s₁, rfl, consulted, run⟩ | ⟨fault, rfl, failed⟩ := runs_bind.mp run
  swap
  · exact .inl ⟨fault, rfl, failed⟩
  obtain rfl : s = s₁ := leavesSession_consult hook _ consulted
  have own : consultations t₁ = t₁ := consultations_eq_self (asks_consult hook _ consulted)
  right
  rw [consultations_append, own]
  split at run
  · rename_i refuses
    obtain ⟨nothing, rfl, -⟩ := runs_hookLog_bind run
    rw [nothing, List.append_nil]
    refine ⟨p, _, consulted, rfl, rfl, ?_⟩
    rw [Prediction.answer, Prediction.answer, if_pos refuses, if_pos (refused_isRefusal _)]
  · obtain ⟨nothing, rfl, -⟩ := runs_hookLog_bind run
    rw [nothing, List.append_nil]
    exact ⟨p, p, consulted, rfl, rfl, rfl⟩

/-! ## What hooks write for those behind them -/

section

variable {target : Option RelationId} {record : ClauseRecord}

theorem SameInput.isBase {r r' : Relation} (h : SameInput r r') : r'.isBase = r.isBase := by
  rw [Relation.isBase, Relation.isBase, h.index]

theorem Noted.baseCatalogIds (h : Noted target record s s') (id : RelationId) :
    s'.memory.baseCatalogIds (s'.memory.relations id) =
      s.memory.baseCatalogIds (s.memory.relations id) := by
  simp only [Memory.baseCatalogIds, (h.relations id).isBase, (h.relations id).index, h.rangeTable]

/-- Where no record was written, a path has the same source. -/
theorem Noted.pathSource_same {path : Path} (h : Noted target record s s')
    (record : (s'.memory.relations path.parent).record =
      (s.memory.relations path.parent).record) :
    s'.memory.pathSource path = s.memory.pathSource path := by
  have input := h.relations path.parent
  simp only [Memory.pathSource, Memory.pathRecord?, Memory.pathClauses, Memory.catalogIds,
    h.baseCatalogIds, input.isBase, record, input.members, input.index, input.restrictions,
    h.rangeTable, h.parameterizations]

/-- A record that was written is what its relation gives from then on, unless the path has a record
of its own. -/
theorem Noted.pathSource {path : Path} (h : Noted target record s s') :
    s'.memory.pathSource path = s.memory.pathSource path ∨
      s'.memory.pathSource path = .made record ∧ target = some path.parent := by
  rcases h.records path.parent with same | ⟨written, same⟩
  · exact .inl (h.pathSource_same same)
  unfold Memory.pathSource Memory.pathRecord?
  rw [same, h.parameterizations]
  cases path.parameters.bind fun id => (s.memory.parameterizations id).record with
  | some own => exact .inl rfl
  | none => exact .inr ⟨rfl, written⟩

theorem Noted.inputPath (h : Noted target record s s') (id : RelationId) :
    s'.memory.inputPath id = s.memory.inputPath id := by
  rw [Memory.inputPath, Memory.inputPath, (h.relations id).cheapest, h.paths]

end

namespace Site

/-- No input of a join is the relation of the join itself. -/
def Distinct : Site → Memory → Prop
  | .join id outer inner _ _, m =>
    (m.inputPath outer).parent ≠ id ∧ (m.inputPath inner).parent ≠ id
  | _, _ => True

variable {site : Site} {record : ClauseRecord}

theorem Distinct.noted (h : site.Distinct s.memory) (noted : Noted site.target record s s') :
    site.Distinct s'.memory := by
  cases site with
  | join id outer inner type clauses =>
    simp only [Distinct, noted.inputPath]
    exact h
  | _ => trivial

/-- What a hook writes does not change what the record of the place is made of. -/
theorem source_noted (h : site.Distinct s.memory) (noted : Noted site.target record s s') :
    site.source s'.memory = site.source s.memory := by
  have path (p : Path) (other : site.target ≠ some p.parent) :
      s'.memory.pathSource p = s.memory.pathSource p := by
    rcases noted.pathSource with same | ⟨-, written⟩
    · exact same
    · exact absurd written other
  cases site with
  | base id =>
    simp only [source, noted.baseCatalogIds, (noted.relations id).index,
      (noted.relations id).restrictions]
  | filteredBase id clauses =>
    simp only [source, noted.baseCatalogIds, (noted.relations id).index,
      (noted.relations id).restrictions]
  | join id outer inner type clauses =>
    obtain ⟨first, second⟩ := h
    simp only [source, noted.inputPath]
    rw [path _ (by simpa [target] using first.symm), path _ (by simpa [target] using second.symm)]
  | filteredJoin id outer inner type clauses =>
    simp only [source, noted.paths]
    rw [path _ (by simp [target]), path _ (by simp [target])]
  | groups g flags =>
    simp only [source, noted.paths]
    rw [path _ (by simp [target])]

/-- The source of a place still has fingerprints after a hook wrote its record. -/
theorem fingerprinted_noted (h : (site.source s.memory).Fingerprinted)
    (own : record.Fingerprinted) (noted : Noted site.target record s s') :
    (site.source s'.memory).Fingerprinted := by
  have path (p : Path) (h : (s.memory.pathSource p).Fingerprinted) :
      (s'.memory.pathSource p).Fingerprinted := by
    rcases noted.pathSource with same | ⟨same, -⟩
    · rw [same]
      exact h
    · rw [same]
      exact own
  cases site with
  | base id =>
    have distinct : (Site.base id).Distinct s.memory := trivial
    rw [source_noted distinct noted]
    exact h
  | filteredBase id clauses =>
    have distinct : (Site.filteredBase id clauses).Distinct s.memory := trivial
    rw [source_noted distinct noted]
    exact h
  | join id outer inner type clauses =>
    obtain ⟨first, second, clauses⟩ := h
    simp only [source, noted.inputPath]
    exact ⟨path _ first, path _ second, clauses⟩
  | filteredJoin id outer inner type clauses =>
    obtain ⟨first, second, clauses⟩ := h
    simp only [source, noted.paths]
    exact ⟨path _ first, path _ second, clauses⟩
  | groups g flags =>
    simp only [source, noted.paths]
    exact path _ h

end Site

end CardinalityAdvisor
