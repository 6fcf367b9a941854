import CardinalityAdvisor.Proofs.Planning.Sources

/-!
# What hooks are put together from

Whatever a host's planner asks of hooks, they ask somebody for predictions, samples and estimates,
they write on what the planner keeps, and they collect clauses if the current policy uses
predictions. Rows and marks may be written anywhere, but a record on one relation at most, and
estimates are staged for the hooks of the chain only. What holds of these parts holds of every
estimate, so the five places and the hooks in front of each other are gone through once.

## Main definitions

* `Confined target names s s'`: at most the record of `target` and what is staged for the hooks in
  `names` has changed, besides rows, marks and remembered selectivities
* `Consults A P action`: an action only asks, and with replies that have the property `A` it fails
  only with faults that have the property `P`
* `HookPart A P W on action`: an action is put together from what hooks do, and `W` relates the
  sessions before and after each write

## Main results

* `HookPart.within`, `HookPart.planned`, `HookPart.asks`, `HookPart.failsWith`: what such an action
  changes, that it is a part of a run, what it asks and how it fails
* `Estimator.hookPart_baseRows`, `Estimator.hookPart_filteredBaseRows`,
  `Estimator.hookPart_joinRows`, `Estimator.hookPart_filteredJoinRows`, `Estimator.hookPart_groups`:
  every estimate is put together like that
-/

namespace CardinalityAdvisor

open CardinalityAdvisor.Action

/-! ## What hooks write -/

/-- All of a relation but what hooks write on it is the same. -/
structure SameInput (r r' : Relation) : Prop where
  members : r'.members = r.members
  index : r'.index = r.index
  restrictions : r'.restrictions = r.restrictions
  cheapest : r'.cheapest = r.cheapest

theorem SameInput.refl (r : Relation) : SameInput r r := ⟨rfl, rfl, rfl, rfl⟩

theorem SameInput.trans {r r₁ r' : Relation} (h : SameInput r r₁) (h' : SameInput r₁ r') :
    SameInput r r' :=
  ⟨h'.members.trans h.members, h'.index.trans h.index, h'.restrictions.trans h.restrictions,
    h'.cheapest.trans h.cheapest⟩

/-- At most the record of a relation and what is staged for some hooks has changed, besides rows,
marks and remembered selectivities. -/
structure Confined (target : Option RelationId) (names : List String) (s s' : Session) :
    Prop where
  current : s'.current = s.current
  rangeTable : s'.memory.rangeTable = s.memory.rangeTable
  paths : s'.memory.paths = s.memory.paths
  parameterizations : s'.memory.parameterizations = s.memory.parameterizations
  relations : ∀ id, SameInput (s.memory.relations id) (s'.memory.relations id)
  records : ∀ id, target ≠ some id →
    (s'.memory.relations id).record = (s.memory.relations id).record
  staged : ∀ name, name ∉ names → s'.staged name = s.staged name

/-- Something is written, and what planning calls share is the same. -/
structure Writes (target : Option RelationId) (names : List String) (s s' : Session) : Prop
    extends SamePlanning s s', Confined target names s s'

section Writes

variable {target : Option RelationId} {names : List String}

instance : Std.Refl (Confined target names) :=
  ⟨fun _ => ⟨rfl, rfl, rfl, rfl, fun _ => .refl _, fun _ _ => rfl, fun _ _ => rfl⟩⟩

instance : IsTrans Session (Confined target names) where
  trans _ _ _ h h' :=
    { current := h'.current.trans h.current
      rangeTable := h'.rangeTable.trans h.rangeTable
      paths := h'.paths.trans h.paths
      parameterizations := h'.parameterizations.trans h.parameterizations
      relations := fun id => (h.relations id).trans (h'.relations id)
      records := fun id other => (h'.records id other).trans (h.records id other)
      staged := fun name other => (h'.staged name other).trans (h.staged name other) }

theorem SameButRemembered.confined {s s' : Session} (h : SameButRemembered s s')
    (target : Option RelationId) (names : List String) : Confined target names s s' := by
  rw [h.same]
  exact ⟨rfl, rfl, rfl, rfl, fun _ => .refl _, fun _ _ => rfl, fun _ _ => rfl⟩

theorem writes_updateRelation {id : RelationId} {change : Relation → Relation}
    (input : ∀ r, SameInput r (change r))
    (recorded : target = some id ∨ ∀ r, (change r).record = r.record) (s : Session) :
    Writes target names s { s with memory := s.memory.updateRelation id change } := by
  refine ⟨⟨⟨rfl, rfl, rfl⟩, rfl, rfl⟩, ⟨rfl, rfl, rfl, rfl, fun other => ?_,
    fun other elsewhere => ?_, fun _ _ => rfl⟩⟩
  · show SameInput _ (if other = id then change (s.memory.relations id) else _)
    split
    · rename_i same
      rw [same]
      exact input _
    · exact .refl _
  · show (if other = id then change (s.memory.relations id) else _).record = _
    split
    · rename_i same
      subst same
      exact (recorded.resolve_left elsewhere) _
    · rfl

theorem writes_stage {name : String} (estimate : Option StagedEstimate) (listed : name ∈ names)
    (s : Session) : Writes target names s (s.stage name estimate) := by
  refine ⟨⟨⟨rfl, rfl, rfl⟩, rfl, rfl⟩, ⟨rfl, rfl, rfl, rfl, fun _ => .refl _, fun _ _ => rfl, ?_⟩⟩
  intro other unlisted
  exact if_neg (ne_of_mem_of_not_mem listed unlisted).symm

end Writes

/-! ## What hooks ask -/

/-- Whether a request is one of a hook, and not for the selectivity of a clause. -/
def Request.OfEstimate : Request → Prop
  | .native _ _ | .predict _ _ | .log _ _ | .warn _ => True
  | .knowledge (.loadSample _ _) => True
  | _ => False

/-- Whether a request is one of a hook. Of the knowledge base, only samples are asked. -/
def Request.OfHook : Request → Prop
  | .selectivity _ _ | .native _ _ | .predict _ _ | .log _ _ | .warn _ => True
  | .knowledge (.loadSample _ _) => True
  | _ => False

theorem Request.OfEstimate.ofHook {request : Request} (h : request.OfEstimate) :
    request.OfHook := by
  unfold OfEstimate at h
  split at h <;> trivial

theorem Request.IsSelectivity.ofHook {request : Request} (h : request.IsSelectivity) :
    request.OfHook := by
  obtain ⟨restriction, join, rfl⟩ := h
  trivial

/-- An action asks for predictions, samples and estimates, and does nothing else. With replies that
have one property, it fails only with faults that have the other one. -/
inductive Consults (A : Asked → Prop) (P : Fault → Prop) : {α : Type} → Action α → Prop
  | pure {α : Type} (value : α) : Consults A P (pure value)
  | get : Consults A P get
  | ofResult {α : Type} {r : Except Fault α} : (∀ fault, r = .error fault → P fault) →
      Consults A P (ofResult r)
  | ask {α : Type} {request : Request} {f : request.Reply → Action α} : request.OfEstimate →
      (∀ reply, A ⟨request, reply⟩ → Consults A P (f reply)) →
      Consults A P (Action.ask request >>= f)
  | bind {α β : Type} {action : Action α} {f : α → Action β} : Consults A P action →
      (∀ value, Consults A P (f value)) → Consults A P (action >>= f)

/-- An action is put together from what hooks do. Clauses are collected only where the current
policy is known to use predictions. -/
inductive HookPart (A : Asked → Prop) (P : Fault → Prop) (W : Session → Session → Prop) :
    (on : Bool) → {α : Type} → Action α → Prop
  | consult {on : Bool} {α : Type} {action : Action α} : Consults A P action →
      HookPart A P W on action
  | collect (place : Place) (restrictions : List Restriction) : (∀ cause, P (.tree cause)) →
      HookPart A P W true (collect place restrictions)
  | modify {on : Bool} {change : Session → Session} : (∀ s, W s (change s)) →
      HookPart A P W on (modify change)
  | ifPredicting {on : Bool} {α : Type} {f : Bool → Action α} : HookPart A P W true (f true) →
      HookPart A P W on (f false) → HookPart A P W on (predicting >>= f)
  | bind {on : Bool} {α β : Type} {action : Action α} {f : α → Action β} :
      HookPart A P W on action → (∀ value, HookPart A P W on (f value)) →
      HookPart A P W on (action >>= f)

section Consequences

variable {A : Asked → Prop} {P : Fault → Prop} {W W' R : Session → Session → Prop} {on : Bool}
  {α : Type} {action : Action α}

namespace Consults

/-- What only asks leaves the session as it is. -/
theorem leavesSession (h : Consults (fun _ => True) P action) : LeavesSession action := by
  induction h with
  | pure value => exact within_pure value
  | get => exact within_get
  | ofResult => exact within_ofResult _
  | ask _ _ ih => exact (within_ask _).bind fun reply => ih reply trivial
  | bind _ _ ih ih' => exact ih.bind ih'

theorem asks (h : Consults (fun _ => True) P action) : Asks Request.OfEstimate action := by
  induction h with
  | pure value => exact asks_pure value
  | get => exact asks_get
  | ofResult => exact asks_ofResult _
  | ask ofEstimate _ ih => exact (asks_ask ofEstimate).bind fun reply => ih reply trivial
  | bind _ _ ih ih' => exact ih.bind ih'

theorem failsWith (h : Consults A P action) : FailsWith A P action := by
  induction h with
  | pure value => exact failsWith_pure value
  | get => exact failsWith_get
  | ofResult faults => exact failsWith_ofResult faults
  | ask _ _ ih => exact failsWith_ask_bind ih
  | bind _ _ ih ih' => exact ih.bind ih'

theorem ite {c : Prop} [Decidable c] {a b : Action α} (ha : Consults A P a)
    (hb : Consults A P b) : Consults A P (if c then a else b) := by
  split
  · exact ha
  · exact hb

end Consults

namespace HookPart

theorem ite {c : Prop} [Decidable c] {a b : Action α} (ha : HookPart A P W on a)
    (hb : HookPart A P W on b) : HookPart A P W on (if c then a else b) := by
  split
  · exact ha
  · exact hb

theorem mono (part : HookPart A P W on action) (more : ∀ ⦃s s'⦄, W s s' → W' s s') :
    HookPart A P W' on action := by
  induction part with
  | consult h => exact .consult h
  | collect _ _ trees => exact .collect _ _ trees
  | modify writes => exact .modify fun s => more (writes s)
  | ifPredicting _ _ ih ih' => exact .ifPredicting ih ih'
  | bind _ _ ih ih' => exact .bind ih ih'

/-- **What is put together from what hooks do** stays within a preorder if that is true of each
write and of collecting clauses. -/
theorem within [Std.Refl R] [IsTrans Session R] (part : HookPart (fun _ => True) P W on action)
    (writes : ∀ ⦃s s'⦄, W s s' → R s s')
    (collects : ∀ place restrictions, Within R (CardinalityAdvisor.collect place restrictions)) :
    Within R action := by
  induction part with
  | consult h => exact within_of_leavesSession h.leavesSession
  | collect place restrictions => exact collects place restrictions
  | modify changed => exact within_modify fun s => writes (changed s)
  | @ifPredicting _ _ f _ _ ih ih' =>
    refine (within_get.bind fun _ => within_pure _ : Within R predicting).bind fun uses => ?_
    cases uses with
    | true => exact ih
    | false => exact ih'
  | bind _ _ ih ih' => exact ih.bind ih'

/-- **It is a part of a run** in which no classification fails, and that leaves the planning calls in
progress as they are, if the current policy uses predictions where it has to. -/
theorem planned {s s' : Session} {t : List Asked} {result : Except Fault α}
    (part : HookPart (fun _ => True) P W on action)
    (writes : ∀ ⦃s s'⦄, W s s' → SamePlanning s s') (run : Runs action s t result s') :
    SameCalls s s' ∧ ((on = true → Predicts s) → PlannedBy Event.Classifies s s') := by
  induction part generalizing s t s' with
  | consult h =>
    obtain rfl : s = s' := h.leavesSession run
    exact ⟨⟨rfl, rfl, rfl⟩, fun _ => refl_of (PlannedBy Event.Classifies) s⟩
  | collect place restrictions =>
    obtain ⟨own, looks, -⟩ := collect_looksUp run
    exact ⟨looks.sameCalls, fun predicts => looks.planned (predicts rfl)⟩
  | modify changed =>
    obtain ⟨-, -, rfl⟩ := runs_modify.mp run
    exact ⟨(writes (changed s)).toSameCalls, fun _ => (writes (changed s)).planned⟩
  | @ifPredicting _ _ f _ _ ih ih' =>
    change Runs (f s.current.usePrediction) s t result s' at run
    cases predicts : s.current.usePrediction with
    | true =>
      rw [predicts] at run
      obtain ⟨same, planned⟩ := ih run
      exact ⟨same, fun _ => planned fun _ => predicts⟩
    | false =>
      rw [predicts] at run
      exact ih' run
  | bind _ _ ih ih' =>
    obtain ⟨_, _, value, s₁, -, first, later⟩ | ⟨fault, -, failed⟩ := runs_bind.mp run
    · obtain ⟨same, planned⟩ := ih first
      obtain ⟨same', planned'⟩ := ih' value later
      refine ⟨same.trans same', fun predicts => ?_⟩
      have goesOn := planned' fun uses => same.predicts (predicts uses)
      exact trans_of (PlannedBy Event.Classifies) (planned predicts) goesOn
    · exact ih failed

theorem asks (part : HookPart (fun _ => True) P W on action) : Asks Request.OfHook action := by
  induction part with
  | consult h => exact h.asks.mono fun _ => Request.OfEstimate.ofHook
  | collect => exact asks_collect.mono fun _ => Request.IsSelectivity.ofHook
  | modify => exact asks_modify _
  | @ifPredicting _ _ f _ _ ih ih' =>
    refine (asks_get.bind fun _ => asks_pure _ : Asks Request.OfHook predicting).bind fun uses => ?_
    cases uses with
    | true => exact ih
    | false => exact ih'
  | bind _ _ ih ih' => exact ih.bind ih'

theorem failsWith (tells : Tells A P) (part : HookPart A P W on action) :
    FailsWith A P action := by
  induction part with
  | consult h => exact h.failsWith
  | collect place restrictions trees =>
    exact failsWith_collect tells (fun cause _ => trees cause) fun _ _ _ cause _ => trees cause
  | modify => exact failsWith_modify _
  | @ifPredicting _ _ f _ _ ih ih' =>
    refine (failsWith_get.bind fun _ => failsWith_pure _ : FailsWith A P predicting).bind ?_
    rintro (_ | _)
    · exact ih'
    · exact ih
  | bind _ _ ih ih' => exact ih.bind ih'

end HookPart

end Consequences

/-! ## Predictions -/

section Parts

variable {A : Asked → Prop} {P : Fault → Prop} {on : Bool}

namespace Consults

theorem request {request : Request} (h : request.OfEstimate) :
    Consults A P (Action.ask request) := by
  rw [← bind_pure (Action.ask request)]
  exact .ask h fun _ _ => .pure _

theorem ofTree {α : Type} {r : TreeResult α} (trees : ∀ cause, P (.tree cause)) :
    Consults A P (Action.ofTree r) := .ofResult (fault_of_ofTree fun cause _ => trees cause)

theorem log (hook : Hook) (entries : List Value) : Consults A P (hook.log entries) := by
  unfold Hook.log logIf
  split
  · exact .request trivial
  · exact .pure _

theorem askNative (tells : Tells A P) (name : String) (call : NativeCall) :
    Consults A P (CardinalityAdvisor.askNative name call) := by
  refine .ask trivial fun reply answers => .ofResult ?_
  rintro fault rfl
  exact tells.native _ _ _ answers

/-- A fault with which a sample cannot be loaded is handed on, unless the knowledge base is
unavailable. -/
theorem throw {α : Type} (tells : Tells A P) {space key : Int} {fault : Fault}
    (answers : A ⟨.knowledge (.loadSample space key), .error fault⟩)
    (other : ∀ cause, fault ≠ .unavailable cause) : Consults A P (throw fault : Action α) := by
  have handed : ∀ f, (.error fault : Except Fault α) = .error f → P f := by
    rintro _ ⟨⟩
    refine (tells.unavailable _ _ _ answers).resolve_left ?_
    rintro ⟨cause, same⟩
    exact other cause same
  exact .ofResult handed

theorem predictStored (tells : Tells A P) (space key : Int) :
    Consults A P (CardinalityAdvisor.predictStored space key) := by
  refine .ask trivial fun reply answers => ?_
  split
  · exact .pure _
  · exact .pure _
  · rename_i other
    exact throw tells answers other
  · refine .bind (.ofResult fun fault => tells.sample _ _ _ _ answers) fun rows => ?_
    split
    · exact .pure _
    · exact .pure _

theorem predictGroups (tells : Tells A P) (hook : Hook) (space key : Int) :
    Consults A P (CardinalityAdvisor.predictGroups hook.log space key) := by
  refine .ask trivial fun reply answers => ?_
  split
  · exact .bind (log hook _) fun _ => .pure _
  · rename_i other
    exact throw tells answers other
  · exact .pure _
  · split
    · exact .bind (.request trivial) fun _ => .pure _
    · rename_i single
      refine .bind (.ofResult fun fault failed => ?_) fun _ => .bind (log hook _) fun _ => .pure _
      have failed := sampleRows_of_exponential (Decidable.not_not.mp single) failed
      exact tells.sample _ _ _ _ answers failed

theorem consult (tells : Tells A P) (hook : Hook) (request : PredictionRequest) :
    Consults A P (hook.consult request) := by
  unfold Hook.consult
  split
  · exact predictStored tells _ _
  · refine .ask trivial fun reply answers => .ofResult ?_
    rintro fault rfl
    exact tells.predict _ _ _ answers

theorem predict (tells : Tells A P) (hook : Hook) (record : ClauseRecord) :
    Consults A P (hook.predict record) := by
  refine .bind .get fun s => .bind (consult tells hook _) fun prediction => .ite ?_ ?_
  · exact .bind (log hook _) fun _ => .pure _
  · exact .bind (log hook _) fun _ => .pure _

end Consults

/-- A prediction leaves the session as it is. -/
theorem leavesSession_consult (hook : Hook) (request : PredictionRequest) :
    (hook.consult request).LeavesSession :=
  (Consults.consult tells_anything hook request).leavesSession

theorem leavesSession_predict (hook : Hook) (record : ClauseRecord) :
    (hook.predict record).LeavesSession :=
  (Consults.predict tells_anything hook record).leavesSession

theorem leavesSession_predictGroups (hook : Hook) (space key : Int) :
    (predictGroups hook.log space key).LeavesSession :=
  (Consults.predictGroups tells_anything hook space key).leavesSession

/-! ## Records -/

namespace HookPart

variable {W : Session → Session → Prop}

theorem pathRecord (trees : ∀ cause, P (.tree cause)) (path : Path) :
    HookPart A P W true (CardinalityAdvisor.pathRecord path) := by
  refine .bind (.consult .get) fun s => ?_
  dsimp only
  split
  · exact .consult (.pure _)
  · exact .collect _ _ trees

theorem baseRecord (trees : ∀ cause, P (.tree cause)) (id : RelationId)
    (further : List Restriction) :
    HookPart A P W true (CardinalityAdvisor.baseRecord id further) :=
  .bind (.consult .get) fun _ => .collect _ _ trees

theorem joinRecord (trees : ∀ cause, P (.tree cause)) (outer inner : Path) (join : JoinType)
    (clauses : List Restriction) :
    HookPart A P W true (CardinalityAdvisor.joinRecord outer inner join clauses) :=
  .bind (pathRecord trees _) fun _ => .bind (pathRecord trees _) fun _ => .collect _ _ trees

theorem inputKey (tells : Tells A P) (trees : ∀ cause, P (.tree cause)) (hook : Hook)
    (input : Path) : HookPart A P W true (hook.inputKey input) := by
  refine .bind (.consult .get) fun s => .ite (.consult (.pure _)) ?_
  refine .bind (pathRecord trees _) fun _ => .bind (.consult (.predict tells hook _)) fun _ => ?_
  exact .consult (.pure _)

/-! ## Estimates that are settled -/

variable {target : Option RelationId} {names : List String}

theorem annotate (id : RelationId) (mark : Mark) :
    HookPart A P (Writes target names) on (CardinalityAdvisor.annotate id mark) :=
  .modify (writes_updateRelation (fun _ => ⟨rfl, rfl, rfl, rfl⟩) (.inr fun _ => rfl))

theorem adopt (id : RelationId) (prediction : Prediction) :
    HookPart A P (Writes target names) on (CardinalityAdvisor.adopt id prediction) :=
  .modify (writes_updateRelation (fun _ => ⟨rfl, rfl, rfl, rfl⟩) (.inr fun _ => rfl))

theorem rows (id : RelationId) (rows : Float) :
    HookPart A P (Writes target names) on (updateRelation id fun r => { r with rows }) :=
  .modify (writes_updateRelation (fun _ => ⟨rfl, rfl, rfl, rfl⟩) (.inr fun _ => rfl))

theorem stage {hook : Hook} (estimate : Option StagedEstimate) (listed : hook.name ∈ names) :
    HookPart A P (Writes target names) on (CardinalityAdvisor.stage hook estimate) :=
  .modify (writes_stage estimate listed)

theorem settle (tells : Tells A P) (hook : Hook) (id : RelationId) (record : ClauseRecord)
    {otherwise : Action Unit} (h : HookPart A P (Writes (some id) names) on otherwise) :
    HookPart A P (Writes (some id) names) on (hook.settle id record otherwise) := by
  have recorded : HookPart A P (Writes (some id) names) on
      (updateRelation id fun r => { r with record := some record }) :=
    .modify (writes_updateRelation (fun _ => ⟨rfl, rfl, rfl, rfl⟩) (.inl rfl))
  refine .bind recorded fun _ => .bind (.consult (.predict tells hook _)) fun _ => ?_
  exact .ite (.bind (annotate _ _) fun _ => h) (adopt _ _)

theorem settleFiltered (tells : Tells A P) {hook : Hook} (record : ClauseRecord)
    {otherwise : Action Float} (listed : hook.name ∈ names)
    (h : HookPart A P (Writes target names) on otherwise) :
    HookPart A P (Writes target names) on (hook.settleFiltered record otherwise) := by
  refine .bind (.consult (.predict tells hook _)) fun _ => .bind (stage _ listed) fun _ => ?_
  exact .ite h (.consult (.pure _))

end HookPart

/-! ## The places at which cardinalities are estimated

Each induction is on the chain of hooks: what stands behind a hook does what hooks do. -/

namespace Estimator

variable {target : Option RelationId} {names : List String}

/-- The hooks of a chain. -/
def hookNames : Estimator → List String
  | .native _ => []
  | .hooked hook behind => hook.name :: behind.hookNames

theorem hookPart_baseRows (tells : Tells A P) (trees : ∀ cause, P (.tree cause)) (e : Estimator)
    (id : RelationId) : HookPart A P (Writes (some id) names) on (e.baseRows id) := by
  induction e generalizing on with
  | native name =>
    exact .bind (.consult .get) fun _ => .bind (.consult (.askNative tells _ _)) fun _ => .rows _ _
  | hooked hook behind ih =>
    refine .ifPredicting ?_ (.bind (.annotate _ _) fun _ => ih)
    exact .bind (.baseRecord trees _ _) fun record => .settle tells hook id record ih

theorem hookPart_filteredBaseRows (tells : Tells A P) (trees : ∀ cause, P (.tree cause))
    (e : Estimator) (id : RelationId) (clauses : List Restriction) (listed : e.hookNames ⊆ names) :
    HookPart A P (Writes target names) on (e.filteredBaseRows id clauses) := by
  induction e generalizing on with
  | native name => exact .bind (.consult .get) fun _ => .consult (.askNative tells _ _)
  | hooked hook behind ih =>
    obtain ⟨own, others⟩ := List.cons_subset.mp listed
    refine .ifPredicting ?_ (.bind (.stage _ own) fun _ => ih others)
    exact .bind (.baseRecord trees _ _) fun record => .settleFiltered tells record own (ih others)

theorem hookPart_joinRows (tells : Tells A P) (trees : ∀ cause, P (.tree cause)) (e : Estimator)
    (id outer inner : RelationId) (join : JoinType) (clauses : List Restriction) :
    HookPart A P (Writes (some id) names) on (e.joinRows id outer inner join clauses) := by
  induction e generalizing on with
  | native name =>
    exact .bind (.consult .get) fun _ => .bind (.consult (.askNative tells _ _)) fun _ => .rows _ _
  | hooked hook behind ih =>
    refine .ifPredicting ?_ (.bind (.annotate _ _) fun _ => ih)
    refine .bind (.consult .get) fun _ => .bind (.joinRecord trees _ _ _ _) fun record => ?_
    exact .settle tells hook id record ih

theorem hookPart_filteredJoinRows (tells : Tells A P) (trees : ∀ cause, P (.tree cause))
    (e : Estimator) (id : RelationId) (outer inner : PathId) (join : JoinType)
    (clauses : List Restriction) (listed : e.hookNames ⊆ names) :
    HookPart A P (Writes target names) on (e.filteredJoinRows id outer inner join clauses) := by
  induction e generalizing on with
  | native name => exact .bind (.consult .get) fun _ => .consult (.askNative tells _ _)
  | hooked hook behind ih =>
    obtain ⟨own, others⟩ := List.cons_subset.mp listed
    refine .ifPredicting ?_ (.bind (.stage _ own) fun _ => ih others)
    refine .bind (.consult .get) fun _ => .bind (.joinRecord trees _ _ _ _) fun record => ?_
    exact .settleFiltered tells record own (ih others)

theorem hookPart_groups (tells : Tells A P) (trees : ∀ cause, P (.tree cause)) (e : Estimator)
    (g : Grouping) (flags : Option Int) :
    HookPart A P (Writes target names) on (e.groups g flags) := by
  induction e generalizing on flags with
  | native name =>
    refine .bind (.consult .get) fun _ => .bind (.consult (.askNative tells _ _)) fun _ => ?_
    exact .consult (.pure _)
  | hooked hook behind ih =>
    have unpredicted {on : Bool} (mark : Mark) (flags : Option Int) :
        HookPart A P (Writes target names) on (do
          annotate g.relation mark
          behind.groups g flags) := .bind (.annotate _ _) fun _ => ih flags
    refine .ifPredicting (.ite (unpredicted _ _) (.ite (ih flags) ?_)) (unpredicted _ _)
    refine .ite (.bind (.consult (.request trivial)) fun _ => ?_) ?_
    all_goals
      refine .bind (.consult .get) fun _ => .bind (.inputKey tells trees _ _) fun _ => ?_
      refine .bind (.consult (.ofTree trees)) fun _ => .bind (.consult .get) fun _ => ?_
      refine .bind (.consult (.predictGroups tells hook _ _)) fun rows => ?_
      cases rows with
      | some rows => exact .bind (.adopt _ _) fun _ => .consult (.pure _)
      | none => exact unpredicted _ _

end Estimator

end Parts

end CardinalityAdvisor
