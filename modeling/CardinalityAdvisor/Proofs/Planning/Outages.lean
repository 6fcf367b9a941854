import CardinalityAdvisor.Proofs.Planning.Hooks
import CardinalityAdvisor.Proofs.Planning.Nesting
import CardinalityAdvisor.Proofs.Session.Endurance

/-!
# Outages while a query is planned

The knowledge base may fail at any call, or the server behind it at any statement. No such fault
reaches the host's planner: the classification of a query gives a policy all the same, the planner
hook runs its delegate, and a hook that cannot load a sample leaves the estimate to the estimator
behind it.

## Main definitions

* `Asked.Reports fault`: the host itself reported a fault

## Main results

* `contained_of_hookCall`: a hook lets no outage through but one that the host reported
* `outages_contained`: the same of the classification, of the planner hook and of all hooks
-/

namespace CardinalityAdvisor

open CardinalityAdvisor.Action

/-- A fault that is reported by the host's own estimation, or by a predictor of the host. -/
def Asked.Reports (fault : Fault) : Asked → Prop
  | ⟨.selectivity _ _, reply⟩ | ⟨.native _ _, reply⟩ => reply = .error fault
  | ⟨.predict _ _, reply⟩ => reply = .error fault
  | _ => False

/-! ## Hooks -/

section Hooks

variable {fault : Fault}

theorem Fault.IsOutage.ne_tree (outage : fault.IsOutage) (cause : TreeFault) :
    Fault.tree cause ≠ fault := by
  rintro rfl
  obtain ⟨_, ⟨⟩⟩ | ⟨_, ⟨⟩⟩ := outage

theorem not_isOutage_of_sampleRows {sample : Sample} {f : Fault}
    (h : sampleRows sample = .error f) : ¬ f.IsOutage := by
  unfold sampleRows at h
  split at h
  · cases h
  · unfold exponential at h
    split at h
    · cases h
      rintro (⟨_, ⟨⟩⟩ | ⟨_, ⟨⟩⟩)
    · cases h

theorem Fault.IsOutage.tells (outage : fault.IsOutage) :
    Tells (fun x => x.IsServed ∧ ¬ x.Reports fault) (· ≠ fault) where
  selectivity _ _ _ := by
    rintro answers rfl
    exact answers.2 rfl
  native _ _ _ := by
    rintro answers rfl
    exact answers.2 rfl
  predict _ _ _ := by
    rintro answers rfl
    exact answers.2 rfl
  unavailable _ _ _ answers := .inl answers.1.isUnavailable
  sample _ _ _ _ := by
    rintro - failed rfl
    exact not_isOutage_of_sampleRows failed outage

end Hooks

theorem SameCalls.current {s s' : Session} (h : SameCalls s s') : s'.current = s.current := by
  unfold Session.current
  rw [h.calls, h.policies]

/-- **A hook** lets no outage through but one that the host reported, and leaves the current policy
alone. -/
theorem contained_of_hookCall {α : Type} {action : Action α} {s s' : Session} {t : List Asked}
    {result : Except Fault α} (call : HookCall action) (served : ∀ x ∈ t, x.IsServed)
    (run : Runs action s t result s') :
    s'.current = s.current ∧
      ∀ fault, result = .error fault → fault.IsOutage → ∃ x ∈ t, x.Reports fault := by
  refine ⟨(planned_of_hookCall call run).1.current, ?_⟩
  rintro fault rfl outage
  have part : HookPart (fun x => x.IsServed ∧ ¬ x.Reports fault) (· ≠ fault) SamePlanning false
      action := hookPart_of_hookCall outage.tells outage.ne_tree call
  -- If the host had not reported the fault, no part of the action could have failed with it.
  by_contra silent
  refine part.failsWith outage.tells run (fun x member => ⟨served x member, fun reports => ?_⟩) rfl
  exact silent ⟨x, member, reports⟩

/-! ## The planner hook -/

/-- **A planning call** begins whatever calls to the knowledge base fail. After an outage, the
current policy is disabled. -/
theorem exists_opened {own : List String} {mode : Mode} {query : Query} {stmt : Json}
    {explained : Bool} {s s' : Session} {t : List Asked} {result : Except Fault PlanningCall}
    (statement : stmt.IsStatement ∨ stmt.IsUtility) (poses : query.Poses t stmt explained)
    (known : s.settings.resolvedMode = .ok mode) (typed : s.WellTyped) (serves : Serves own t)
    (run : Runs (openCall query) s t result s') :
    ∃ call, result = .ok call ∧
      ((∃ x ∈ t, x.IsOutage) → s'.current.isDisabled = true) := by
  obtain ⟨classified, s₁, classifying, rfl, rfl⟩ | ⟨_, -, failed⟩ := runs_openCall.mp run
  swap
  · obtain ⟨_, same, -⟩ := exists_classified statement poses known typed serves failed
    cases same
  obtain ⟨_, same, disabled⟩ := exists_classified statement poses known typed serves classifying
  cases same
  refine ⟨_, rfl, fun outage => ?_⟩
  show ((s₁.push classified.policy).policies s₁.nextPolicy).isDisabled = true
  rw [Session.push_policies_self]
  exact disabled outage

/-- **The planner hook** runs its delegate once, with everything that it was given itself, and gives
its result, whatever calls to the knowledge base fail. After an outage, the delegate begins with a
disabled policy. -/
theorem exists_delegated {β γ : Type} {own : List String} {mode : Mode} {query : Query}
    {stmt : Json} {explained : Bool} {delegate : Query → γ → Action β} {arguments : γ}
    {s s' : Session} {t : List Asked} {result : Except Fault β}
    (statement : stmt.IsStatement ∨ stmt.IsUtility) (poses : query.Poses t stmt explained)
    (known : s.settings.resolvedMode = .ok mode) (typed : s.WellTyped) (serves : Serves own t)
    (run : Runs (planHook (fun a => a.run) (fun query given => (delegate query given).run) query
      arguments : Action β) s t result s') :
    ∃ d, Delegated query (delegate query arguments) s t result s' d ∧
      ((∃ x ∈ d.opening, x.IsOutage) → d.begun.current.isDisabled = true) := by
  obtain ⟨_, -, refused⟩ | ⟨d, delegated⟩ := refused_or_delegated run
  · obtain ⟨_, same, -⟩ := exists_opened statement poses known typed serves refused
    cases same
  obtain ⟨s₁, opened, begun⟩ := delegated.opened
  have within : d.opening ⊆ t := by
    rw [delegated.exchanges, List.append_assoc]
    exact List.subset_append_left _ _
  obtain ⟨_, same, disabled⟩ :=
    exists_opened statement (poses.mono within) known typed (serves.mono within) opened
  cases same
  refine ⟨d, delegated, ?_⟩
  rw [begun]
  exact disabled

/-- **Outages do not reach the host's planner.** Let a query pose a statement under a known mode and
settings of the right types, and let any calls to the knowledge base fail. Its classification gives
a policy, and after an outage a disabled one. The planner hook runs its delegate once with
everything that it was given, under that policy, and gives its result. No hook lets an outage
through but one that the host itself reported, and none changes the current policy. -/
theorem outages_contained {own : List String} {mode : Mode} {stmt : Json} {explained : Bool}
    {s : Session} (statement : stmt.IsStatement ∨ stmt.IsUtility)
    (known : s.settings.resolvedMode = .ok mode) (typed : s.WellTyped) :
    (∀ query t result s', query.Poses t stmt explained → Serves own t →
      Runs (classify query) s t result s' →
      ∃ classified, result = .ok classified ∧
        ((∃ x ∈ t, x.IsOutage) → classified.policy.isDisabled = true)) ∧
    (∀ (β γ : Type) (delegate : Query → γ → Action β) query arguments t result s',
      query.Poses t stmt explained → Serves own t →
      Runs (planHook (fun a => a.run) (fun query given => (delegate query given).run) query
        arguments : Action β) s t result s' →
      ∃ d, Delegated query (delegate query arguments) s t result s' d ∧
        ((∃ x ∈ d.opening, x.IsOutage) → d.begun.current.isDisabled = true)) ∧
    ∀ (α : Type) (action : Action α) s₁ t result s₂, HookCall action → (∀ x ∈ t, x.IsServed) →
      Runs action s₁ t result s₂ →
      s₂.current = s₁.current ∧
        ∀ fault, result = .error fault → fault.IsOutage → ∃ x ∈ t, x.Reports fault := by
  refine ⟨?_, ?_, ?_⟩
  · intro query t result s' poses serves run
    exact exists_classified statement poses known typed serves run
  · intro β γ delegate query arguments t result s' poses serves run
    exact exists_delegated statement poses known typed serves run
  · intro α action s₁ t result s₂ call served run
    exact contained_of_hookCall call served run

/-- Surroundings in which the server fails while a class is stored, and again when its lock is given
back. -/
def failingServer : (request : Request) → Request.Reply request
  | .knowledge (.upsertClass c) =>
    ((Server.answer (.upsertClass c)).run.run { replies := [.failure "lost" 0] }).1
  | .knowledge (.unlockClass hash) =>
    ((Server.answer (.unlockClass hash)).run.run { replies := [.noStatement "closed"] }).1
  | request => nothingStored request

theorem failingServer_serves {t : List Asked}
    (replies : ∀ x ∈ t, x.reply = failingServer x.request) : Serves [] t := by
  constructor
  · rintro _ member call reply rfl
    have same : reply = failingServer (.knowledge call) := replies _ member
    rw [same]
    cases call with
    | upsertClass c => exact .server _ trivial
    | unlockClass hash => exact .server _ trivial
    | isInstalled | findClass | recordText | loadSample | storeSample | lockClass =>
      exact .value _
  · intro names member
    exact replies _ member

/-- Whether a request gives the lock of a class back. -/
def Request.unlocks : Request → Bool
  | .knowledge (.unlockClass _) => true
  | _ => false

/-- The class of a query could not be stored, and its lock could not be given back. The delegate of
the planner hook runs all the same, and finds that the current policy uses no predictions. -/
theorem outages_contained_twice :
    ∃ t s' d, Runs (planHook (fun a => a.run) (fun _ _ => predicting.run) (bareQuery .select) () :
        Action Bool) learning t (.ok false) s' ∧
      Delegated (bareQuery .select) predicting learning t (.ok false) s' d ∧
      (∃ x ∈ d.opening, x.IsOutage) ∧ d.begun.current.isDisabled = true := by
  let hook : Action Bool :=
    planHook (fun a => a.run) (fun _ _ => predicting.run) (bareQuery .select) ()
  obtain ⟨t, run, replies⟩ := Action.exists_runs failingServer hook learning
  have given : (Action.outcome failingServer hook learning).1.toOption = some false := by
    decide +kernel
  have unlocked : (Action.requests failingServer (openCall (bareQuery .select)) learning).any
      Request.unlocks = true := by decide +kernel
  have typed : learning.WellTyped := ⟨⟨0, rfl⟩, ⟨["postgres_fdw", "pgfdw:"], rfl⟩, ⟨"", rfl⟩⟩
  have statement : (Json.object [(StatementKind.select.tag, .object [])]).IsStatement :=
    ⟨⟨.select, _, rfl, rfl⟩, by decide +kernel, by decide +kernel⟩
  obtain ⟨-, plans, -⟩ := outages_contained (.inl statement) rfl typed
  obtain ⟨d, delegated, disabled⟩ := plans Bool Unit (fun _ _ => predicting) _ _ t _ _
    ⟨_, .bare, .inl rfl⟩ (failingServer_serves replies) run
  obtain ⟨s₁, opened, -⟩ := delegated.opened
  have within : d.opening ⊆ t := by
    rw [delegated.exchanges, List.append_assoc]
    exact List.subset_append_left _ _
  rw [Action.requests_of_runs opened fun x member => replies x (within member)] at unlocked
  have outage : ∃ x ∈ d.opening, x.IsOutage := by
    obtain ⟨_, asked, unlocks⟩ := List.any_eq_true.mp unlocked
    obtain ⟨⟨request, reply⟩, member, rfl⟩ := List.mem_map.mp asked
    have same : reply = failingServer request := replies _ (within member)
    dsimp only at unlocks
    unfold Request.unlocks at unlocks
    split at unlocks
    · exact ⟨_, member, .inl ⟨_, _, by rw [same]; rfl⟩⟩
    · cases unlocks
  cases result : (Action.outcome failingServer hook learning).1 with
  | error fault =>
    rw [result] at given
    cases given
  | ok uses =>
    rw [result] at given run delegated
    cases given
    exact ⟨t, _, d, run, delegated, outage, disabled outage⟩

end CardinalityAdvisor
