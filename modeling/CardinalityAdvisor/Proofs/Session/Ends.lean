import CardinalityAdvisor.Proofs.Session.Classification
import CardinalityAdvisor.Session.Call

/-!
# The two ends of a planning call

When a planning call begins, the policy that the classification gave is put on the session under
a new number. When it ends, the policy is taken off, and the class of the call is released if the
call activated it. Neither end touches the policies of other calls.

## Main definitions

* `SameCalls s s'`: the planning calls in progress and all policies are the same
* `Session.push`: the session after a policy became the current one
* `Opened s call policy s'`: a call began under a policy
* `Closed call outer s s'`: a call ended, and the calls `outer` are left
* `Delegation`, `Delegated query delegate s t result s' d`: what happens when a query is planned by
  a delegate

## Main results

* `runs_openCall`: to begin a planning call is to classify its query
* `Opened.of_runs`: what happens when a planning call begins
* `Closed.of_runs`: a planning call always ends, and what happens then
* `refused_or_delegated`: a query that is planned by a delegate is classified, or its call fails
-/

namespace CardinalityAdvisor

/-- The planning calls in progress and the policies of all calls are the same. -/
structure SameCalls (s s' : Session) : Prop where
  calls : s'.calls = s.calls
  policies : s'.policies = s.policies
  nextPolicy : s'.nextPolicy = s.nextPolicy

theorem SameCalls.trans {s s₁ s' : Session} (h : SameCalls s s₁) (h' : SameCalls s₁ s') :
    SameCalls s s' :=
  ⟨h'.calls.trans h.calls, h'.policies.trans h.policies, h'.nextPolicy.trans h.nextPolicy⟩

theorem SameCalls.activate {s s₁ : Session} (h : SameCalls s s₁) (hash : Int) :
    SameCalls s (s₁.activate hash) := ⟨h.calls, h.policies, h.nextPolicy⟩

theorem SameButConfirmed.sameCalls {s s' : Session} (h : SameButConfirmed s s') :
    SameCalls s s' := by
  rw [h]
  exact ⟨rfl, rfl, rfl⟩

theorem SameButDeactivated.sameCalls {hash : Int} {s s' : Session}
    (h : SameButDeactivated hash s s') : SameCalls s s' := by
  obtain rfl | rfl := h
  · exact ⟨rfl, rfl, rfl⟩
  · exact ⟨rfl, rfl, rfl⟩

namespace Classification

variable {s s' : Session} {result : Except Fault Classified}

/-- No classification touches the planning calls in progress. -/
theorem sameCalls (h : Classification s result s') : SameCalls s s' := by
  cases h with
  | refused _ guarded | skipped guarded | unhashed _ guarded | known _ guarded _ =>
    obtain ⟨calls, policies, nextPolicy⟩ := guarded.sameCalls
    exact ⟨calls, policies, nextPolicy⟩
  | failed hash _ guarded _ changed | entered _ guarded _ changed =>
    exact (guarded.sameCalls.activate _).trans changed.sameCalls

/-- What is remembered is kept or forgotten as a whole. -/
theorem cache (h : Classification s result s') : s'.cache = s.cache ∨ s'.cache = .clear := by
  cases h with
  | refused _ guarded | skipped guarded =>
    left
    rw [guarded]
  | unhashed | known => exact .inr rfl
  | failed _ _ _ _ changed | entered _ _ _ changed =>
    right
    obtain rfl | rfl := changed <;> rfl

/-- A class that a classification activates was not active before. What is remembered is forgotten
then. -/
theorem activated {policy : PlanningPolicy} (h : Classification s (.ok ⟨policy, true⟩) s') :
    policy.queryHash ∉ s.active ∧ s'.active = policy.queryHash :: s.active ∧
      s'.cache = .clear := by
  cases h with
  | entered _ guarded free changed =>
    have active : s'.active = policy.queryHash :: s.active := by
      rw [guarded] at changed
      obtain rfl | rfl := changed <;> rfl
    refine ⟨free, active, ?_⟩
    obtain rfl | rfl := changed <;> rfl

/-- A classification that activates no class leaves the active classes alone and gives a disabled
policy. -/
theorem passedOver {policy : PlanningPolicy} (h : Classification s (.ok ⟨policy, false⟩) s') :
    s'.active = s.active ∧ policy = .disabled policy.queryHash := by
  cases h with
  | skipped guarded | known _ guarded _ =>
    rw [guarded]
    exact ⟨rfl, rfl⟩

end Classification

/-! ## Beginning -/

/-- The session after a policy became the current one. -/
def Session.push (s : Session) (policy : PlanningPolicy) : Session :=
  { (s.keepPolicy policy).2 with calls := s.nextPolicy :: s.calls }

namespace Session

variable (s : Session) (policy : PlanningPolicy)

@[simp] theorem push_calls : (s.push policy).calls = s.nextPolicy :: s.calls := rfl

@[simp] theorem push_nextPolicy : (s.push policy).nextPolicy = s.nextPolicy + 1 := rfl

@[simp] theorem push_active : (s.push policy).active = s.active := rfl

@[simp] theorem push_cache : (s.push policy).cache = s.cache := rfl

theorem push_policies (id : PolicyId) :
    (s.push policy).policies id = if id = s.nextPolicy then policy else s.policies id := rfl

@[simp] theorem push_policies_self : (s.push policy).policies s.nextPolicy = policy := by
  rw [push_policies, if_pos rfl]

end Session

/-- A planning call began: its query was classified, and its policy is the current one. -/
def Opened (s : Session) (call : PlanningCall) (policy : PlanningPolicy) (s' : Session) : Prop :=
  ∃ s₁, Classification s (.ok ⟨policy, call.entered⟩) s₁ ∧ call.policy = s₁.nextPolicy ∧
    s' = s₁.push policy

theorem runs_pushPolicy {policy : PlanningPolicy} {s s' : Session} {t : List Asked}
    {result : Except Fault PolicyId} :
    Action.Runs (pushPolicy policy) s t result s' ↔
      t = [] ∧ result = .ok s.nextPolicy ∧ s' = s.push policy := by
  rw [pushPolicy, Action.runs_get_bind]
  exact Action.runs_pure

/-- **To begin a planning call** is to classify its query, and to put the policy on the session if
there is one. Nothing else is asked, and nothing else can fail. -/
theorem runs_openCall {query : Query} {s s' : Session} {t : List Asked}
    {result : Except Fault PlanningCall} :
    Action.Runs (openCall query) s t result s' ↔
      (∃ classified s₁, Action.Runs (classify query) s t (.ok classified) s₁ ∧
        result = .ok ⟨s₁.nextPolicy, classified.entered⟩ ∧ s' = s₁.push classified.policy) ∨
      ∃ fault, result = .error fault ∧ Action.Runs (classify query) s t (.error fault) s' := by
  refine Action.runs_bind.trans (or_congr_left ?_)
  constructor
  · rintro ⟨t₁, t₂, classified, s₁, rfl, first, rest⟩
    obtain ⟨_, _, id, _, rfl, pushed, last⟩ | ⟨_, -, failed⟩ := Action.runs_bind.mp rest
    · obtain ⟨rfl, same, rfl⟩ := runs_pushPolicy.mp pushed
      cases same
      obtain ⟨rfl, rfl, rfl⟩ := Action.runs_pure.mp last
      rw [List.append_nil, List.append_nil]
      exact ⟨classified, s₁, first, rfl, rfl⟩
    · cases (runs_pushPolicy.mp failed).2.1
  · rintro ⟨classified, s₁, first, rfl, rfl⟩
    have rest : Action.Runs (do
        return ⟨← pushPolicy classified.policy, classified.entered⟩) s₁ []
        (.ok (⟨s₁.nextPolicy, classified.entered⟩ : PlanningCall)) (s₁.push classified.policy) := by
      refine Action.runs_bind.mpr
        (.inl ⟨[], [], s₁.nextPolicy, s₁.push classified.policy, rfl, ?_, ?_⟩)
      · exact runs_pushPolicy.mpr ⟨rfl, rfl, rfl⟩
      · exact Action.runs_pure.mpr ⟨rfl, rfl, rfl⟩
    exact ⟨t, [], classified, s₁, (List.append_nil t).symm, first, rest⟩

/-- **A planning call that begins** classifies its query and makes the policy the current one. -/
theorem Opened.of_runs {query : Query} {s s' : Session} {t : List Asked} {call : PlanningCall}
    (run : Action.Runs (openCall query) s t (.ok call) s') :
    Opened s call (s'.policies call.policy) s' := by
  obtain ⟨⟨policy, entered⟩, s₁, classified, same, rfl⟩ | ⟨_, failed, -⟩ := runs_openCall.mp run
  · cases same
    rw [Session.push_policies_self]
    exact ⟨s₁, .of_runs classified, rfl, rfl⟩
  · cases failed

/-- A planning call that does not begin was not classified. -/
theorem Classification.of_not_opened {query : Query} {s s' : Session} {t : List Asked}
    {fault : Fault} (run : Action.Runs (openCall query) s t (.error fault) s') :
    Classification s (.error fault) s' := by
  obtain ⟨_, _, _, failed, -⟩ | ⟨_, same, failed⟩ := runs_openCall.mp run
  · cases failed
  · cases same
    exact .of_runs failed

/-! ## Ending -/

/-- A planning call ended, and the calls `outer` are left. -/
structure Closed (call : PlanningCall) (outer : List PolicyId) (s s' : Session) : Prop where
  calls : s'.calls = outer
  active : s'.active = if call.entered then
    s.active.filter (· ≠ (s.policies call.policy).queryHash) else s.active
  cache : s'.cache = s.cache
  nextPolicy : s'.nextPolicy = s.nextPolicy
  policies : ∀ id, id ≠ call.policy → s'.policies id = s.policies id

/-- Noting the time changes the policy of the call only, and in it only the time. -/
theorem runs_noteTime {id : PolicyId} {s s' : Session} {t : List Asked}
    {result : Except Fault Unit} (run : Action.Runs (noteTime id) s t result s') :
    result = .ok () ∧
      (s' = s ∨ ∃ time, s' = s.updatePolicy id fun p => { p with planningTime := time }) := by
  rw [noteTime, Action.runs_get_bind] at run
  split at run
  · obtain ⟨now, _, -, run⟩ := Action.runs_ask_bind.mp run
    obtain ⟨-, rfl, rfl⟩ := Action.runs_modify.mp run
    exact ⟨rfl, .inr ⟨_, rfl⟩⟩
  · obtain ⟨-, rfl, rfl⟩ := Action.runs_pure.mp run
    exact ⟨rfl, .inl rfl⟩

theorem runs_popPolicy {id : PolicyId} {outer : List PolicyId} {s s' : Session} {t : List Asked}
    {result : Except Fault PolicyId} (calls : s.calls = id :: outer)
    (run : Action.Runs popPolicy s t result s') :
    result = .ok id ∧ s' = { s with calls := outer } := by
  rw [popPolicy, Action.runs_get_bind, calls] at run
  obtain ⟨-, rfl, rfl⟩ := Action.runs_pure.mp run
  exact ⟨rfl, rfl⟩

/-- **A planning call that ends** never fails, and takes its own policy off. -/
theorem Closed.of_runs {call : PlanningCall} {id : PolicyId} {outer : List PolicyId}
    {s s' : Session} {t : List Asked} {result : Except Fault Unit} (calls : s.calls = id :: outer)
    (run : Action.Runs (closeCall call) s t result s') :
    result = .ok () ∧ Closed call outer s s' := by
  obtain ⟨_, _, _, s₁, -, popped, run⟩ | ⟨_, -, failed⟩ := Action.runs_bind.mp run
  swap
  · cases (runs_popPolicy calls failed).1
  obtain ⟨-, rfl⟩ := runs_popPolicy calls popped
  have noted {s₁ : Session} {t : List Asked}
      (run : Action.Runs (noteTime call.policy) s₁ t result s') :
      result = .ok () ∧ s'.calls = s₁.calls ∧ s'.active = s₁.active ∧ s'.cache = s₁.cache ∧
        s'.nextPolicy = s₁.nextPolicy ∧
        ∀ id, id ≠ call.policy → s'.policies id = s₁.policies id := by
    obtain ⟨rfl, rfl | ⟨time, rfl⟩⟩ := runs_noteTime run
    · exact ⟨rfl, rfl, rfl, rfl, rfl, fun _ _ => rfl⟩
    · exact ⟨rfl, rfl, rfl, rfl, rfl, fun id other => if_neg other⟩
  obtain ⟨policy, _ | _⟩ := call
  · obtain ⟨rfl, calls, active, cache, nextPolicy, policies⟩ := noted run
    exact ⟨rfl, calls, active, cache, nextPolicy, policies⟩
  · rw [if_pos rfl, Action.runs_modify_bind] at run
    obtain ⟨rfl, calls, active, cache, nextPolicy, policies⟩ := noted run
    exact ⟨rfl, calls, active, cache, nextPolicy, policies⟩

/-! ## Queries planned by a delegate -/

/-- What happened while a query was planned by a delegate. -/
structure Delegation (β : Type) where
  opening : List Asked
  planning : List Asked
  closing : List Asked
  call : PlanningCall
  /-- The session in which the delegate begins. -/
  begun : Session
  /-- The session in which the delegate ends. -/
  ended : Session
  plan : Except Fault β

/-- A query was planned by a delegate: a planning call began, the delegate ran once, and the call
ended. The result is that of the delegate, unless the delegate left no planning call to end. -/
structure Delegated {β : Type} (query : Query) (delegate : Action β) (s : Session) (t : List Asked)
    (result : Except Fault β) (s' : Session) (d : Delegation β) : Prop where
  exchanges : t = d.opening ++ d.planning ++ d.closing
  opened : ∃ s₁, Action.Runs (openCall query) s d.opening (.ok d.call) s₁ ∧
    d.begun = { s₁ with lastPolicy := some d.call.policy }
  planned : Action.Runs delegate d.begun d.planning d.plan d.ended
  closed : ∃ r, Action.Runs (closeCall d.call) d.ended d.closing r s'
  result : result = if d.ended.calls = [] then .error .noPlanningCall else d.plan

theorem runs_closeCall_of_nil {call : PlanningCall} {s s' : Session} {t : List Asked}
    {result : Except Fault Unit} (calls : s.calls = [])
    (run : Action.Runs (closeCall call) s t result s') : result = .error .noPlanningCall := by
  have popped {t : List Asked} {result : Except Fault PolicyId} {s₁ : Session}
      (run : Action.Runs popPolicy s t result s₁) : result = .error .noPlanningCall := by
    rw [popPolicy, Action.runs_get_bind, calls] at run
    exact (Action.runs_throw.mp run).2.1
  obtain ⟨_, _, _, _, -, first, -⟩ | ⟨_, rfl, failed⟩ := Action.runs_bind.mp run
  · cases popped first
  · cases popped failed
    rfl

/-- A planning call does not begin, since its query is not classified, or the query is planned by
the delegate. -/
theorem refused_or_delegated {β : Type} {query : Query} {delegate : Action β} {s s' : Session}
    {t : List Asked} {result : Except Fault β}
    (run : Action.Runs (planVia (fun a => a.run) query delegate.run : Action β) s t result s') :
    (∃ fault, result = .error fault ∧ Action.Runs (openCall query) s t (.error fault) s') ∨
      ∃ d, Delegated query delegate s t result s' d := by
  obtain ⟨t₁, rest, fault | call, s₁, rfl, opened, goesOn⟩ := Action.runs_run_bind.mp run
  · obtain ⟨rfl, rfl, rfl⟩ := Action.runs_throw.mp goesOn
    rw [List.append_nil]
    exact .inl ⟨fault, rfl, opened⟩
  obtain ⟨_, _, _, _, rfl, noted, goesOn⟩ := Action.runs_run_bind.mp goesOn
  obtain ⟨rfl, -, rfl⟩ := Action.runs_modify.mp noted
  obtain ⟨t₂, _, plan, s₂, rfl, planned, goesOn⟩ := Action.runs_run_bind.mp goesOn
  obtain ⟨t₃, t₄, r, s₃, rfl, closed, last⟩ := Action.runs_run_bind.mp goesOn
  -- The call can be ended unless the delegate has taken all policies off the session.
  have ends : t₄ = [] ∧ s' = s₃ ∧
      result = if s₂.calls = [] then .error .noPlanningCall else plan := by
    cases calls : s₂.calls with
    | nil =>
      cases runs_closeCall_of_nil calls closed
      obtain ⟨rfl, rfl, rfl⟩ := Action.runs_throw.mp last
      exact ⟨rfl, rfl, rfl⟩
    | cons id outer =>
      cases (Closed.of_runs calls closed).1
      cases plan with
      | ok value =>
        obtain ⟨rfl, rfl, rfl⟩ := Action.runs_pure.mp last
        exact ⟨rfl, rfl, rfl⟩
      | error fault =>
        obtain ⟨rfl, rfl, rfl⟩ := Action.runs_throw.mp last
        exact ⟨rfl, rfl, rfl⟩
  obtain ⟨rfl, rfl, same⟩ := ends
  refine .inr ⟨⟨t₁, t₂, t₃, call, _, s₂, plan⟩, ⟨?_, ⟨s₁, opened, rfl⟩, planned, ⟨r, closed⟩, same⟩⟩
  simp

end CardinalityAdvisor
