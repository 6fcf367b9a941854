import CardinalityAdvisor.Proofs.Planning.Run
import Mathlib.Data.List.Basic

/-!
# The nesting of planning calls

The policies of a session are those of the planning calls in progress, in the order in which the
calls are nested. The classes that are active are those that were active before and those that the
calls in progress have activated, each of them once. A call that ends leaves both as they were
before it.

## Main definitions

* `Stacked s₀ m`: the planning calls that a run from `s₀` has begun are on the session
* `Activated s₀ m`: the classes that they have activated are active

## Main results

* `Stacked.of_run`, `Activated.of_run`: both hold at every moment of a run
* `planning_calls_nested`: the planning calls and the active classes at every moment, and after a
  query was planned
-/

namespace CardinalityAdvisor

variable {s₀ : Session} {m m' : Moment} {e : Event} {events : List Event}

/-- The numbers of the policies of planning calls. -/
def policyIds (frames : List Frame) : List PolicyId := frames.map fun f => f.call.policy

/-- The classes that planning calls have activated. -/
def activatedClasses (frames : List Frame) : List Int := frames.filterMap Frame.activated

/-- The planning calls in progress are on the session, each with the policy it was begun with and
with those on the session that it was begun in. -/
structure Stacked (s₀ : Session) (m : Moment) : Prop where
  calls : m.session.calls = policyIds m.frames ++ s₀.calls
  fresh : ∀ f ∈ m.frames, f.call.policy < m.session.nextPolicy
  distinct : (policyIds m.frames).Nodup
  policies : ∀ f ∈ m.frames, m.session.policies f.call.policy = f.policy
  before : ∀ f outer, f :: outer <:+ m.frames → f.before.calls = policyIds outer ++ s₀.calls

/-- The classes that the planning calls in progress have activated are active, each of them once,
besides those that were active before. -/
structure Activated (s₀ : Session) (m : Moment) : Prop where
  active : m.session.active = activatedClasses m.frames ++ s₀.active
  distinct : (activatedClasses m.frames).Nodup
  fresh : ∀ hash ∈ activatedClasses m.frames, hash ∉ s₀.active
  before : ∀ f outer, f :: outer <:+ m.frames →
    f.before.active = activatedClasses outer ++ s₀.active

/-! ## The stack of calls -/

/-- A property of every call and those around it holds after another call was begun. -/
theorem forall_suffix_cons {P : Frame → List Frame → Prop} {new : Frame} {frames : List Frame}
    (h : P new frames) (hs : ∀ f outer, f :: outer <:+ frames → P f outer) :
    ∀ f outer, f :: outer <:+ new :: frames → P f outer := by
  intro f outer inside
  rcases List.suffix_cons_iff.mp inside with same | inside
  · cases same
    exact h
  · exact hs f outer inside

theorem Stacked.start (s₀ : Session) : Stacked s₀ ⟨s₀, []⟩ where
  calls := rfl
  fresh := by simp
  distinct := List.nodup_nil
  policies := by simp
  before := by simp

theorem Stacked.sameCalls {s' : Session} (h : Stacked s₀ m) (same : SameCalls m.session s') :
    Stacked s₀ ⟨s', m.frames⟩ where
  calls := same.calls.trans h.calls
  fresh f inside := by
    show f.call.policy < s'.nextPolicy
    rw [same.nextPolicy]
    exact h.fresh f inside
  distinct := h.distinct
  policies f inside := by
    show s'.policies f.call.policy = f.policy
    rw [same.policies]
    exact h.policies f inside
  before := h.before

/-- A planning call that begins is the innermost one. -/
theorem Stacked.opened {s' : Session} {call : PlanningCall} {policy : PlanningPolicy}
    (h : Stacked s₀ m) (opened : Opened m.session call policy s') :
    Stacked s₀ ⟨s', ⟨call, policy, m.session⟩ :: m.frames⟩ := by
  obtain ⟨s₁, classified, number, rfl⟩ := opened
  have same := classified.sameCalls
  have new (f : Frame) (inside : f ∈ m.frames) : f.call.policy ≠ s₁.nextPolicy := by
    rw [same.nextPolicy]
    exact Nat.ne_of_lt (h.fresh f inside)
  constructor
  · rw [Session.push_calls, same.calls, h.calls, ← number]
    rfl
  · intro f inside
    rw [Session.push_nextPolicy]
    rcases List.mem_cons.mp inside with rfl | inside
    · rw [number]
      exact Nat.lt_succ_self _
    · rw [same.nextPolicy]
      exact Nat.lt_succ_of_lt (h.fresh f inside)
  · refine List.nodup_cons.mpr ⟨?_, h.distinct⟩
    intro inside
    obtain ⟨f, inside, same⟩ := List.mem_map.mp inside
    exact new f inside (same.trans number)
  · intro f inside
    rw [Session.push_policies]
    rcases List.mem_cons.mp inside with rfl | inside
    · exact if_pos number
    · rw [if_neg (new f inside), same.policies]
      exact h.policies f inside
  · exact forall_suffix_cons h.calls h.before

/-- A planning call that ends leaves the calls around it. -/
theorem Stacked.closed {s s' : Session} {frame : Frame} {outer : List Frame}
    (h : Stacked s₀ ⟨s, frame :: outer⟩)
    (closed : Closed frame.call (policyIds outer ++ s₀.calls) s s') : Stacked s₀ ⟨s', outer⟩ where
  calls := closed.calls
  fresh f inside := by
    show f.call.policy < s'.nextPolicy
    rw [closed.nextPolicy]
    exact h.fresh f (List.mem_cons_of_mem _ inside)
  distinct := (List.nodup_cons.mp h.distinct).2
  policies f inside := by
    have other : f.call.policy ≠ frame.call.policy := by
      intro same
      exact (List.nodup_cons.mp h.distinct).1 (List.mem_map.mpr ⟨f, inside, same⟩)
    exact (closed.policies _ other).trans (h.policies f (List.mem_cons_of_mem _ inside))
  before f around inside := h.before f around (inside.trans (List.suffix_cons _ _))

/-- What ends the innermost planning call. -/
theorem Stacked.closing {s s' : Session} {frame : Frame} {outer : List Frame} {t : List Asked}
    {result : Except Fault Unit} (h : Stacked s₀ ⟨s, frame :: outer⟩)
    (run : Action.Runs (closeCall frame.call) s t result s') :
    result = .ok () ∧ Closed frame.call (policyIds outer ++ s₀.calls) s s' :=
  Closed.of_runs h.calls run

theorem Stacked.step (h : Stacked s₀ m) (step : Step m e m') : Stacked s₀ m' := by
  cases step with
  | opened run => exact h.opened (.of_runs run)
  | refused run => exact h.sameCalls (Classification.of_not_opened run).sameCalls
  | closed run => exact h.closed (h.closing run).2
  | looked _ _ run => exact h.sameCalls (Lookup.sameCalls run)
  | elsewhere same => exact h.sameCalls same.toSameCalls

/-- The planning calls in progress are on the session at every moment of a run. -/
theorem Stacked.of_run (run : Run ⟨s₀, []⟩ events m) : Stacked s₀ m := by
  induction run with
  | start => exact .start s₀
  | step _ step ih => exact ih.step step

/-- The policy of the innermost planning call is the current one. -/
theorem Stacked.current {s : Session} {f : Frame} {outer : List Frame}
    (h : Stacked s₀ ⟨s, f :: outer⟩) : s.current = f.policy := by
  have calls : s.calls = f.call.policy :: (policyIds outer ++ s₀.calls) := h.calls
  rw [Session.current, calls]
  exact h.policies f List.mem_cons_self

/-- The calls in progress while a call was the innermost one are still in progress. -/
theorem Stacked.calls_suffix {f : Frame} (h : Stacked s₀ m) (inside : f ∈ m.frames) :
    f.calls <:+ m.session.calls := by
  obtain ⟨inner, outer, frames⟩ := List.mem_iff_append.mp inside
  have here : f :: outer <:+ m.frames := ⟨inner, frames.symm⟩
  have calls : f.calls = policyIds (f :: outer) ++ s₀.calls := by
    rw [Frame.calls, h.before f outer here]
    rfl
  refine ⟨policyIds inner, ?_⟩
  rw [calls, h.calls, frames, policyIds, policyIds, policyIds, List.map_append, List.append_assoc]

/-! ## The active classes -/

theorem Activated.start (s₀ : Session) : Activated s₀ ⟨s₀, []⟩ where
  active := rfl
  distinct := List.nodup_nil
  fresh := by simp [activatedClasses]
  before := by simp

theorem Activated.sameActive {s' : Session} (h : Activated s₀ m)
    (same : s'.active = m.session.active) : Activated s₀ ⟨s', m.frames⟩ where
  active := same.trans h.active
  distinct := h.distinct
  fresh := h.fresh
  before := h.before

/-- A planning call that begins activates a class that was not active, or none. -/
theorem Activated.opened {s' : Session} {call : PlanningCall} {policy : PlanningPolicy}
    (h : Activated s₀ m) (opened : Opened m.session call policy s') :
    Activated s₀ ⟨s', ⟨call, policy, m.session⟩ :: m.frames⟩ := by
  obtain ⟨s₁, classified, number, rfl⟩ := opened
  obtain ⟨id, _ | _⟩ := call
  · refine ⟨?_, h.distinct, h.fresh, forall_suffix_cons h.active h.before⟩
    exact classified.passedOver.1.trans h.active
  · obtain ⟨free, active, -⟩ := classified.activated
    rw [h.active, List.mem_append, not_or] at free
    refine ⟨?_, List.nodup_cons.mpr ⟨free.1, h.distinct⟩, ?_, forall_suffix_cons h.active h.before⟩
    · show s₁.active = _
      rw [active, h.active]
      rfl
    · intro hash inside
      rcases List.mem_cons.mp inside with rfl | inside
      · exact free.2
      · exact h.fresh hash inside

/-- A planning call that ends releases the class that it activated, and no other. -/
theorem Activated.closed {s s' : Session} {frame : Frame} {outer : List Frame}
    {calls : List PolicyId} (h : Activated s₀ ⟨s, frame :: outer⟩)
    (policy : s.policies frame.call.policy = frame.policy)
    (closed : Closed frame.call calls s s') : Activated s₀ ⟨s', outer⟩ := by
  have before f around (inside : f :: around <:+ outer) :=
    h.before f around (inside.trans (List.suffix_cons _ _))
  have active := closed.active
  obtain ⟨⟨id, _ | _⟩, p, s₁⟩ := frame
  · rw [if_neg Bool.false_ne_true] at active
    exact ⟨active.trans h.active, h.distinct, h.fresh, before⟩
  · have activated : activatedClasses (⟨⟨id, true⟩, p, s₁⟩ :: outer) =
        p.queryHash :: activatedClasses outer := rfl
    have all := h.active
    have distinct := h.distinct
    have fresh := h.fresh
    simp only [activated, List.nodup_cons, List.mem_cons, forall_eq_or_imp] at all distinct fresh
    refine ⟨?_, distinct.2, fresh.2, before⟩
    -- Releasing the class takes away its only occurrence, which is the first one.
    have kept : (activatedClasses outer ++ s₀.active).filter (· ≠ p.queryHash) =
        activatedClasses outer ++ s₀.active := by
      rw [List.filter_eq_self]
      intro hash inside
      rw [decide_eq_true_iff]
      rintro rfl
      rcases List.mem_append.mp inside with inside | inside
      · exact distinct.1 inside
      · exact fresh.1 inside
    rw [if_pos rfl, policy, all, List.cons_append, List.filter_cons_of_neg (by simp),
      kept] at active
    exact active

theorem Activated.step (h : Activated s₀ m) (stacked : Stacked s₀ m)
    (classified : ∀ emptied, e ≠ .refused emptied) (step : Step m e m') : Activated s₀ m' := by
  cases step with
  | opened run => exact h.opened (.of_runs run)
  | refused => exact absurd rfl (classified _)
  | closed run =>
    exact h.closed (stacked.policies _ List.mem_cons_self) (stacked.closing run).2
  | looked _ _ run =>
    obtain ⟨-, -, rfl⟩ | ⟨answer, -, -, -, rfl⟩ := Lookup.of_runs run
    · exact h
    · exact h.sameActive rfl
  | elsewhere same => exact h.sameActive same.active

/-- The classes that the planning calls in progress have activated are active at every moment of a
run in which no classification fails. -/
theorem Activated.of_run (run : Run ⟨s₀, []⟩ events m)
    (classified : ∀ emptied, .refused emptied ∉ events) : Activated s₀ m := by
  induction run with
  | start => exact .start s₀
  | step run step ih =>
    have earlier := ih fun emptied inside => classified emptied (List.mem_cons_of_mem _ inside)
    refine earlier.step (.of_run run) (fun emptied same => ?_) step
    exact classified emptied (same ▸ List.mem_cons_self)

/-- A run in which no classification fails, and which ends the planning calls that it begins, leaves
the calls and the active classes as they were. -/
theorem PlannedBy.sameCallsAndActive {s s' : Session} (h : PlannedBy Event.Classifies s s') :
    s'.calls = s.calls ∧ s'.active = s.active := by
  obtain ⟨events, classified, run⟩ := h []
  refine ⟨(Stacked.of_run run).calls, (Activated.of_run run fun emptied inside => ?_).active⟩
  exact classified _ inside emptied rfl

/-- **The nesting of planning calls.** At every moment of a run in which no classification fails,
the session holds exactly one policy for each planning call in progress, in the order in which they
are nested, and the current policy is the one of the innermost call. The active classes are those
that were active before the run and those that the calls in progress have activated, each of them
once. Ending the innermost call never fails and leaves the calls and the active classes as they
were before that call.

A query that is planned by a delegate is a part of such a run if all that the delegate does is one,
so queries may be planned inside each other to any depth. Unless its classification fails, the
delegate begins at a moment of the run at which its own call is the innermost one. If no
classification fails in what the delegate does, and if that ends what it begins, the calls and the
active classes are after the planning of the query what they were before. -/
theorem planning_calls_nested (run : Run ⟨s₀, []⟩ events m)
    (classified : ∀ emptied, .refused emptied ∉ events) :
    (m.session.calls = policyIds m.frames ++ s₀.calls ∧ (policyIds m.frames).Nodup ∧
      (∀ f ∈ m.frames, m.session.policies f.call.policy = f.policy) ∧
      ∀ f outer, m.frames = f :: outer → m.session.current = f.policy) ∧
    (m.session.active = activatedClasses m.frames ++ s₀.active ∧
      (activatedClasses m.frames).Nodup ∧
      ∀ hash ∈ activatedClasses m.frames, hash ∉ s₀.active) ∧
    (∀ f outer t result s', m.frames = f :: outer →
      Action.Runs (closeCall f.call) m.session t result s' →
      result = .ok () ∧ s'.calls = f.before.calls ∧ s'.active = f.before.active) ∧
    ∀ {β : Type} (query : Query) (delegate : Action β),
      (Action.Within Planned delegate →
        Action.Within Planned (planVia (fun a => a.run) query delegate.run : Action β)) ∧
      ∀ t result s',
      Action.Runs (planVia (fun a => a.run) query delegate.run : Action β) m.session t result s' →
      (∃ fault, result = .error fault ∧
        Action.Runs (openCall query) m.session t (.error fault) s') ∨
      ∃ d, Delegated query delegate m.session t result s' d ∧
        Run ⟨s₀, []⟩ (.elsewhere :: .opened d.begun.cache.isEmpty :: events)
          ⟨d.begun, d.frame m.session :: m.frames⟩ ∧
        (PlannedBy Event.Classifies d.begun d.ended →
          PlannedBy Event.Classifies m.session s' ∧
            s'.calls = m.session.calls ∧ s'.active = m.session.active) := by
  obtain ⟨s, frames⟩ := m
  have stacked := Stacked.of_run run
  have activated := Activated.of_run run classified
  refine ⟨⟨stacked.calls, stacked.distinct, stacked.policies, ?_⟩,
    ⟨activated.active, activated.distinct, activated.fresh⟩, ?_, ?_⟩
  · rintro f outer rfl
    exact stacked.current
  · rintro f outer t result s' rfl ending
    obtain ⟨rfl, closed⟩ := stacked.closing ending
    have after := activated.closed (stacked.policies _ List.mem_cons_self) closed
    refine ⟨rfl, ?_, ?_⟩
    · rw [closed.calls, stacked.before f outer List.suffix_rfl]
    · rw [after.active, activated.before f outer List.suffix_rfl]
  · intro β query delegate
    refine ⟨within_planVia query, fun t result s' planned => ?_⟩
    refine (refused_or_delegated planned).imp_right ?_
    rintro ⟨d, delegated⟩
    refine ⟨d, delegated, delegated.begins run, fun inner => ?_⟩
    have whole := delegated.plannedBy (fun _ => id) inner
    exact ⟨whole, whole.sameCallsAndActive⟩

/-- Two calls that are nested in each other activate two classes. -/
theorem planning_calls_nested_two :
    ∃ events inner outer s, Run ⟨learning, []⟩ events ⟨s, [inner, outer]⟩ ∧
      (∀ emptied, .refused emptied ∉ events) ∧
      inner.call.entered = true ∧ outer.call.entered = true ∧
      s.calls = policyIds [inner, outer] ++ learning.calls ∧ s.current = inner.policy ∧
      s.active = activatedClasses [inner, outer] ++ learning.active := by
  have outer : (Action.outcome nothingStored (openCall (bareQuery .select)) learning).1.toOption =
      some ⟨0, true⟩ := by decide +kernel
  have inner : (Action.outcome nothingStored (openCall (bareQuery .delete))
      (learning.after (openCall (bareQuery .select)))).1.toOption = some ⟨1, true⟩ := by
    decide +kernel
  have begins : Run ⟨learning, []⟩ [] ⟨learning, []⟩ := .start
  have run := (begins.opening outer).opening inner
  have classified : ∀ emptied, .refused emptied ∉
      [Event.opened ((learning.after (openCall (bareQuery .select))).after
        (openCall (bareQuery .delete))).cache.isEmpty,
      .opened (learning.after (openCall (bareQuery .select))).cache.isEmpty] := by simp
  obtain ⟨⟨calls, -, -, current⟩, ⟨active, -⟩, -, -⟩ := planning_calls_nested run classified
  exact ⟨_, _, _, _, run, classified, rfl, rfl, calls, current _ _ rfl, active⟩

end CardinalityAdvisor
