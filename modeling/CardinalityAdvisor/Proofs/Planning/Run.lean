import CardinalityAdvisor.Prediction.Records
import CardinalityAdvisor.Proofs.Session.Ends

/-!
# Runs of planning calls

Planning calls are begun and ended in any number and nested in any way. Within them, selectivities
are looked up for the hooks, and what the planning calls do not share changes in any way. A moment
of such a run is the session together with the calls in progress. The events of a run are listed
with the latest one first.

## Main definitions

* `Frame`, `Moment`: a planning call in progress, and a moment of a run
* `Lookup`, `Event`: a selectivity that was looked up, and what happens at one step
* `Step m e m'`, `Run m events m'`: one step and a run
* `PlannedBy allowed s s'`, `Planned s s'`: a run leads from one session to another and ends all
  calls that it begins

## Main results

* `Run.trans`: runs are put together
* `Delegated.plannedBy`, `within_planVia`: a query that is planned by a delegate is a run, if what
  the delegate does is
-/

namespace CardinalityAdvisor

/-- A planning call in progress: the policy it was begun with, and the session before it. -/
structure Frame where
  call : PlanningCall
  policy : PlanningPolicy
  before : Session

namespace Frame

/-- The planning calls in progress while this one was the innermost. -/
def calls (f : Frame) : List PolicyId := f.call.policy :: f.before.calls

/-- The class that a planning call activated, if it did. -/
def activated (f : Frame) : Option Int := if f.call.entered then some f.policy.queryHash else none

end Frame

/-- A moment of a run: the session, and the planning calls in progress, the innermost one first. -/
structure Moment where
  session : Session
  frames : List Frame

/-- A selectivity that was looked up. -/
structure Lookup where
  /-- The planning calls in progress. -/
  calls : List PolicyId
  key : SelectivityKey
  restriction : Restriction
  join : Option JoinType
  /-- The answer of the host, if it was asked. -/
  answer : Option Float
  value : Float

/-- What was asked of the host when a selectivity was looked up. -/
def Lookup.asked (l : Lookup) : List Asked :=
  match l.answer with
  | some answer => [⟨.selectivity l.restriction l.join, .ok answer⟩]
  | none => []

/-- What happens at one step of a run. -/
inductive Event where
  /-- A planning call begins. It may leave no selectivity remembered. -/
  | opened (emptied : Bool)
  /-- The classification of a query fails. It may leave no selectivity remembered. -/
  | refused (emptied : Bool)
  | closed
  | looked (lookup : Lookup)
  /-- Something happens that does not concern the planning calls. -/
  | elsewhere

/-- What planning calls share is the same; settings, the host and the planner may have changed. -/
structure SamePlanning (s s' : Session) : Prop extends SameCalls s s' where
  active : s'.active = s.active
  cache : s'.cache = s.cache

/-- Whether no selectivity is remembered. -/
def SelectivityCache.isEmpty (c : SelectivityCache) : Bool := c.entries.isEmpty

/-- Whether the hooks predict cardinalities. -/
def Predicts (s : Session) : Prop := s.current.usePrediction = true

theorem SameCalls.predicts {s s' : Session} (h : SameCalls s s') (hs : Predicts s) :
    Predicts s' := by
  unfold Predicts Session.current at *
  rw [h.calls, h.policies]
  exact hs

/-- One step of a run. -/
inductive Step : Moment → Event → Moment → Prop
  | opened {m : Moment} {s' : Session} {query : Query} {t : List Asked} {call : PlanningCall} :
      Action.Runs (openCall query) m.session t (.ok call) s' →
      Step m (.opened s'.cache.isEmpty) ⟨s', ⟨call, s'.policies call.policy, m.session⟩ :: m.frames⟩
  | refused {m : Moment} {s' : Session} {query : Query} {t : List Asked} {fault : Fault} :
      Action.Runs (openCall query) m.session t (.error fault) s' →
      Step m (.refused s'.cache.isEmpty) ⟨s', m.frames⟩
  | closed {s s' : Session} {frame : Frame} {outer : List Frame} {t : List Asked}
      {result : Except Fault Unit} :
      Action.Runs (closeCall frame.call) s t result s' →
      Step ⟨s, frame :: outer⟩ .closed ⟨s', outer⟩
  | looked {m : Moment} {s' : Session} {l : Lookup} :
      Predicts m.session → l.calls = m.session.calls →
      Action.Runs (selectivityOf l.key l.restriction l.join) m.session l.asked (.ok l.value) s' →
      Step m (.looked l) ⟨s', m.frames⟩
  | elsewhere {m : Moment} {s' : Session} : SamePlanning m.session s' →
      Step m .elsewhere ⟨s', m.frames⟩

/-- A run of planning calls with its events, the latest one first. -/
inductive Run (m : Moment) : List Event → Moment → Prop
  | start : Run m [] m
  | step {events : List Event} {e : Event} {m₁ m' : Moment} : Run m events m₁ → Step m₁ e m' →
      Run m (e :: events) m'

theorem Run.trans {m m₁ m' : Moment} {events later : List Event} (h : Run m events m₁)
    (h' : Run m₁ later m') : Run m (later ++ events) m' := by
  induction h' with
  | start => exact h
  | step _ step ih => exact .step ih step

/-- A selectivity that was looked up is remembered, or the host was asked and its answer is
remembered from then on. -/
theorem Lookup.of_runs {l : Lookup} {s s' : Session}
    (run : Action.Runs (selectivityOf l.key l.restriction l.join) s l.asked (.ok l.value) s') :
    (l.answer = none ∧ s.cache.find? l.key = some l.value ∧ s' = s) ∨
      ∃ answer, l.answer = some answer ∧ s.cache.find? l.key = none ∧ l.value = clamp answer ∧
        s' = { s with cache := s.cache.remember l.key answer } := by
  -- Whether the host was asked is read off the exchanges, which the lookup determines.
  obtain ⟨calls, key, restriction, join, asked, value⟩ := l
  rw [selectivityOf, Action.runs_get_bind] at run
  split at run
  · rename_i known
    obtain ⟨nothing, same, rfl⟩ := Action.runs_pure.mp run
    cases same
    cases asked with
    | none => exact .inl ⟨rfl, known, rfl⟩
    | some answer => cases nothing
  · rename_i unknown
    obtain ⟨reply, rest, same, run⟩ := Action.runs_ask_bind.mp run
    cases asked with
    | none => cases same
    | some answer =>
      cases same
      rw [Action.runs_ok_bind, Action.runs_modify_bind] at run
      obtain ⟨-, same, rfl⟩ := Action.runs_pure.mp run
      cases same
      exact .inr ⟨answer, rfl, unknown, rfl, rfl⟩

/-- What was looked up is remembered after that. -/
theorem Lookup.found {l : Lookup} {s s' : Session}
    (run : Action.Runs (selectivityOf l.key l.restriction l.join) s l.asked (.ok l.value) s') :
    s'.cache.find? l.key = some l.value := by
  obtain ⟨-, known, rfl⟩ | ⟨answer, -, -, value, rfl⟩ := Lookup.of_runs run
  · exact known
  · show (s.cache.remember l.key answer).find? l.key = _
    rw [SelectivityCache.find?_remember, if_pos rfl, value]

/-- Looking a selectivity up does not touch the planning calls in progress. -/
theorem Lookup.sameCalls {l : Lookup} {s s' : Session}
    (run : Action.Runs (selectivityOf l.key l.restriction l.join) s l.asked (.ok l.value) s') :
    SameCalls s s' := by
  obtain ⟨-, -, rfl⟩ | ⟨answer, -, -, -, rfl⟩ := Lookup.of_runs run
  · exact ⟨rfl, rfl, rfl⟩
  · exact ⟨rfl, rfl, rfl⟩

/-! ## Runs that end what they begin -/

/-- A run leads from one session to another and ends all planning calls that it begins, whatever
calls are in progress. All that happens in it is allowed. -/
def PlannedBy (allowed : Event → Prop) (s s' : Session) : Prop :=
  ∀ frames, ∃ events, (∀ e ∈ events, allowed e) ∧ Run ⟨s, frames⟩ events ⟨s', frames⟩

/-- A run ends all planning calls that it begins, whatever happens in it. -/
abbrev Planned : Session → Session → Prop := PlannedBy fun _ => True

/-- Whether something happens other than that a classification fails. -/
def Event.Classifies (e : Event) : Prop := ∀ emptied, e ≠ .refused emptied

section

variable {allowed : Event → Prop}

instance : Std.Refl (PlannedBy allowed) := ⟨fun _ _ => ⟨[], List.forall_mem_nil _, .start⟩⟩

instance : IsTrans Session (PlannedBy allowed) where
  trans s s₁ s' h h' frames := by
    obtain ⟨events, all, run⟩ := h frames
    obtain ⟨later, all', run'⟩ := h' frames
    exact ⟨later ++ events, List.forall_mem_append.mpr ⟨all', all⟩, run.trans run'⟩

theorem SamePlanning.planned {s s' : Session} (h : SamePlanning s s') :
    PlannedBy Event.Classifies s s' :=
  fun _ => ⟨[.elsewhere], List.forall_mem_singleton.mpr fun _ => Event.noConfusion,
    .step .start (.elsewhere h)⟩

/-- The planning call in which a delegate plans a query. -/
def Delegation.frame {β : Type} (d : Delegation β) (before : Session) : Frame :=
  ⟨d.call, d.begun.policies d.call.policy, before⟩

variable {β : Type} {query : Query} {delegate : Action β} {t : List Asked} {result : Except Fault β}
  {d : Delegation β}

/-- A delegate begins at a moment of the run at which its planning call is the innermost one. -/
theorem Delegated.begins {m₀ m : Moment} {events : List Event} {s' : Session}
    (delegated : Delegated query delegate m.session t result s' d) (run : Run m₀ events m) :
    Run m₀ (.elsewhere :: .opened d.begun.cache.isEmpty :: events)
      ⟨d.begun, d.frame m.session :: m.frames⟩ := by
  obtain ⟨s₁, opened, begun⟩ := delegated.opened
  rw [Delegation.frame, begun]
  exact (run.step (.opened opened)).step (.elsewhere ⟨⟨rfl, rfl, rfl⟩, rfl, rfl⟩)

/-- A query that is planned by a delegate is a run of the kind that the delegate is. -/
theorem Delegated.plannedBy {s s' : Session} (delegated : Delegated query delegate s t result s' d)
    (calls : ∀ e : Event, e.Classifies → allowed e) (inner : PlannedBy allowed d.begun d.ended) :
    PlannedBy allowed s s' := by
  intro frames
  have begun := Delegated.begins delegated (Run.start (m := ⟨s, frames⟩))
  obtain ⟨events, all, inside⟩ := inner (d.frame s :: frames)
  obtain ⟨_, closed⟩ := delegated.closed
  refine ⟨_, ?_, (begun.trans inside).step (.closed closed)⟩
  refine List.forall_mem_cons.mpr ⟨calls _ fun _ => Event.noConfusion, ?_⟩
  refine List.forall_mem_append.mpr ⟨all, List.forall_mem_cons.mpr ⟨?_, ?_⟩⟩
  · exact calls _ fun _ => Event.noConfusion
  · exact List.forall_mem_singleton.mpr (calls _ fun _ => Event.noConfusion)

/-- **A query that is planned by a delegate** is a run that ends what it begins, if the delegate
does nothing else: it may plan other queries the same way. -/
theorem within_planVia (query : Query) (inner : Action.Within Planned delegate) :
    Action.Within Planned (planVia (fun a => a.run) query delegate.run : Action β) := by
  intro s t result s' run
  obtain ⟨_, -, refused⟩ | ⟨d, delegated⟩ := refused_or_delegated run
  · exact fun _ => ⟨_, fun _ _ => trivial, .step .start (.refused refused)⟩
  · exact delegated.plannedBy (fun _ _ => trivial) (inner delegated.planned)

end

/-! ## Runs in given surroundings -/

/-- A planning call begins if it does in surroundings in which nothing is stored. -/
theorem Run.opening {m m₁ : Moment} {events : List Event} {query : Query} {call : PlanningCall}
    (run : Run m events m₁)
    (opens : (Action.outcome nothingStored (openCall query) m₁.session).1.toOption = some call) :
    Run m (.opened (m₁.session.after (openCall query)).cache.isEmpty :: events)
      ⟨m₁.session.after (openCall query),
        ⟨call, (m₁.session.after (openCall query)).policies call.policy, m₁.session⟩ ::
          m₁.frames⟩ := by
  obtain ⟨t, opened, -⟩ := Action.exists_runs nothingStored (openCall query) m₁.session
  cases result : (Action.outcome nothingStored (openCall query) m₁.session).1 with
  | error fault =>
    rw [result] at opens
    cases opens
  | ok other =>
    rw [result] at opens opened
    cases opens
    exact run.step (.opened opened)

end CardinalityAdvisor
