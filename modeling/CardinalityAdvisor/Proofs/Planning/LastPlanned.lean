import CardinalityAdvisor.Proofs.Planning.Outages

/-!
# The planning call that is remembered

The planner hook remembers the policy of the planning call that it entered last. When a query was
planned and executed, its time is reported with the policy that is remembered. The policy is noted
before the delegate runs, and nothing puts an earlier one back when a call ends. So after a planning
call its own policy is remembered only if its delegate has not planned other queries through the
same hook. Else it is the policy of the query that the delegate began to plan last, and the time is
added to the class of that query.

## Main definitions

* `KeepsPolicies s s'`, `PassesHook s s'`: policies stay as they are but for their planning times,
  and the planner hook is not entered
* `HookHistory s entries s'`: queries are planned through the hook, nested in any way, and `entries`
  are the calls with the one that was entered last first
* `PlansOnHook s s'`: there is such a run
* `Charges id hash s`: a time that is reported with a policy goes to a class

## Main results

* `HookHistory.lastPolicy`: what is remembered after a run
* `plansOnHook_planHook`: the hook plans a query by such a run, if its delegate does nothing else
* `remembered_of_planned`: what is remembered after a planning call, and the class that is charged
-/

namespace CardinalityAdvisor

open CardinalityAdvisor.Action

/-! ## Policies that are kept -/

/-- The policies that there are stay as they are, but for their planning times. -/
structure KeepsPolicies (s s' : Session) : Prop where
  nextPolicy : s.nextPolicy ≤ s'.nextPolicy
  policies : ∀ id < s.nextPolicy, ∃ time,
    s'.policies id = { s.policies id with planningTime := time }

theorem KeepsPolicies.of_same {s s' : Session} (nextPolicy : s.nextPolicy ≤ s'.nextPolicy)
    (policies : ∀ id < s.nextPolicy, s'.policies id = s.policies id) : KeepsPolicies s s' :=
  ⟨nextPolicy, fun id old => ⟨(s.policies id).planningTime, policies id old⟩⟩

/-- Which policy is remembered does not matter to the policies that are kept. -/
theorem KeepsPolicies.of_remembered {s s' : Session} {id : Option PolicyId}
    (h : KeepsPolicies { s with lastPolicy := id } s') : KeepsPolicies s s' :=
  ⟨h.nextPolicy, h.policies⟩

instance : Std.Refl KeepsPolicies := ⟨fun _ => .of_same (Nat.le_refl _) fun _ _ => rfl⟩

instance : IsTrans Session KeepsPolicies where
  trans s s₁ s' h h' := by
    refine ⟨Nat.le_trans h.nextPolicy h'.nextPolicy, fun id old => ?_⟩
    obtain ⟨_, first⟩ := h.policies id old
    obtain ⟨time, later⟩ := h'.policies id (Nat.lt_of_lt_of_le old h.nextPolicy)
    exact ⟨time, by rw [later, first]⟩

/-- The planner hook is not entered, and the policies that there are stay. -/
structure PassesHook (s s' : Session) : Prop extends KeepsPolicies s s' where
  lastPolicy : s'.lastPolicy = s.lastPolicy

instance : Std.Refl PassesHook := ⟨fun s => ⟨refl_of KeepsPolicies s, rfl⟩⟩

instance : IsTrans Session PassesHook where
  trans _ _ _ h h' := ⟨trans_of KeepsPolicies h.toKeepsPolicies h'.toKeepsPolicies,
    h'.lastPolicy.trans h.lastPolicy⟩

/-- To classify a query does not change what the hook remembers. -/
theorem Classification.lastPolicy {s s' : Session} {result : Except Fault Classified}
    (h : Classification s result s') : s'.lastPolicy = s.lastPolicy := by
  cases h with
  | refused _ guarded | skipped guarded | unhashed _ guarded | known _ guarded _ => rw [guarded]
  | failed _ _ guarded _ changed | entered _ guarded _ changed =>
    rw [guarded] at changed
    obtain rfl | rfl := changed <;> rfl

/-- To begin a planning call is not yet to enter the hook. -/
theorem passesHook_openCall (query : Query) : Within PassesHook (openCall query) := by
  intro s t result s' run
  have classified {r : Except Fault Classified} {s₁ : Session}
      (run : Runs (classify query) s t r s₁) : PassesHook s s₁ := by
    have classification := Classification.of_runs run
    have same := classification.sameCalls
    refine ⟨.of_same (Nat.le_of_eq same.nextPolicy.symm) fun _ _ => ?_, classification.lastPolicy⟩
    rw [same.policies]
  obtain ⟨found, s₁, classifying, -, rfl⟩ | ⟨fault, -, failed⟩ := runs_openCall.mp run
  · have pushed : KeepsPolicies s₁ (s₁.push found.policy) := by
      refine .of_same (Nat.le_succ _) fun id old => ?_
      rw [Session.push_policies, if_neg (Nat.ne_of_lt old)]
    exact trans_of PassesHook (classified classifying) ⟨pushed, rfl⟩
  · exact classified failed

theorem passesHook_closeCall (call : PlanningCall) : Within PassesHook (closeCall call) := by
  have pop : Within PassesHook popPolicy := by
    intro s t result s' run
    rw [popPolicy, runs_get_bind] at run
    split at run
    · obtain ⟨-, -, rfl⟩ := runs_pure.mp run
      exact ⟨.of_same (Nat.le_refl _) fun _ _ => rfl, rfl⟩
    · obtain ⟨-, -, rfl⟩ := runs_throw.mp run
      exact refl_of PassesHook _
  have release (hash : Int) (s : Session) : PassesHook s (s.release hash) :=
    ⟨.of_same (Nat.le_refl _) fun _ _ => rfl, rfl⟩
  have note (id : PolicyId) : Within PassesHook (noteTime id) := by
    intro s t result s' run
    obtain ⟨-, rfl | ⟨time, rfl⟩⟩ := runs_noteTime run
    · exact refl_of PassesHook _
    · refine ⟨⟨Nat.le_refl _, fun other _ => ?_⟩, rfl⟩
      by_cases same : other = id
      · subst same
        exact ⟨time, if_pos rfl⟩
      · exact ⟨(s.policies other).planningTime, if_neg same⟩
  refine pop.bind fun _ => ?_
  exact .ite ((within_modify fun s => release _ s).bind fun _ => note _)
    ((within_pure _).bind fun _ => note _)

/-! ## Runs on a hook -/

/-- A planning call that was entered through the planner hook, with the policy that it was begun
with. -/
structure Entry where
  id : PolicyId
  policy : PlanningPolicy

/-- A call was entered between two sessions, and its policy is still what it was but for the
planning time. -/
structure Entry.IsBetween (e : Entry) (s s' : Session) : Prop where
  new : s.nextPolicy ≤ e.id
  old : e.id < s'.nextPolicy
  policy : ∃ time, s'.policies e.id = { e.policy with planningTime := time }

namespace Entry.IsBetween

variable {e : Entry} {s s₁ s' : Session}

theorem later (h : e.IsBetween s s₁) (keeps : KeepsPolicies s₁ s') : e.IsBetween s s' := by
  refine ⟨h.new, Nat.lt_of_lt_of_le h.old keeps.nextPolicy, ?_⟩
  obtain ⟨_, first⟩ := h.policy
  obtain ⟨time, second⟩ := keeps.policies e.id h.old
  exact ⟨time, by rw [second, first]⟩

theorem earlier (keeps : KeepsPolicies s s₁) (h : e.IsBetween s₁ s') : e.IsBetween s s' :=
  ⟨Nat.le_trans keeps.nextPolicy h.new, h.old, h.policy⟩

/-- A call that begins has a new policy. -/
theorem of_openCall {query : Query} {t : List Asked} {call : PlanningCall}
    (run : Runs (openCall query) s t (.ok call) s') :
    IsBetween ⟨call.policy, s'.policies call.policy⟩ s s' := by
  obtain ⟨s₁, classified, number, pushed⟩ := Opened.of_runs run
  have next : s'.nextPolicy = s₁.nextPolicy + 1 := by rw [pushed, Session.push_nextPolicy]
  refine ⟨?_, ?_, ⟨(s'.policies call.policy).planningTime, rfl⟩⟩
  · exact Nat.le_of_eq (classified.sameCalls.nextPolicy.symm.trans number.symm)
  · rw [next, number]
    exact Nat.lt_succ_self _

end Entry.IsBetween

/-- Queries are planned through the planner hook, one after the other and nested in any way, and
anything else may happen that passes the hook by. The calls are listed with the one that was entered
last first. -/
inductive HookHistory : Session → List Entry → Session → Prop
  | start (s : Session) : HookHistory s [] s
  | aside {s s₁ s' : Session} {entries : List Entry} : HookHistory s entries s₁ →
      PassesHook s₁ s' → HookHistory s entries s'
  | planned {s s₁ s₂ s₃ s' : Session} {entries inner : List Entry} {query : Query}
      {t t' : List Asked} {call : PlanningCall} {result : Except Fault Unit} :
      HookHistory s entries s₁ → Runs (openCall query) s₁ t (.ok call) s₂ →
      HookHistory { s₂ with lastPolicy := some call.policy } inner s₃ →
      Runs (closeCall call) s₃ t' result s' →
      HookHistory s (inner ++ ⟨call.policy, s₂.policies call.policy⟩ :: entries) s'

namespace HookHistory

variable {s s' : Session} {entries : List Entry}

/-- The policies that there were before a run stay. -/
theorem keepsPolicies (h : HookHistory s entries s') : KeepsPolicies s s' := by
  induction h with
  | start s => exact refl_of KeepsPolicies s
  | aside _ passes ih => exact trans_of KeepsPolicies ih passes.toKeepsPolicies
  | @planned _ _ s₂ s₃ _ _ _ query _ _ call _ _ opened _ closed ih inner =>
    have begun : KeepsPolicies s₂ s₃ := inner.of_remembered
    have ends := passesHook_closeCall call closed
    exact trans_of KeepsPolicies (trans_of KeepsPolicies ih
      (passesHook_openCall query opened).toKeepsPolicies)
      (trans_of KeepsPolicies begun ends.toKeepsPolicies)

/-- **What is remembered after a run** is the policy of the call that was entered last, or what was
remembered before if there was none. -/
theorem lastPolicy (h : HookHistory s entries s') :
    s'.lastPolicy = (entries.head?.map Entry.id).or s.lastPolicy := by
  induction h with
  | start s => rfl
  | aside _ passes ih => rw [passes.lastPolicy, ih]
  | @planned _ _ _ _ _ _ inner _ _ _ call _ _ _ _ closed _ ih =>
    rw [(passesHook_closeCall call closed).lastPolicy, ih]
    cases inner with
    | nil => rfl
    | cons e rest => rfl

/-- The calls of a run are entered in the run, and their policies are kept. -/
theorem isBetween (h : HookHistory s entries s') : ∀ e ∈ entries, e.IsBetween s s' := by
  induction h with
  | start => exact List.forall_mem_nil _
  | aside _ passes ih => exact fun e member => (ih e member).later passes.toKeepsPolicies
  | @planned s s₁ s₂ s₃ s' _ _ query _ _ call _ before opened inside closed earlier inner =>
    have first : KeepsPolicies s s₁ := before.keepsPolicies
    have opening : KeepsPolicies s₁ s₂ := (passesHook_openCall query opened).toKeepsPolicies
    have begun : KeepsPolicies s₂ s₃ := inside.keepsPolicies.of_remembered
    have ending : KeepsPolicies s₃ s' := (passesHook_closeCall call closed).toKeepsPolicies
    have inward := trans_of KeepsPolicies first opening
    have outward := trans_of KeepsPolicies begun ending
    intro e member
    rcases List.mem_append.mp member with nested | member
    · obtain ⟨new, old, policy⟩ := inner e nested
      have between : e.IsBetween s₂ s₃ := ⟨new, old, policy⟩
      exact (between.later ending).earlier inward
    rcases List.mem_cons.mp member with rfl | old
    · exact ((Entry.IsBetween.of_openCall opened).later outward).earlier first
    · exact ((earlier e old).later opening).later outward

end HookHistory

/-- There is a run on the planner hook that leads from one session to another. -/
def PlansOnHook (s s' : Session) : Prop := ∃ entries, HookHistory s entries s'

instance : Std.Refl PlansOnHook := ⟨fun s => ⟨[], .start s⟩⟩

theorem PassesHook.plansOnHook {s s' : Session} (h : PassesHook s s') : PlansOnHook s s' :=
  ⟨[], .aside (.start s) h⟩

section

variable {β γ : Type} {delegate : Query → γ → Action β}

/-- A query that is planned by a delegate is a call of the hook, with the calls that the delegate
makes inside. -/
theorem HookHistory.of_delegated {query : Query} {given : γ} {s s' : Session} {t : List Asked}
    {result : Except Fault β} {d : Delegation β} {inner : List Entry}
    (delegated : Delegated query (delegate query given) s t result s' d)
    (inside : HookHistory d.begun inner d.ended) :
    HookHistory s (inner ++ [⟨d.call.policy, d.begun.policies d.call.policy⟩]) s' := by
  obtain ⟨s₁, opened, begun⟩ := delegated.opened
  obtain ⟨_, closed⟩ := delegated.closed
  rw [begun] at inside ⊢
  have run := HookHistory.planned (.start s) opened inside closed
  exact run

/-- **The planner hook** plans a query by a run on the hook if its delegate does nothing else. So the
delegate of a hook may plan queries through the hook, to any depth. -/
theorem plansOnHook_planHook (plans : ∀ query given, Within PlansOnHook (delegate query given))
    (query : Query) (given : γ) :
    Within PlansOnHook (planHook (fun a => a.run)
      (fun query given => (delegate query given).run) query given : Action β) := by
  intro s t result s' run
  obtain ⟨_, -, refused⟩ | ⟨d, delegated⟩ := refused_or_delegated run
  · exact (passesHook_openCall query refused).plansOnHook
  · obtain ⟨inner, inside⟩ := plans query given delegated.planned
    exact ⟨_, .of_delegated delegated inside⟩

/-! ## The class that is charged -/

/-- A time that is reported with a policy is added to the profile of a class, less the time of
planning. It is ignored only if there is no profile or no start of planning. -/
def Charges (id : PolicyId) (hash : Int) (s : Session) : Prop :=
  ∀ total t result s', Runs (finishExecution id total) s t result s' →
    result = .ok .disabled ∧ s' = s ∧ (s.profile = none ∨ (s.policies id).start = none) ∨
      ∃ table update, s.profile = some table ∧
        update = table.update hash (total - larger (s.policies id).planningTime 0) ∧
        result = .ok update.1 ∧ s' = { s with profile := some update.2 }

theorem charges_queryHash (id : PolicyId) (s : Session) :
    Charges id (s.policies id).queryHash s := by
  intro total t result s' run
  rw [finishExecution, runs_get_bind] at run
  dsimp only at run
  split at run
  · rename_i table start kept stamped
    rw [runs_set_bind] at run
    refine .inr ⟨table, _, kept, rfl, ?_⟩
    split at run
    · obtain ⟨_, _, -, last⟩ := runs_ask_bind.mp run
      obtain ⟨-, same, changed⟩ := runs_pure.mp last
      exact ⟨same, changed⟩
    · obtain ⟨-, same, changed⟩ := runs_pure.mp run
      exact ⟨same, changed⟩
  · rename_i missing
    obtain ⟨-, rfl, rfl⟩ := runs_pure.mp run
    refine .inl ⟨rfl, rfl, ?_⟩
    cases kept : s'.profile with
    | none => exact .inl rfl
    | some table =>
      cases stamped : (s'.policies id).start with
      | none => exact .inr rfl
      | some start => exact (missing table start kept stamped).elim

/-- **The planning call that is remembered** after a call of the planner hook is the one that was
entered last: the call itself if its delegate has planned no other query through the hook, and only
then. A time that is reported with the policy that is remembered goes to the class of that call. -/
theorem remembered_of_planned {query : Query} {given : γ} {s s' : Session} {t : List Asked}
    {plan : β} (plans : ∀ query given, Within PlansOnHook (delegate query given))
    (run : Runs (planHook (fun a => a.run) (fun query given => (delegate query given).run) query
      given : Action β) s t (.ok plan) s') :
    ∃ d own inner latest,
      Delegated query (delegate query given) s t (.ok plan) s' d ∧
      own = ⟨d.call.policy, d.begun.policies d.call.policy⟩ ∧
      HookHistory d.begun inner d.ended ∧ (inner ++ [own]).head? = some latest ∧
      s'.lastPolicy = some latest.id ∧ (latest.id = own.id ↔ inner = []) ∧
      (∃ time, s'.policies latest.id = { latest.policy with planningTime := time }) ∧
      Charges latest.id latest.policy.queryHash s' := by
  obtain ⟨_, failed, -⟩ | ⟨d, delegated⟩ := refused_or_delegated run
  · cases failed
  obtain ⟨inner, inside⟩ := plans query given delegated.planned
  have whole := HookHistory.of_delegated delegated inside
  generalize named : (⟨d.call.policy, d.begun.policies d.call.policy⟩ : Entry) = own at whole
  obtain ⟨latest, rest, listed⟩ : ∃ latest rest, inner ++ [own] = latest :: rest :=
    List.exists_cons_of_ne_nil (by simp)
  have remembered := whole.lastPolicy
  have between := whole.isBetween latest (by rw [listed]; exact List.mem_cons_self)
  obtain ⟨time, kept⟩ := between.policy
  rw [listed] at remembered
  refine ⟨d, own, inner, latest, delegated, named.symm, inside, by rw [listed]; rfl, remembered,
    ⟨fun same => ?_, ?_⟩, ⟨time, kept⟩, ?_⟩
  · cases inner with
    | nil => rfl
    | cons e others =>
      obtain rfl : e = latest := (List.cons.inj listed).1
      obtain ⟨s₁, opened, begun⟩ := delegated.opened
      have new := (inside.isBetween e List.mem_cons_self).new
      have old := (Entry.IsBetween.of_openCall opened).old
      rw [begun] at new
      rw [← named] at same
      exact absurd old (Nat.not_lt_of_le (same ▸ new))
  · rintro rfl
    rw [(List.cons.inj listed).1]
  · have charges := charges_queryHash latest.id s'
    have own : (s'.policies latest.id).queryHash = latest.policy.queryHash := by rw [kept]
    rwa [own] at charges

end

/-- A delegate that plans the deletion of rows, through the hook, while it plans another query. -/
def auxiliary (query : Query) (_ : Unit) : Action Unit :=
  if query = bareQuery .select then
    planHook (fun a => a.run) (fun _ _ => (pure () : Action Unit).run) (bareQuery .delete) ()
  else pure ()

theorem plansOnHook_auxiliary (query : Query) (given : Unit) :
    Within PlansOnHook (auxiliary query given) :=
  .ite (plansOnHook_planHook (fun _ _ => within_pure ()) _ _) (within_pure ())

/-- After a query was planned, the class of another query is charged that was planned on the way. -/
theorem remembered_of_planned_nested :
    ∃ t s', ∃ latest : Entry, Runs (planHook (fun a => a.run)
        (fun query given => (auxiliary query given).run) (bareQuery .select) () : Action Unit)
        learning t (.ok ()) s' ∧
      s'.lastPolicy = some latest.id ∧ latest.policy.queryHash ≠ bareHash ∧
      Charges latest.id latest.policy.queryHash s' := by
  let hook : Action Unit := planHook (fun a => a.run)
    (fun query given => (auxiliary query given).run) (bareQuery .select) ()
  have given : (outcome nothingStored hook learning).1.toOption = some () := by decide +kernel
  have other : ((outcome nothingStored hook learning).2.lastPolicy.map fun id =>
      ((outcome nothingStored hook learning).2.policies id).queryHash) ≠ some bareHash := by
    decide +kernel
  obtain ⟨t, run, -⟩ := exists_runs_ok given
  obtain ⟨_, _, _, latest, _, _, _, _, remembered, _, ⟨time, kept⟩, charged⟩ :=
    remembered_of_planned plansOnHook_auxiliary run
  refine ⟨t, _, latest, run, remembered, fun same => ?_, charged⟩
  rw [remembered] at other
  apply other
  rw [Option.map_some, kept, same]

end CardinalityAdvisor
