import CardinalityAdvisor.Proofs.Session.Within
import CardinalityAdvisor.Session.Classify
import Mathlib.Data.List.Basic

/-!
# What a classification does to its session

The guards may only find out that the knowledge base is there. A query that passes them empties
the cache of selectivities. If its class is neither deactivated nor active, the class becomes
active, and it may be deactivated for the queries that come later.

## Main definitions

* `Classification s result s'`: the ways in which a classification leads from the session `s` to
  `s'`

## Main results

* `resolvePolicy_spec`: the policy of an active class belongs to it
* `Classification.of_runs`: every run of a classification is one of these
-/

namespace CardinalityAdvisor

/-- The session may have found out whether the knowledge base is there; all else is the same. -/
def SameButConfirmed (s s' : Session) : Prop := s' = { s with confirmed := s'.confirmed }

instance : Std.Refl SameButConfirmed := ⟨fun _ => rfl⟩

instance : IsTrans Session SameButConfirmed where
  trans s s₁ s' h h' := by
    unfold SameButConfirmed at h h' ⊢
    rw [h', h]

/-- A class may have been deactivated; all else is the same. -/
def SameButDeactivated (hash : Int) (s s' : Session) : Prop :=
  s' = s ∨ s' = { s with deactivated := s.deactivated.insert hash }

instance (hash : Int) : Std.Refl (SameButDeactivated hash) := ⟨fun _ => .inl rfl⟩

instance (hash : Int) : IsTrans Session (SameButDeactivated hash) where
  trans s s₁ s' h h' := by
    rcases h with rfl | rfl
    · exact h'
    · rcases h' with rfl | rfl
      · exact .inr rfl
      · refine .inr ?_
        simp only [List.insert_of_mem List.mem_insert_self]

/-! ## The parts of a classification -/

theorem within_logClassification {R : Session → Session → Prop} [Std.Refl R] [IsTrans Session R]
    (entries : List Value) : Action.Within R (logClassification entries) :=
  Action.within_get.bind fun _ => Action.within_logIf _ _ _

theorem resolve_leavesSession (query : Query) : query.resolve.LeavesSession := by
  unfold Query.resolve
  split
  · exact Action.within_pure _
  · exact (Action.within_ask _).bind fun _ => Action.within_ofResult _
  · exact Action.within_throw _

theorem registerUnderLock_leavesSession (policy : PlanningPolicy) (text : Option String) :
    (registerUnderLock policy text).LeavesSession := by
  have calls (call : Knowledge.Call) :
      Action.LeavesSession (do ofResult (← Action.knowledge call)) :=
    (Action.within_knowledge call).bind fun reply => Action.within_ofResult reply
  unfold registerUnderLock
  refine (calls _).bind fun found => ?_
  cases text with
  | none =>
    refine .ite ?_ (Action.within_pure _)
    exact (calls _).bind fun _ => (within_logClassification _).bind fun _ => Action.within_pure _
  | some text =>
    refine .ite ?_ (calls _)
    exact (calls _).bind fun _ => (within_logClassification _).bind fun _ => calls _

theorem registerClass_leavesSession (policy : PlanningPolicy) (text : Option String) :
    (registerClass policy text).LeavesSession := by
  unfold registerClass
  refine Action.within_get.bind fun s => ?_
  refine ((registerUnderLock_leavesSession policy text).withLock _ _).attempt.bind fun r => ?_
  split
  · exact Action.within_pure _
  · exact (within_logClassification _).bind fun _ => Action.within_pure _
  · exact Action.within_throw _

/-- Finding out whether the knowledge base is there changes nothing else. -/
theorem within_knowledgePresent : Action.Within SameButConfirmed knowledgePresent := by
  intro s t result s' run
  simp only [knowledgePresent, Action.runs_get_bind] at run
  split at run
  · exact Action.within_pure _ run
  split at run
  · exact Action.within_pure _ run
  obtain ⟨reply, rest, -, run⟩ := Action.runs_knowledge_bind.mp run
  split at run
  · rw [Action.runs_set_bind, Action.runs_pure] at run
    rw [run.2.2]
    rfl
  · rw [Action.runs_set_bind, Action.runs_pure] at run
    rw [run.2.2]
    rfl
  · exact Action.within_throw _ run

/-- The guards change nothing but what is known about the knowledge base. -/
theorem within_skipReason (stmt : Json) (mode : Mode) :
    Action.Within SameButConfirmed (skipReason stmt mode) := by
  unfold skipReason
  refine within_knowledgePresent.bind fun present => .ite (Action.within_pure _) ?_
  refine Action.within_get.bind fun s => (Action.within_ofTree _).bind fun kind => ?_
  refine .ite (Action.within_pure _) (.ite (Action.within_pure _) ?_)
  refine (Action.within_ofResult _).bind fun nothing => .ite (Action.within_pure _) ?_
  refine (Action.within_ofResult _).bind fun patterns => ?_
  refine (Action.within_ofResult _).bind fun proxy => .ite (Action.within_pure _) ?_
  refine (Action.within_ask _).bind fun own => (Action.within_ofTree _).bind fun system => ?_
  exact .ite (Action.within_pure _) (.ite (Action.within_pure _) (Action.within_pure _))

theorem within_deactivateIfIdle (hash : Int) (stored : Option QueryClass) (force : Bool) :
    Action.Within (SameButDeactivated hash) (deactivateIfIdle hash stored force) := by
  refine .ite ?_ (Action.within_pure _)
  exact (within_logClassification _).bind fun _ => Action.within_modify fun s => .inr rfl

theorem within_lookUpPolicy (mode : Mode) (start : PlanningPolicy) (text : Option String) :
    Action.Within (SameButDeactivated start.queryHash) (lookUpPolicy mode start text) := by
  unfold lookUpPolicy
  refine Action.within_get.bind fun s => (Action.within_knowledge _).bind fun found => ?_
  split
  · exact (within_logClassification _).bind fun _ => Action.within_pure _
  · exact Action.within_throw _
  · refine (within_deactivateIfIdle _ _ _).bind fun _ => ?_
    refine .ite ?_ (Action.within_pure _)
    refine (Action.within_of_leavesSession (registerClass_leavesSession _ _)).bind fun _ => ?_
    exact .ite (Action.within_pure _) (Action.within_pure _)

/-! ## The policy of an active class -/

/-- A policy under which statistics are collected if the settings force it. -/
def Settings.collected (settings : Settings) (policy : PlanningPolicy) : PlanningPolicy :=
  if settings.forcesCollection then policy.collecting else policy

/-- A policy with the start of planning, unless times are not kept. -/
def stampStart (settings : Settings) (policy : PlanningPolicy) : Action PlanningPolicy := do
  let timed ← if policy.isDisabled then ofResult settings.profilingEnabled else pure true
  if timed then return { policy with start := some (← Action.ask .now) }
  else return policy

/-- What resolving a policy does after a policy was looked up: one that was not usable is kept. -/
def settlePolicy (settings : Settings) (found : PlanningPolicy × Bool) : Action PlanningPolicy :=
  if !found.2 then pure found.1
  else do
    logClassification [.text "Resolved policy", .text (settings.collected found.1).jsonText]
    stampStart settings (settings.collected found.1)

theorem resolvePolicy_eq (mode : Mode) (start : PlanningPolicy) (text : Option String) :
    resolvePolicy mode start text = (do
      let s ← get
      let found ← if mode = .disabled then pure (start.disable, true)
        else lookUpPolicy mode start text
      settlePolicy s.settings found) := rfl

/-- The ways in which the policy of an active class comes out of what was looked up: a policy that
could not be used is kept, and forced collection and the start of planning are added to others. -/
inductive Settled (settings : Settings) :
    Except Fault (PlanningPolicy × Bool) → Except Fault PlanningPolicy → Prop
  | failed (fault : Fault) : Settled settings (.error fault) (.error fault)
  | unusable (policy : PlanningPolicy) : Settled settings (.ok (policy, false)) (.ok policy)
  | unprofiled (policy : PlanningPolicy) (fault : Fault) :
      (settings.collected policy).isDisabled → settings.profilingEnabled = .error fault →
      Settled settings (.ok (policy, true)) (.error fault)
  | untimed (policy : PlanningPolicy) :
      (settings.collected policy).isDisabled → settings.profilingEnabled = .ok false →
      Settled settings (.ok (policy, true)) (.ok (settings.collected policy))
  | timed (policy : PlanningPolicy) (start : Float) :
      ((settings.collected policy).isDisabled → settings.profilingEnabled = .ok true) →
      Settled settings (.ok (policy, true))
        (.ok { settings.collected policy with start := some start })

theorem within_stampStart {R : Session → Session → Prop} [Std.Refl R] [IsTrans Session R]
    (settings : Settings) (policy : PlanningPolicy) :
    Action.Within R (stampStart settings policy) := by
  have finish (timed : Bool) : Action.Within R (do
      if timed then return { policy with start := some (← Action.ask .now) } else return policy) :=
    .ite ((Action.within_ask _).bind fun _ => Action.within_pure _) (Action.within_pure _)
  exact .ite ((Action.within_ofResult _).bind finish) ((Action.within_pure _).bind finish)

theorem within_settlePolicy {R : Session → Session → Prop} [Std.Refl R] [IsTrans Session R]
    (settings : Settings) (found : PlanningPolicy × Bool) :
    Action.Within R (settlePolicy settings found) :=
  .ite (Action.within_pure _)
    ((within_logClassification _).bind fun _ => within_stampStart _ _)

/-- Logging a classification neither fails nor changes anything. -/
theorem runs_logClassification_bind {α : Type} {entries : List Value} {f : Unit → Action α}
    {s s' : Session} {t : List Asked} {result : Except Fault α}
    (run : Action.Runs (logClassification entries >>= f) s t result s') :
    ∃ t, Action.Runs (f ()) s t result s' := by
  have logged {t : List Asked} {r : Except Fault Unit} {s₁ : Session}
      (run : Action.Runs (logClassification entries) s t r s₁) : r = .ok () := by
    rw [logClassification, Action.runs_get_bind, Action.logIf] at run
    split at run
    · obtain ⟨_, -, rfl, -⟩ := Action.runs_ask.mp run
      rfl
    · exact (Action.runs_pure.mp run).2.1
  obtain ⟨_, t₂, _, s₁, -, log, rest⟩ | ⟨fault, -, log⟩ := Action.runs_bind.mp run
  · have same : s = s₁ := within_logClassification _ log
    rw [same]
    exact ⟨t₂, rest⟩
  · cases logged log

/-- What was looked up is settled when a policy is resolved. -/
theorem settlePolicy_settled {settings : Settings} {found : PlanningPolicy × Bool}
    {s s' : Session} {t : List Asked} {result : Except Fault PlanningPolicy}
    (run : Action.Runs (settlePolicy settings found) s t result s') :
    Settled settings (.ok found) result := by
  obtain ⟨policy, _ | _⟩ := found
  · obtain ⟨-, rfl, -⟩ := Action.runs_pure.mp run
    exact .unusable policy
  obtain ⟨_, run⟩ := runs_logClassification_bind run
  have stamped {t : List Asked} {s : Session}
      (timed : (settings.collected policy).isDisabled → settings.profilingEnabled = .ok true)
      (run : Action.Runs (do return { settings.collected policy with
        start := some (← Action.ask .now) }) s t result s') :
      Settled settings (.ok (policy, true)) result := by
    obtain ⟨now, _, -, run⟩ := Action.runs_ask_bind.mp run
    obtain ⟨-, rfl, -⟩ := Action.runs_pure.mp run
    exact .timed policy now timed
  rw [stampStart] at run
  split at run
  · rename_i off
    cases profiling : settings.profilingEnabled with
    | error fault =>
      rw [profiling, Action.runs_error_bind] at run
      obtain ⟨-, rfl, -⟩ := run
      exact .unprofiled policy fault off profiling
    | ok kept =>
      rw [profiling, Action.runs_ok_bind] at run
      cases kept with
      | false =>
        obtain ⟨-, rfl, -⟩ := Action.runs_pure.mp run
        exact .untimed policy off profiling
      | true => exact stamped (fun _ => profiling) run
  · rename_i on
    exact stamped (fun off => absurd off on) run

/-- The policy of an active class is settled from what was looked up, in the session that looking
it up led to. Nothing is looked up in disabled mode. -/
theorem resolvePolicy_settled {mode : Mode} {start : PlanningPolicy} {text : Option String}
    {s s' : Session} {t : List Asked} {result : Except Fault PlanningPolicy}
    (run : Action.Runs (resolvePolicy mode start text) s t result s') :
    ∃ found, Settled s.settings found result ∧
      (mode = .disabled ∧ found = .ok (start.disable, true) ∧ s' = s ∨
        mode ≠ .disabled ∧ ∃ part ⊆ t,
          Action.Runs (lookUpPolicy mode start text) s part found s') := by
  rw [resolvePolicy_eq, Action.runs_get_bind] at run
  split at run
  · rename_i off
    rw [Action.runs_pure_bind] at run
    have unchanged : s = s' := within_settlePolicy _ _ run
    exact ⟨_, settlePolicy_settled run, .inl ⟨off, rfl, unchanged.symm⟩⟩
  rename_i on
  obtain ⟨t₁, t₂, found, s₁, rfl, lookUp, settle⟩ | ⟨fault, rfl, failed⟩ :=
    Action.runs_bind.mp run
  · have unchanged : s₁ = s' := within_settlePolicy _ _ settle
    rw [unchanged] at lookUp
    have within : t₁ ⊆ t₁ ++ t₂ := List.subset_append_left _ _
    exact ⟨_, settlePolicy_settled settle, .inr ⟨on, t₁, within, lookUp⟩⟩
  · exact ⟨_, .failed fault, .inr ⟨on, t, List.Subset.refl _, failed⟩⟩

/-- A looked-up policy belongs to the class it was looked up for. -/
theorem lookUpPolicy_queryHash (mode : Mode) (start : PlanningPolicy) (text : Option String) :
    Action.Gives (fun found => found.1.queryHash = start.queryHash)
      (lookUpPolicy mode start text) := by
  have underMode (stored : Option QueryClass) :
      (start.underMode mode stored).queryHash = start.queryHash := by
    cases stored <;> rfl
  unfold lookUpPolicy
  refine .bind fun s => .bind fun found => ?_
  split
  · exact .bind fun _ => Action.gives_pure rfl
  · exact Action.gives_throw _
  · rename_i stored
    have unusable := underMode stored
    have kept : Action.Gives (fun found => found.1.queryHash = start.queryHash)
        (pure (start.underMode mode stored, true)) := Action.gives_pure (underMode stored)
    exact .bind fun _ => .ite (.bind fun _ => .ite (Action.gives_pure unusable) kept) kept

/-- A settled policy belongs to the class whose policy was looked up. -/
theorem Settled.queryHash {settings : Settings} {found : PlanningPolicy × Bool}
    {policy : PlanningPolicy} (h : Settled settings (.ok found) (.ok policy)) :
    policy.queryHash = found.1.queryHash := by
  have collected (p : PlanningPolicy) : (settings.collected p).queryHash = p.queryHash := by
    unfold Settings.collected
    split <;> rfl
  cases h with
  | unusable => rfl
  | untimed | timed => exact collected _

/-! ## The whole classification -/

/-- The session in which a class becomes active: what is remembered was forgotten before. -/
def Session.activate (s : Session) (hash : Int) : Session :=
  { s with cache := .clear, active := hash :: s.active }

/-- The ways in which a classification leads from one session to another. -/
inductive Classification (s : Session) : Except Fault Classified → Session → Prop
  /-- There is no statement, or the guards fail. -/
  | refused {s' : Session} (fault : Fault) : SameButConfirmed s s' →
      Classification s (.error fault) s'
  /-- A guard applies. -/
  | skipped {s' : Session} : SameButConfirmed s s' → Classification s (.ok (.passedOver 0)) s'
  /-- The statement has no fingerprint. -/
  | unhashed {s₁ : Session} (fault : Fault) : SameButConfirmed s s₁ →
      Classification s (.error fault) { s₁ with cache := .clear }
  /-- The class is deactivated, or its queries are being planned. -/
  | known {s₁ : Session} (hash : Int) : SameButConfirmed s s₁ →
      hash ∈ s.deactivated ∨ hash ∈ s.active →
      Classification s (.ok (.passedOver hash)) { s₁ with cache := .clear }
  /-- The class becomes active, and then there is no policy for it. -/
  | failed {s₁ s' : Session} (hash : Int) (fault : Fault) : SameButConfirmed s s₁ →
      hash ∉ s.active → SameButDeactivated hash (s₁.activate hash) s' →
      Classification s (.error fault) s'
  /-- The class becomes active, and it has a policy. -/
  | entered {s₁ s' : Session} (policy : PlanningPolicy) : SameButConfirmed s s₁ →
      policy.queryHash ∉ s.active →
      SameButDeactivated policy.queryHash (s₁.activate policy.queryHash) s' →
      Classification s (.ok ⟨policy, true⟩) s'

/-- The policy of an active class belongs to it, and a class may be deactivated while its policy
is resolved. -/
theorem resolvePolicy_spec {mode : Mode} {start : PlanningPolicy} {text : Option String}
    {s s' : Session} {t : List Asked} {result : Except Fault PlanningPolicy}
    (run : Action.Runs (resolvePolicy mode start text) s t result s') :
    SameButDeactivated start.queryHash s s' ∧
      ∀ policy, result = .ok policy → policy.queryHash = start.queryHash := by
  obtain ⟨found, settled, ⟨-, rfl, rfl⟩ | ⟨-, _, -, lookUp⟩⟩ := resolvePolicy_settled run
  · refine ⟨.inl rfl, ?_⟩
    rintro policy rfl
    exact settled.queryHash
  · refine ⟨within_lookUpPolicy _ _ _ lookUp, ?_⟩
    rintro policy rfl
    cases found with
    | error fault => cases settled
    | ok found => exact settled.queryHash.trans (lookUpPolicy_queryHash _ _ _ lookUp)

theorem Classification.of_classifyHash {mode : Mode} {hash : Int} {explained : Bool}
    {text : Option String} {s s₁ s' : Session} {t : List Asked}
    {result : Except Fault Classified} (guarded : SameButConfirmed s s₁)
    (run : Action.Runs (classifyHash mode hash explained text) { s₁ with cache := .clear } t result
      s') :
    Classification s result s' := by
  have active : s₁.active = s.active := by rw [guarded]
  have deactivated : s₁.deactivated = s.deactivated := by rw [guarded]
  rw [classifyHash, Action.runs_get_bind] at run
  split at run
  · rename_i idle
    obtain ⟨_, run⟩ := runs_logClassification_bind run
    obtain ⟨-, rfl, rfl⟩ := Action.runs_pure.mp run
    rw [List.contains_iff_mem, deactivated] at idle
    exact .known hash guarded (.inl idle)
  split at run
  · rename_i planned
    obtain ⟨_, run⟩ := runs_logClassification_bind run
    obtain ⟨-, rfl, rfl⟩ := Action.runs_pure.mp run
    rw [List.contains_iff_mem, active] at planned
    exact .known hash guarded (.inr planned)
  rename_i free
  rw [List.contains_iff_mem, active] at free
  obtain ⟨_, run⟩ := runs_logClassification_bind run
  rw [Action.runs_modify_bind] at run
  obtain ⟨_, _, policy, _, -, resolve, run⟩ | ⟨fault, rfl, resolve⟩ := Action.runs_bind.mp run
  · obtain ⟨changed, own⟩ := resolvePolicy_spec resolve
    obtain ⟨-, rfl, rfl⟩ := Action.runs_pure.mp run
    obtain rfl : policy.queryHash = hash := own policy rfl
    exact .entered policy guarded free changed
  · exact .failed hash fault guarded free (resolvePolicy_spec resolve).1

/-- **Every classification** leads to another session in one of these ways. -/
theorem Classification.of_runs {query : Query} {s s' : Session} {t : List Asked}
    {result : Except Fault Classified} (run : Action.Runs (classify query) s t result s') :
    Classification s result s' := by
  rw [classify, Action.runs_get_bind] at run
  obtain ⟨mode, -, run⟩ | ⟨fault, -, -, rfl, rfl⟩ := Action.runs_ofResult_bind.mp run
  swap
  · exact .refused fault rfl
  obtain ⟨_, _, tree, s₁, -, resolve, run⟩ | ⟨fault, rfl, failed⟩ := Action.runs_bind.mp run
  swap
  · obtain rfl : s = s' := resolve_leavesSession query failed
    exact .refused fault rfl
  obtain rfl : s = s₁ := resolve_leavesSession query resolve
  obtain ⟨⟨stmt, explained⟩, -, run⟩ | ⟨fault, -, -, rfl, rfl⟩ := Action.runs_ofTree_bind.mp run
  swap
  · exact .refused fault rfl
  obtain ⟨_, _, reason, s₁, -, guards, run⟩ | ⟨fault, rfl, failed⟩ := Action.runs_bind.mp run
  swap
  · exact .refused fault (within_skipReason _ _ failed)
  have guarded : SameButConfirmed s s₁ := within_skipReason _ _ guards
  cases reason with
  | some reason =>
    obtain ⟨_, run⟩ := runs_logClassification_bind run
    obtain ⟨-, rfl, rfl⟩ := Action.runs_pure.mp run
    exact .skipped guarded
  | none =>
    rw [Action.runs_modify_bind] at run
    obtain ⟨hash, -, run⟩ | ⟨fault, -, -, rfl, rfl⟩ := Action.runs_ofTree_bind.mp run
    · exact .of_classifyHash guarded run
    · exact .unhashed fault guarded

/-- A query without conditions. -/
def bareQuery (kind : StatementKind) : Query := ⟨some (.object [(kind.tag, .object [])]), none⟩

/-- The class of a query without conditions that selects something. -/
def bareHash : Int := Fingerprint.expressionKey (.object [(StatementKind.select.tag, .object [])])

end CardinalityAdvisor
