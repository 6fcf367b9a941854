import CardinalityAdvisor.Proofs.Knowledge.Outages
import CardinalityAdvisor.Proofs.Session.Faults
import CardinalityAdvisor.Proofs.Session.Outages
import CardinalityAdvisor.Proofs.Session.ReservedRelations

/-!
# Classifications that endure outages

Whatever calls to the knowledge base fail, the classification of a statement comes to an end and
gives a policy. The registration of a class fails only because the knowledge base is unavailable,
and that is caught; nothing else fails under settings of the right types.

## Main definitions

* `Action.Endures action`: whatever calls fail, an action does not fail
* `Action.Suffers action`: an action fails only because the knowledge base is unavailable
* `Serves own t`: what the exchanges of a run take from the knowledge base
* `Query.Poses query t stmt explained`: a query poses a statement

## Main results

* `endures_lookUpPolicy`: looking up the policy of a class endures all outages
* `exists_classified`: so does the classification of a statement
-/

namespace CardinalityAdvisor

open CardinalityAdvisor.Action

/-! ## Enduring and suffering outages -/

/-- If an exchange is one with the knowledge base, it is one that a knowledge base may have. -/
def Asked.IsServed (x : Asked) : Prop :=
  ∀ call reply, x = ⟨.knowledge call, reply⟩ → Knowledge.MayReply call reply

theorem Asked.IsServed.isUnavailable {call : Knowledge.Call} {fault : Fault}
    (h : Asked.IsServed ⟨.knowledge call, .error fault⟩) : fault.IsUnavailable :=
  (h call _ rfl).isUnavailable

namespace Action

variable {α : Type}

/-- Whatever calls to the knowledge base fail, an action does not fail. -/
abbrev Endures (action : Action α) : Prop := FailsWith Asked.IsServed (fun _ => False) action

/-- An action fails only because the knowledge base is unavailable. -/
abbrev Suffers (action : Action α) : Prop := FailsWith Asked.IsServed Fault.IsUnavailable action

theorem FailsWith.mono {A : Asked → Prop} {P Q : Fault → Prop} {action : Action α}
    (h : FailsWith A P action) (weaker : ∀ fault, P fault → Q fault) : FailsWith A Q action :=
  fun _ _ _ _ run replies => weaker _ (h run replies)

end Action

theorem failsWith_logClassification {A : Asked → Prop} {P : Fault → Prop} (entries : List Value) :
    FailsWith A P (logClassification entries) :=
  failsWith_get.bind fun _ => failsWith_logIf _ _ _

/-- What comes after a line of the log runs from the same session. -/
theorem runs_logged_bind {α : Type} {entries : List Value} {f : Unit → Action α}
    {s s' : Session} {t : List Asked} {result : Except Fault α}
    (run : Runs (logClassification entries >>= f) s t result s') :
    ∃ rest ⊆ t, Runs (f ()) s rest result s' := by
  obtain ⟨t₁, rest, _, s₁, rfl, logged, goesOn⟩ | ⟨fault, -, failed⟩ := runs_bind.mp run
  · obtain rfl : s = s₁ := within_logClassification _ logged
    exact ⟨rest, List.subset_append_right _ _, goesOn⟩
  · exact (failsWith_logClassification (A := fun _ => True) (P := fun _ => False) entries failed
      fun _ _ => trivial).elim

/-- The registration of a class under its lock fails only as its calls do. -/
theorem failsWith_registerUnderLock {A : Asked → Prop} {P : Fault → Prop}
    (policy : PlanningPolicy) (text : Option String)
    (found : ∀ fault, A ⟨.knowledge (.findClass policy.queryHash), .error fault⟩ → P fault)
    (stored : ∀ fault, A ⟨.knowledge (.upsertClass policy.queryClass), .error fault⟩ → P fault)
    (recorded : ∀ text fault,
      A ⟨.knowledge (.recordText policy.queryHash text), .error fault⟩ → P fault) :
    FailsWith A P (registerUnderLock policy text) := by
  unfold registerUnderLock
  refine (failsWith_call _ found).bind fun known => ?_
  have storing {last : Action Unit} (h : FailsWith A P last) : FailsWith A P (do
      ofResult (← knowledge (.upsertClass policy.queryClass))
      logClassification [.text "Registered query class", .int policy.queryHash]
      last) :=
    (failsWith_call _ stored).bind fun _ => (failsWith_logClassification _).bind fun _ => h
  cases text with
  | none => exact .ite (storing (failsWith_pure ())) (failsWith_pure ())
  | some text =>
    have recording := failsWith_call _ (recorded text)
    exact .ite (storing recording) recording

theorem endures_registerClass (policy : PlanningPolicy) (text : Option String) :
    Endures (registerClass policy text) := by
  unfold registerClass
  refine failsWith_get.bind fun s => ?_
  have suffers : Suffers (registerUnderLock policy text) :=
    failsWith_registerUnderLock policy text (fun _ served => served.isUnavailable)
      (fun _ served => served.isUnavailable) fun _ _ served => served.isUnavailable
  refine failsWith_attempt_bind (suffers.withLock (fun _ served => served.isUnavailable)
    fun _ served => served.isUnavailable) fun r failed => ?_
  split
  · exact failsWith_pure _
  · exact (failsWith_logClassification _).bind fun _ => failsWith_pure _
  · rename_i fault other
    obtain ⟨cause, rfl⟩ := failed fault rfl
    exact absurd rfl (other cause)

theorem endures_lookUpPolicy (mode : Mode) (start : PlanningPolicy) (text : Option String) :
    Endures (lookUpPolicy mode start text) := by
  unfold lookUpPolicy
  refine failsWith_get.bind fun s => failsWith_knowledge_bind fun reply served => ?_
  split
  · exact (failsWith_logClassification _).bind fun _ => failsWith_pure _
  · rename_i fault other
    obtain ⟨cause, rfl⟩ := served.isUnavailable
    exact absurd rfl (other cause)
  · have idle (stored : Option QueryClass) (force : Bool) :
        Endures (deactivateIfIdle start.queryHash stored force) :=
      .ite ((failsWith_logClassification _).bind fun _ => failsWith_modify _) (failsWith_pure _)
    refine (idle _ _).bind fun _ => .ite ?_ (failsWith_pure _)
    exact (endures_registerClass _ _).bind fun _ => .ite (failsWith_pure _) (failsWith_pure _)

/-! ## Statements and surroundings -/

/-- The replies of the knowledge base are ones that it may give, and the relations that it uses
itself have some names. -/
structure Serves (own : List String) (t : List Asked) : Prop where
  served : ∀ x ∈ t, x.IsServed
  relations : ∀ names, (⟨.knowledgeRelations, names⟩ : Asked) ∈ t → names = own

theorem Serves.surroundings {own : List String} {t : List Asked} (h : Serves own t) :
    Surroundings own t :=
  ⟨h.relations, fun _ member => (h.served _ member).isUnavailable⟩

theorem Serves.mono {own : List String} {t part : List Asked} (h : Serves own t)
    (within : part ⊆ t) : Serves own part :=
  ⟨fun x member => h.served x (within member),
    fun names member => h.relations names (within member)⟩

/-- A statement that neither reads nor changes data, such as one that makes a relation. -/
structure Json.IsUtility (stmt : Json) : Prop where
  node : ∃ tag attributes, StatementKind.ofTag (.text tag) = .utility ∧ tag ≠ "ExplainStmt" ∧
    stmt = .object [(tag, .object attributes)]

theorem Json.IsUtility.kind {stmt : Json} (h : stmt.IsUtility) :
    statementKind stmt = .ok .utility := by
  obtain ⟨tag, attributes, utility, -, rfl⟩ := h.node
  show Except.ok (StatementKind.ofTag (.text tag)) = _
  rw [utility]

/-- The statement that a tree poses is the one that is classified, whether it asks to explain it or
not. -/
theorem Json.IsUtility.posed {stmt tree : Json} {explained : Bool} (h : stmt.IsUtility)
    (poses : stmt.Poses tree explained) : unwrapExplain tree = .ok (stmt, explained) := by
  cases poses with
  | bare =>
    obtain ⟨tag, attributes, -, other, rfl⟩ := h.node
    have unmentioned : (Json.object [(tag, .object attributes)]).mentions "ExplainStmt" =
        .ok false := by
      simp [Json.mentions, other]
    rw [unwrapExplain, unmentioned]
    rfl
  | @explained attributes query =>
    have inside : (Json.object attributes).field "query" = .ok stmt := by
      simp only [Json.field, query]
    show (do
      let query ← (Json.object attributes).field "query"
      .ok (query, true) : TreeResult (Json × Bool)) = _
    rw [inside]
    rfl

/-- A query poses a statement: its tree does, or else the tree to which its text is parsed. -/
def Query.Poses (query : Query) (t : List Asked) (stmt : Json) (explained : Bool) : Prop :=
  ∃ tree, stmt.Poses tree explained ∧ (query.tree = some tree ∨
    query.tree = none ∧ ∃ text, query.text = some text ∧
      ∀ reply, (⟨.parse text, reply⟩ : Asked) ∈ t → statementOf text reply = .ok tree)

theorem Query.Poses.mono {query : Query} {t part : List Asked} {stmt : Json} {explained : Bool}
    (h : query.Poses t stmt explained) (within : part ⊆ t) : query.Poses part stmt explained := by
  obtain ⟨tree, posed, given | ⟨missing, text, given, parsed⟩⟩ := h
  · exact ⟨tree, posed, .inl given⟩
  · exact ⟨tree, posed, .inr ⟨missing, text, given, fun reply member =>
      parsed reply (within member)⟩⟩

/-- The tree of a query that poses a statement is found. -/
theorem runs_resolve {query : Query} {stmt : Json} {explained : Bool} {s s' : Session}
    {t : List Asked} {result : Except Fault Json} (poses : query.Poses t stmt explained)
    (run : Runs query.resolve s t result s') :
    ∃ tree, stmt.Poses tree explained ∧ result = .ok tree ∧ s' = s := by
  obtain ⟨tree, posed, given | ⟨missing, text, given, parsed⟩⟩ := poses
  · rw [Query.resolve, given] at run
    obtain ⟨-, rfl, rfl⟩ := runs_pure.mp run
    exact ⟨tree, posed, rfl, rfl⟩
  · rw [Query.resolve, missing, given] at run
    obtain ⟨reply, rest, rfl, read⟩ := runs_ask_bind.mp run
    rw [parsed reply List.mem_cons_self] at read
    obtain ⟨-, rfl, rfl⟩ := runs_ofResult.mp read
    exact ⟨tree, posed, rfl, rfl⟩

/-- The guards come to an answer about statements that only the host runs, too. -/
theorem exists_skipReason {own : List String} {stmt : Json} {mode : Mode} {s s' : Session}
    {t : List Asked} {result : Except Fault (Option SkipReason)} (typed : s.WellTyped)
    (statement : stmt.IsStatement ∨ stmt.IsUtility) (serves : Serves own t)
    (run : Runs (skipReason stmt mode) s t result s') :
    ∃ reason, result = .ok reason ∧ (reason = none → stmt.IsStatement) := by
  rcases statement with statement | utility
  · obtain ⟨kind, dml⟩ := statement.kind
    obtain ⟨reason, rfl, -⟩ :=
      skipReason_spec typed statement.shaped statement.named dml serves.surroundings run
    exact ⟨reason, rfl, fun _ => statement⟩
  rw [skipReason] at run
  obtain ⟨t₁, t₂, present, s₁, rfl, knowledge, guards⟩ | ⟨fault, -, failed⟩ := runs_bind.mp run
  · rcases runs_guard.mp guards with ⟨-, -, rfl, -⟩ | ⟨-, guards⟩
    · exact ⟨_, rfl, by rintro ⟨⟩⟩
    rw [runs_get_bind, utility.kind] at guards
    obtain ⟨_, ⟨⟩, guards⟩ | ⟨fault, failed, -⟩ := runs_ofTree_bind.mp guards
    · rcases runs_guard.mp guards with ⟨-, -, rfl, -⟩ | ⟨data, -⟩
      · exact ⟨_, rfl, by rintro ⟨⟩⟩
      · cases data
    · cases failed
  · obtain ⟨_, same, -⟩ := knowledgePresent_spec serves.surroundings failed
    cases same

/-! ## The whole classification -/

theorem Session.WellTyped.profilingEnabled {s : Session} (h : s.WellTyped) :
    ∃ enabled, s.settings.profilingEnabled = .ok enabled := by
  obtain ⟨capacity, given⟩ := h.capacity
  rw [Settings.profilingEnabled, given]
  exact ⟨_, rfl⟩

theorem Session.WellTyped.of_same {s s' : Session} (h : s.WellTyped)
    (settings : s'.settings = s.settings) (host : s'.host = s.host) : s'.WellTyped := by
  obtain ⟨capacity, patterns, name⟩ := h
  exact ⟨by rwa [settings], by rwa [settings], by rwa [host]⟩

theorem endures_settlePolicy {settings : Settings} {enabled : Bool}
    (profiling : settings.profilingEnabled = .ok enabled) (found : PlanningPolicy × Bool) :
    Endures (settlePolicy settings found) := by
  have stamped (timed : Bool) (policy : PlanningPolicy) : Endures (do
      if timed then return { policy with start := some (← Action.ask .now) }
      else return policy) :=
    .ite ((failsWith_ask _).bind fun _ => failsWith_pure _) (failsWith_pure _)
  refine .ite (failsWith_pure _) ((failsWith_logClassification _).bind fun _ => ?_)
  rw [stampStart, profiling]
  refine .ite ?_ ((failsWith_pure _).bind fun timed => stamped timed _)
  exact (failsWith_ofResult (by rintro _ ⟨⟩)).bind fun timed => stamped timed _

theorem exists_resolved {mode : Mode} {start : PlanningPolicy} {text : Option String}
    {s s' : Session} {t : List Asked} {result : Except Fault PlanningPolicy}
    (typed : s.WellTyped) (served : ∀ x ∈ t, x.IsServed)
    (run : Runs (resolvePolicy mode start text) s t result s') :
    ∃ policy, result = .ok policy := by
  obtain ⟨enabled, profiling⟩ := typed.profilingEnabled
  rw [resolvePolicy_eq, runs_get_bind] at run
  refine FailsWith.exists_ok ?_ run served
  refine .ite ((failsWith_pure _).bind fun found => ?_)
    ((endures_lookUpPolicy _ _ _).bind fun found => ?_)
  · exact endures_settlePolicy profiling found
  · exact endures_settlePolicy profiling found

theorem exists_classifiedHash {mode : Mode} {hash : Int} {explained : Bool} {text : Option String}
    {s s' : Session} {t : List Asked} {result : Except Fault Classified} (typed : s.WellTyped)
    (served : ∀ x ∈ t, x.IsServed)
    (run : Runs (classifyHash mode hash explained text) s t result s') :
    ∃ classified, result = .ok classified := by
  rw [classifyHash, runs_get_bind] at run
  split at run
  · obtain ⟨_, -, last⟩ := runs_logged_bind run
    exact ⟨_, (runs_pure.mp last).2.1⟩
  split at run
  · obtain ⟨_, -, last⟩ := runs_logged_bind run
    exact ⟨_, (runs_pure.mp last).2.1⟩
  obtain ⟨t₁, within, active⟩ := runs_logged_bind run
  rw [runs_modify_bind] at active
  have resolves {t : List Asked} {result : Except Fault PlanningPolicy} {s₂ : Session}
      {start : PlanningPolicy} (part : t ⊆ t₁)
      (run : Runs (resolvePolicy mode start text) { s with active := hash :: s.active } t
        result s₂) : ∃ policy, result = .ok policy := by
    have same : ({ s with active := hash :: s.active } : Session).WellTyped :=
      typed.of_same rfl rfl
    exact exists_resolved same (fun x member => served x (within (part member))) run
  obtain ⟨t₂, t₃, policy, _, rfl, resolve, last⟩ | ⟨fault, -, failed⟩ := runs_bind.mp active
  · exact ⟨_, (runs_pure.mp last).2.1⟩
  · obtain ⟨_, same⟩ := resolves (List.Subset.refl _) failed
    cases same

/-- **A classification** of a statement gives a policy, whatever calls to the knowledge base fail.
After an outage, the policy is disabled. -/
theorem exists_classified {own : List String} {mode : Mode} {query : Query} {stmt : Json}
    {explained : Bool} {s s' : Session} {t : List Asked} {result : Except Fault Classified}
    (statement : stmt.IsStatement ∨ stmt.IsUtility) (poses : query.Poses t stmt explained)
    (known : s.settings.resolvedMode = .ok mode) (typed : s.WellTyped) (serves : Serves own t)
    (run : Runs (classify query) s t result s') :
    ∃ classified, result = .ok classified ∧
      ((∃ x ∈ t, x.IsOutage) → classified.policy.isDisabled = true) := by
  suffices given : ∃ classified, result = .ok classified by
    obtain ⟨classified, rfl⟩ := given
    exact ⟨classified, rfl, notices_classify query run⟩
  rw [classify, runs_get_bind, known, runs_ok_bind] at run
  obtain ⟨t₁, t₂, tree, s₀, rfl, resolve, decided⟩ | ⟨fault, -, failed⟩ := runs_bind.mp run
  swap
  · obtain ⟨_, -, same, -⟩ := runs_resolve poses failed
    cases same
  obtain ⟨_, posed, same, unchanged⟩ :=
    runs_resolve (poses.mono (List.subset_append_left _ _)) resolve
  cases same
  obtain rfl : s = s₀ := unchanged.symm
  have unwrapped : unwrapExplain tree = .ok (stmt, explained) := by
    rcases statement with data | utility
    · exact posed.unwrapExplain data
    · exact utility.posed posed
  rw [unwrapped] at decided
  obtain ⟨_, ⟨⟩, decided⟩ | ⟨fault, failed, -⟩ := runs_ofTree_bind.mp decided
  swap
  · cases failed
  obtain ⟨t₃, t₄, reason, s₁, rfl, guards, rest⟩ | ⟨fault, -, failed⟩ := runs_bind.mp decided
  swap
  · obtain ⟨_, same, -⟩ := exists_skipReason typed statement
      (serves.mono (List.subset_append_right _ _)) failed
    cases same
  cases reason with
  | some reason =>
    obtain ⟨_, -, last⟩ := runs_logged_bind rest
    exact ⟨_, (runs_pure.mp last).2.1⟩
  | none =>
    have later : t₃ ⊆ t₁ ++ (t₃ ++ t₄) :=
      List.Subset.trans (List.subset_append_left _ _) (List.subset_append_right _ _)
    obtain ⟨_, same, data⟩ := exists_skipReason typed statement (serves.mono later) guards
    cases same
    have guarded : SameButConfirmed s s₁ := within_skipReason _ _ guards
    rw [runs_modify_bind, (data rfl).shaped.casts.expressionKeyOf] at rest
    obtain ⟨_, ⟨⟩, rest⟩ | ⟨fault, failed, -⟩ := runs_ofTree_bind.mp rest
    · refine exists_classifiedHash (typed.of_same ?_ ?_) (fun x member => ?_) rest
      · rw [guarded]
      · rw [guarded]
      · exact serves.served x
          (List.mem_append_right _ (List.mem_append_right _ member))
    · cases failed

end CardinalityAdvisor
