import CardinalityAdvisor.Proofs.Fingerprint.Readable
import CardinalityAdvisor.Proofs.ParseTree.Relations
import CardinalityAdvisor.Proofs.Session.Classification

/-!
# Statements on reserved relations

A statement that scans a catalog of the system, or a relation of the knowledge base itself, is
planned without any of the machinery: its class is not even computed. A statement that only
inserts into such a relation, updates it or deletes from it is not found out.

## Main definitions

* `Session.WellTyped`: the settings and the host say what they say in the right types
* `Surroundings own t`: what the exchanges of a run take from the knowledge base
* `OtherGuardsPass mode s s'`: all guards but the one against reserved relations let a query pass
* `Untouched s t result s'`: a query was left alone

## Main results

* `skipReason_spec`: the guards always come to an answer, and when they let a statement pass
* `reserved_relations_untouched`: which statements are left alone for their relations
-/

namespace CardinalityAdvisor

open CardinalityAdvisor.Action

/-- The settings are of the types that they should have, and the client's name is a text. -/
structure Session.WellTyped (s : Session) : Prop where
  capacity : ∃ capacity, s.settings.profileCapacity = .int capacity
  patterns : ∃ patterns : List String, s.settings.proxyPatterns = .list (patterns.map .text)
  applicationName : ∃ name, s.host.applicationName = .text name

/-- The relations that the knowledge base uses itself have some names, and if it does not say
whether it is there, it cannot be reached. -/
structure Surroundings (own : List String) (t : List Asked) : Prop where
  relations : ∀ names, (⟨.knowledgeRelations, names⟩ : Asked) ∈ t → names = own
  installed : ∀ fault, (⟨.knowledge .isInstalled, .error fault⟩ : Asked) ∈ t →
    ∃ cause, fault = .unavailable cause

theorem Surroundings.mono {own : List String} {t part : List Asked} (h : Surroundings own t)
    (within : part ⊆ t) : Surroundings own part :=
  ⟨fun names member => h.relations names (within member),
    fun fault member => h.installed fault (within member)⟩

/-- All guards but the one against reserved relations let a query pass in the session `s`, which
becomes `s'`. -/
structure OtherGuardsPass (mode : Mode) (s s' : Session) : Prop where
  present : s.host.creatingExtension = false ∧ s'.confirmed = true
  leader : s.host.parallelWorker = false
  wanted : nothingWanted s.settings mode = .ok false
  direct : ∃ patterns, s.settings.patterns = .ok patterns ∧
    isProxy s.host.applicationName patterns = .ok false
  running : s.host.recoveryInProgress = false

/-- A query was left alone: its policy is disabled and of no class, no class was activated, and the
knowledge base was at most asked whether it is there. -/
structure Untouched (s : Session) (t : List Asked) (result : Except Fault Classified)
    (s' : Session) : Prop where
  disabled : result = .ok (.passedOver 0)
  active : s'.active = s.active
  spared : ∀ x ∈ t, ∀ call, x.request = .knowledge call → call = .isInstalled

/-! ## The guards -/

/-- Whether a request is no call to the knowledge base, or only asks whether it is there. -/
def Request.Spares (request : Request) : Prop := ∀ call, request = .knowledge call →
  call = .isInstalled

theorem asks_skipReason (stmt : Json) (mode : Mode) :
    Asks Request.Spares (skipReason stmt mode) := by
  have present : Asks Request.Spares knowledgePresent := by
    refine asks_get.bind fun s => .ite (asks_pure _) (.ite (asks_pure _) ?_)
    refine (asks_ask ?_).bind fun reply => ?_
    · rintro _ ⟨⟩
      rfl
    · split
      · exact (asks_set _).bind fun _ => asks_pure _
      · exact (asks_set _).bind fun _ => asks_pure _
      · exact asks_throw _
  unfold skipReason
  refine present.bind fun _ => .ite (asks_pure _) (asks_get.bind fun s => ?_)
  refine (asks_ofTree _).bind fun _ => .ite (asks_pure _) (.ite (asks_pure _) ?_)
  refine (asks_ofResult _).bind fun _ => .ite (asks_pure _) ((asks_ofResult _).bind fun _ => ?_)
  refine (asks_ofResult _).bind fun _ => .ite (asks_pure _) ?_
  refine (asks_ask ?_).bind fun _ => (asks_ofTree _).bind fun _ => .ite (asks_pure _) ?_
  · rintro _ ⟨⟩
  · exact .ite (asks_pure _) (asks_pure _)

/-- The knowledge base is found to be there if nobody is setting it up and it is confirmed from then
on. This fails only if the knowledge base breaks. -/
theorem runs_knowledgePresent {s s' : Session} {t : List Asked} {result : Except Fault Bool}
    (run : Runs knowledgePresent s t result s') :
    (result = .ok true ↔ s.host.creatingExtension = false ∧ s'.confirmed = true) ∧
      ∀ fault, result = .error fault → (⟨.knowledge .isInstalled, .error fault⟩ : Asked) ∈ t ∧
        ∀ cause, fault ≠ .unavailable cause := by
  rw [knowledgePresent, runs_get_bind] at run
  split at run
  · rename_i creating
    obtain ⟨-, rfl, -⟩ := runs_pure.mp run
    exact ⟨by simp [creating], by simp⟩
  rename_i notCreating
  rw [Bool.not_eq_true] at notCreating
  split at run
  · rename_i confirmed
    obtain ⟨-, rfl, rfl⟩ := runs_pure.mp run
    exact ⟨by simp [notCreating, confirmed], by simp⟩
  rename_i unconfirmed
  obtain ⟨reply, rest, rfl, answered⟩ := runs_knowledge_bind.mp run
  split at answered
  · rw [runs_set_bind] at answered
    obtain ⟨-, rfl, rfl⟩ := runs_pure.mp answered
    exact ⟨by simp [notCreating], by simp⟩
  · rw [runs_set_bind] at answered
    obtain ⟨-, rfl, rfl⟩ := runs_pure.mp answered
    exact ⟨by simp, by simp⟩
  · rename_i fault broken
    obtain ⟨-, rfl, rfl⟩ := runs_throw.mp answered
    refine ⟨by simp [unconfirmed], ?_⟩
    intro _ same
    cases same
    exact ⟨List.mem_cons_self, broken⟩

/-- Whether the knowledge base is there is always found out, unless it breaks. -/
theorem knowledgePresent_spec {own : List String} {s s' : Session} {t : List Asked}
    {result : Except Fault Bool} (surroundings : Surroundings own t)
    (run : Runs knowledgePresent s t result s') :
    ∃ present, result = .ok present ∧
      (present = true ↔ s.host.creatingExtension = false ∧ s'.confirmed = true) := by
  obtain ⟨isPresent, breaks⟩ := runs_knowledgePresent run
  cases result with
  | ok present => exact ⟨present, rfl, by rwa [Except.ok.injEq] at isPresent⟩
  | error fault =>
    obtain ⟨member, broken⟩ := breaks fault rfl
    obtain ⟨cause, rfl⟩ := surroundings.installed _ member
    exact absurd rfl (broken cause)

/-- Whether an application is a proxy is always found out by texts: one of them is a part of its
name. -/
theorem isProxy_texts (name : String) (patterns : List String) :
    ∃ proxy, isProxy (.text name) (patterns.map .text) = .ok proxy ∧
      (proxy = true ↔ ∃ pattern ∈ patterns, pattern.toList <:+: name.toList) := by
  induction patterns with
  | nil => exact ⟨false, rfl, by simp⟩
  | cons pattern rest ih =>
    obtain ⟨proxy, found, ih⟩ := ih
    have step : isProxy (.text name) ((pattern :: rest).map .text) =
        if Text.occursIn pattern.toList name.toList then .ok true
        else isProxy (.text name) (rest.map .text) := rfl
    rw [step, found]
    simp only [List.exists_mem_cons_iff, ← Text.occursIn_iff_isInfix] at ih ⊢
    split
    · rename_i occurs
      exact ⟨true, rfl, iff_of_true rfl (.inl occurs)⟩
    · rename_i missing
      exact ⟨proxy, rfl, ih.trans (or_iff_right missing).symm⟩

namespace Session.WellTyped

variable {s : Session}

/-- Whether anything is wanted can be found out. -/
theorem nothingWanted (h : s.WellTyped) (mode : Mode) :
    ∃ nothing, nothingWanted s.settings mode = .ok nothing := by
  obtain ⟨capacity, given⟩ := h.capacity
  unfold CardinalityAdvisor.nothingWanted Settings.profilingEnabled
  rw [given]
  split
  · exact ⟨_, rfl⟩
  · exact ⟨_, rfl⟩

/-- Whether the client is a proxy can be found out. -/
theorem isProxy (h : s.WellTyped) : ∃ patterns proxy, s.settings.patterns = .ok patterns ∧
    isProxy s.host.applicationName patterns = .ok proxy := by
  obtain ⟨patterns, given⟩ := h.patterns
  obtain ⟨name, client⟩ := h.applicationName
  obtain ⟨proxy, found, -⟩ := isProxy_texts name patterns
  refine ⟨patterns.map .text, proxy, ?_, ?_⟩
  · rw [Settings.patterns, given]
    rfl
  · rw [client, found]

end Session.WellTyped

/-- A guard stops a statement for its reason or lets the guards after it decide. -/
theorem runs_guard {stop : Bool} {reason : SkipReason} {rest : Action (Option SkipReason)}
    {s s' : Session} {t : List Asked} {result : Except Fault (Option SkipReason)} :
    Runs (if stop = true then pure (some reason) else rest) s t result s' ↔
      (stop = true ∧ t = [] ∧ result = .ok (some reason) ∧ s' = s) ∨
        stop = false ∧ Runs rest s t result s' := by
  cases stop with
  | true => simp [runs_pure]
  | false => simp

/-- **The guards** always come to an answer. They let a statement pass if it scans no reserved
relation, and all other guards let it pass. -/
theorem skipReason_spec {own : List String} {stmt : Json} {mode : Mode} {kind : StatementKind}
    {s s' : Session} {t : List Asked} {result : Except Fault (Option SkipReason)}
    (typed : s.WellTyped) (shaped : stmt.Shaped) (named : stmt.NamesRelations)
    (dml : statementKind stmt = .ok kind ∧ kind.isDml = true) (surroundings : Surroundings own t)
    (run : Runs (skipReason stmt mode) s t result s') :
    ∃ reason, result = .ok reason ∧ (reason = none ↔
      OtherGuardsPass mode s s' ∧ ¬ ∃ r, stmt.Scans r ∧ r.Reserved own) := by
  -- What each guard will find out is known beforehand, so none of them can fail.
  obtain ⟨nothing, wanted⟩ := typed.nothingWanted mode
  obtain ⟨patterns, proxy, given, found⟩ := typed.isProxy
  obtain ⟨system, answer, reserved⟩ := usesSystemRelations_spec own shaped named
  have stopped {reason : SkipReason} (h : ¬ OtherGuardsPass mode s s') :
      some reason = none ↔
        OtherGuardsPass mode s s' ∧ ¬ ∃ r, stmt.Scans r ∧ r.Reserved own :=
    ⟨fun none => (Option.some_ne_none _ none).elim, fun pass => absurd pass.1 h⟩
  rw [skipReason] at run
  obtain ⟨t₁, t₂, present, s₁, rfl, knowledge, run⟩ | ⟨fault, -, failed⟩ := runs_bind.mp run
  swap
  · obtain ⟨_, same, -⟩ := knowledgePresent_spec surroundings failed
    cases same
  obtain ⟨_, same, isPresent⟩ :=
    knowledgePresent_spec (surroundings.mono (List.subset_append_left _ _)) knowledge
  cases same
  have same : SameButConfirmed s s₁ := within_knowledgePresent knowledge
  have settings : s₁.settings = s.settings := by rw [same]
  have host : s₁.host = s.host := by rw [same]
  rcases runs_guard.mp run with ⟨absent, -, rfl, rfl⟩ | ⟨isThere, run⟩
  · refine ⟨_, rfl, stopped fun pass => ?_⟩
    rw [isPresent.mpr pass.present] at absent
    cases absent
  rw [runs_get_bind, settings, host, dml.1] at run
  obtain ⟨_, ⟨⟩, run⟩ | ⟨fault, failed, -⟩ := runs_ofTree_bind.mp run
  swap
  · cases failed
  rw [dml.2] at run
  rcases runs_guard.mp run with ⟨utility, -⟩ | ⟨-, run⟩
  · cases utility
  rcases runs_guard.mp run with ⟨worker, -, rfl, rfl⟩ | ⟨leader, run⟩
  · refine ⟨_, rfl, stopped fun pass => ?_⟩
    rw [pass.leader] at worker
    cases worker
  rw [wanted, runs_ok_bind] at run
  rcases runs_guard.mp run with ⟨idle, -, rfl, rfl⟩ | ⟨busy, run⟩
  · refine ⟨_, rfl, stopped fun pass => ?_⟩
    rw [pass.wanted] at wanted
    cases wanted
    cases idle
  rw [given, runs_ok_bind, found, runs_ok_bind] at run
  rcases runs_guard.mp run with ⟨isProxy, -, rfl, rfl⟩ | ⟨direct, run⟩
  · refine ⟨_, rfl, stopped fun pass => ?_⟩
    obtain ⟨_, same, notProxy⟩ := pass.direct
    rw [given] at same
    cases same
    rw [found, isProxy] at notProxy
    cases notProxy
  obtain ⟨names, rest, rfl, scan⟩ := runs_ask_bind.mp run
  obtain rfl : names = own := surroundings.relations names (by simp)
  rw [answer] at scan
  obtain ⟨_, ⟨⟩, last⟩ | ⟨fault, failed, -⟩ := runs_ofTree_bind.mp scan
  swap
  · cases failed
  rcases runs_guard.mp last with ⟨scanned, -, rfl, rfl⟩ | ⟨unscanned, last⟩
  · refine ⟨_, rfl, ⟨fun none => (Option.some_ne_none _ none).elim, fun pass => ?_⟩⟩
    exact absurd (reserved.mp scanned) pass.2
  rcases runs_guard.mp last with ⟨recovery, -, rfl, rfl⟩ | ⟨running, last⟩
  · refine ⟨_, rfl, stopped fun pass => ?_⟩
    rw [pass.running] at recovery
    cases recovery
  obtain ⟨-, rfl, rfl⟩ := runs_pure.mp last
  rw [Bool.not_eq_false'] at isThere
  have pass : OtherGuardsPass mode s s' :=
    ⟨isPresent.mp isThere, leader, by rw [wanted, busy], ⟨patterns, given, by rw [found, direct]⟩,
      running⟩
  refine ⟨none, rfl, fun _ => ⟨pass, fun scans => ?_⟩, fun _ => rfl⟩
  rw [reserved.mpr scans] at unscanned
  cases unscanned

/-! ## Statements -/

/-- In a tree of nodes, the attributes of casts are objects. -/
theorem Json.Shaped.casts {tree : Json} (h : tree.Shaped) : tree.Everywhere CastShaped := by
  refine h.mono fun fields shaped value cast => ?_
  rw [cast] at shaped
  rcases shaped with ⟨_, attributes, same, -, -⟩ | plain
  · cases same
    exact ⟨attributes, rfl⟩
  · have capital : capitalized "TypeCast" = true := by decide +kernel
    rw [plain _ List.mem_cons_self] at capital
    cases capital

/-- A statement that reads or changes data, as a parser gives it: a tree of nodes in which all
scanned relations have names. -/
structure Json.IsStatement (stmt : Json) : Prop where
  node : ∃ kind attributes, kind.isDml = true ∧
    stmt = .object [(StatementKind.tag kind, .object attributes)]
  shaped : stmt.Shaped
  named : stmt.NamesRelations

/-- A tree is a statement, or it asks to explain the statement. -/
inductive Json.Poses (stmt : Json) : Json → Bool → Prop
  | bare : Poses stmt stmt false
  | explained {attributes : List (String × Json)} : attributes.lookup "query" = some stmt →
      Poses stmt (.object [("ExplainStmt", .object attributes)]) true

theorem Json.IsStatement.kind {stmt : Json} (h : stmt.IsStatement) :
    ∃ kind, statementKind stmt = .ok kind ∧ kind.isDml = true := by
  obtain ⟨kind, attributes, dml, rfl⟩ := h.node
  refine ⟨kind, ?_, dml⟩
  cases kind with
  | select | insert | update | delete => rfl
  | utility => cases dml

/-- The statement that a tree poses is the one that is classified. -/
theorem Json.Poses.unwrapExplain {stmt tree : Json} {explained : Bool} (h : stmt.IsStatement)
    (poses : stmt.Poses tree explained) : unwrapExplain tree = .ok (stmt, explained) := by
  cases poses with
  | bare =>
    obtain ⟨kind, attributes, dml, rfl⟩ := h.node
    cases kind with
    | select | insert | update | delete => rfl
    | utility => cases dml
  | @explained attributes query =>
    have inside : (Json.object attributes).field "query" = .ok stmt := by
      simp only [field, query]
    show (do
      let query ← (Json.object attributes).field "query"
      .ok (query, true) : TreeResult (Json × Bool)) = _
    rw [inside]
    rfl

/-! ## The classification -/

theorem asks_logClassification (entries : List Value) :
    Asks Request.Spares (logClassification entries) := by
  refine asks_get.bind fun s => ?_
  unfold logIf
  split
  · refine asks_ask ?_
    rintro _ ⟨⟩
  · exact asks_pure _

/-- Every policy is one of the class, and the class becomes active unless it is deactivated or
active already. -/
theorem classifyHash_spec {mode : Mode} {hash : Int} {explained : Bool} {text : Option String}
    {s s' : Session} {t : List Asked} {result : Except Fault Classified}
    (run : Runs (classifyHash mode hash explained text) s t result s') :
    (∀ classified, result = .ok classified → classified.policy.queryHash = hash) ∧
      s'.active =
        if hash ∈ s.deactivated ∨ hash ∈ s.active then s.active else hash :: s.active := by
  have resolved {t : List Asked} {result : Except Fault PlanningPolicy} {s₁ s₂ : Session}
      {start : PlanningPolicy} (run : Runs (resolvePolicy mode start text) s₁ t result s₂) :
      s₂.active = s₁.active := by
    rcases (resolvePolicy_spec run).1 with rfl | rfl
    · rfl
    · rfl
  rw [classifyHash, runs_get_bind] at run
  split at run
  · rename_i deactivated
    obtain ⟨_, last⟩ := runs_logClassification_bind run
    obtain ⟨-, rfl, rfl⟩ := runs_pure.mp last
    rw [List.contains_iff_mem] at deactivated
    rw [if_pos (.inl deactivated)]
    refine ⟨?_, rfl⟩
    rintro _ ⟨⟩
    rfl
  rename_i wanted
  split at run
  · rename_i planned
    obtain ⟨_, last⟩ := runs_logClassification_bind run
    obtain ⟨-, rfl, rfl⟩ := runs_pure.mp last
    rw [List.contains_iff_mem] at planned
    rw [if_pos (.inr planned)]
    refine ⟨?_, rfl⟩
    rintro _ ⟨⟩
    rfl
  rename_i free
  rw [List.contains_iff_mem] at wanted free
  rw [if_neg (not_or.mpr ⟨wanted, free⟩)]
  obtain ⟨_, run⟩ := runs_logClassification_bind run
  rw [runs_modify_bind] at run
  obtain ⟨_, _, policy, _, -, resolve, last⟩ | ⟨fault, rfl, resolve⟩ := runs_bind.mp run
  · obtain ⟨-, rfl, rfl⟩ := runs_pure.mp last
    refine ⟨?_, resolved resolve⟩
    rintro _ ⟨⟩
    exact (resolvePolicy_spec resolve).2 policy rfl
  · exact ⟨by simp, resolved resolve⟩

/-- **Statements on reserved relations.** A statement that scans a relation of the system's
catalogs or of the knowledge base, at any depth, is left alone: its policy is disabled, no class is
activated, and the knowledge base is at most asked whether it is there. A statement that scans none
is not left alone for its relations, whatever it inserts into, updates or deletes from: if the
other guards let it pass, any policy it is given is one of its class, and the class becomes active
unless it is deactivated or active already. -/
theorem reserved_relations_untouched {own : List String} {mode : Mode} {stmt tree : Json}
    {explained : Bool} {text : Option String} {s s' : Session} {t : List Asked}
    {result : Except Fault Classified} (statement : stmt.IsStatement)
    (poses : stmt.Poses tree explained) (known : s.settings.resolvedMode = .ok mode)
    (typed : s.WellTyped) (surroundings : Surroundings own t)
    (run : Runs (classify ⟨some tree, text⟩) s t result s') :
    ((∃ r, stmt.Scans r ∧ r.Reserved own) → Untouched s t result s') ∧
      ((¬ ∃ r, stmt.Scans r ∧ r.Reserved own) → OtherGuardsPass mode s s' →
        (∀ classified, result = .ok classified →
          classified.policy.queryHash = Fingerprint.expressionKey stmt) ∧
        s'.active =
          if Fingerprint.expressionKey stmt ∈ s.deactivated ∨
            Fingerprint.expressionKey stmt ∈ s.active then s.active
          else Fingerprint.expressionKey stmt :: s.active) := by
  obtain ⟨kind, dml⟩ := statement.kind
  rw [classify, runs_get_bind, known, runs_ok_bind] at run
  change Runs (pure tree >>= _) s t result s' at run
  rw [runs_pure_bind, poses.unwrapExplain statement] at run
  obtain ⟨_, ⟨⟩, run⟩ | ⟨fault, failed, -⟩ := runs_ofTree_bind.mp run
  swap
  · cases failed
  obtain ⟨t₁, t₂, reason, s₁, rfl, guards, rest⟩ | ⟨fault, -, failed⟩ := runs_bind.mp run
  swap
  · obtain ⟨_, same, -⟩ :=
      skipReason_spec typed statement.shaped statement.named dml surroundings failed
    cases same
  obtain ⟨_, same, passes⟩ := skipReason_spec typed statement.shaped statement.named dml
    (surroundings.mono (List.subset_append_left _ _)) guards
  cases same
  have guarded : SameButConfirmed s s₁ := within_skipReason _ _ guards
  cases reason with
  | some reason =>
    have spared : ∀ x ∈ t₁ ++ t₂, x.request.Spares := by
      intro x member
      rcases List.mem_append.mp member with member | member
      · exact asks_skipReason stmt mode guards x member
      · exact (asks_logClassification _).bind (fun _ => asks_pure _) rest x member
    obtain ⟨_, last⟩ := runs_logClassification_bind rest
    obtain ⟨-, rfl, rfl⟩ := runs_pure.mp last
    have active : s'.active = s.active := by rw [guarded]
    refine ⟨fun _ => ⟨rfl, active, spared⟩, fun unscanned pass => ?_⟩
    cases passes.mpr ⟨pass, unscanned⟩
  | none =>
    refine ⟨fun scanned => absurd scanned (passes.mp rfl).2, fun _ _ => ?_⟩
    rw [runs_modify_bind, statement.shaped.casts.expressionKeyOf] at rest
    obtain ⟨_, ⟨⟩, rest⟩ | ⟨fault, failed, -⟩ := runs_ofTree_bind.mp rest
    swap
    · cases failed
    have active : s₁.active = s.active := by rw [guarded]
    have deactivated : s₁.deactivated = s.deactivated := by rw [guarded]
    rw [← active, ← deactivated]
    exact classifyHash_spec (s := { s₁ with cache := .clear }) rest

/-- The attributes that name a catalog. -/
def catalogName : List (String × Json) := [("relname", .text "pg_class")]

/-- A statement that scans a catalog. -/
def catalogScan : Json :=
  .object [("SelectStmt", .object [("fromClause",
    .list [.object [("RangeVar", .object catalogName)]])])]

/-- A statement that deletes from a catalog. -/
def catalogDeletion : Json :=
  .object [("DeleteStmt", .object [("relation", .object catalogName)])]

/-- A statement that scans a catalog is left alone. One that deletes from it is not, and its class
is activated. -/
theorem reserved_relations_untouched_catalog :
    (∃ t result s', Runs (classify ⟨some catalogScan, none⟩) learning t result s' ∧
      Untouched learning t result s') ∧
    ∃ t result s', Runs (classify ⟨some catalogDeletion, none⟩) learning t result s' ∧
      (∃ r, catalogDeletion.Changes r ∧ r.Reserved []) ∧
      s'.active = [Fingerprint.expressionKey catalogDeletion] := by
  have typed : learning.WellTyped := ⟨⟨0, rfl⟩, ⟨["postgres_fdw", "pgfdw:"], rfl⟩, ⟨"", rfl⟩⟩
  have surroundings {t : List Asked} (replies : ∀ x ∈ t, x.reply = nothingStored x.request) :
      Surroundings [] t := by
    refine ⟨fun names member => replies _ member, fun fault member => ?_⟩
    cases replies _ member
  have scan : catalogScan.IsStatement :=
    ⟨⟨.select, _, rfl, rfl⟩, by decide +kernel, by decide +kernel⟩
  have deletion : catalogDeletion.IsStatement :=
    ⟨⟨.delete, _, rfl, rfl⟩, by decide +kernel, by decide +kernel⟩
  have reserved : RelationName.Reserved [] ⟨.null, .text "pg_class"⟩ := .inl (by decide +kernel)
  constructor
  · obtain ⟨t, run, replies⟩ :=
      exists_runs nothingStored (classify ⟨some catalogScan, none⟩) learning
    refine ⟨t, _, _, run, ?_⟩
    refine (reserved_relations_untouched scan .bare rfl typed (surroundings replies) run).1 ?_
    refine ⟨_, ⟨catalogName, ?_, rfl⟩, reserved⟩
    exact .field List.mem_cons_self (.field List.mem_cons_self (.item List.mem_cons_self .here))
  · obtain ⟨t, run, replies⟩ :=
      exists_runs nothingStored (classify ⟨some catalogDeletion, none⟩) learning
    refine ⟨t, _, _, run, ?_, ?_⟩
    · exact ⟨_, ⟨.delete, by simp, _, _, .here, rfl, rfl⟩, reserved⟩
    · refine ((reserved_relations_untouched deletion .bare rfl typed (surroundings replies)
        run).2 ?_ ?_).2.trans (if_neg (by simp [learning]))
      · rintro ⟨r, ⟨attributes, occurs, -⟩, -⟩
        have scanned : ⟨scanTag, attributes⟩ ∈ (nodes catalogDeletion).filter (·.tag == scanTag) :=
          (mem_scanNodes deletion.shaped).mpr ⟨rfl, occurs⟩
        have unscanned : (nodes catalogDeletion).filter (·.tag == scanTag) = [] := by
          decide +kernel
        rw [unscanned] at scanned
        cases scanned
      · exact ⟨⟨rfl, by decide +kernel⟩, rfl, rfl, ⟨_, rfl, rfl⟩, rfl⟩

end CardinalityAdvisor
