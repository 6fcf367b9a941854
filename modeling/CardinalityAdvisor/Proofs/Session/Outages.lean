import CardinalityAdvisor.Proofs.Session.Classification

/-!
# Outages while a query is classified

Any call to the knowledge base may fail, inside the lock of a class or outside of it, and even when
the lock is given back after something else has failed. A classification takes notice of each
failure: if it gives a policy after one, the policy is disabled.

## Main definitions

* `Asked.IsOutage`: a call to the knowledge base failed, or it said that it is not there
* `Action.Notices P action`: after an outage, an action gives only values that have the property `P`

## Main results

* `Action.Notices.bind`, `Action.Notices.withLock`: how sequences and locks take notice
* `notices_classify`: after an outage, a classification gives a disabled policy
-/

namespace CardinalityAdvisor

open CardinalityAdvisor.Action

/-- A call to the knowledge base failed, or the knowledge base said that it is not there. -/
def Asked.IsOutage (x : Asked) : Prop :=
  (∃ call fault, x = ⟨.knowledge call, .error fault⟩) ∨ x = ⟨.knowledge .isInstalled, .ok false⟩

/-- Whether a request is no call to the knowledge base. -/
def Request.IsElsewhere (request : Request) : Prop := ∀ call, request ≠ .knowledge call

/-! ## Taking notice of outages -/

namespace Action

variable {α β : Type} {P Q : α → Prop}

/-- If something on the way was an outage, an action gives only values that have a property. -/
def Notices (P : α → Prop) (action : Action α) : Prop :=
  ∀ ⦃s t value s'⦄, Runs action s t (.ok value) s' → (∃ x ∈ t, x.IsOutage) → P value

/-- Where the knowledge base is not called, there are no outages. -/
theorem notices_of_asks {action : Action α} (h : Asks Request.IsElsewhere action) :
    Notices P action := by
  rintro s t value s' run ⟨x, member, ⟨call, fault, rfl⟩ | rfl⟩
  · exact absurd rfl (h run _ member call)
  · exact absurd rfl (h run _ member .isInstalled)

theorem notices_pure (value : α) : Notices P (pure value : Action α) :=
  notices_of_asks (asks_pure _)

theorem notices_throw (fault : Fault) : Notices P (throw fault : Action α) :=
  notices_of_asks (asks_throw _)

theorem notices_ofResult (r : Except Fault α) : Notices P (ofResult r : Action α) :=
  notices_of_asks (asks_ofResult _)

theorem Notices.ite {c : Prop} [Decidable c] {a b : Action α} (ha : Notices P a)
    (hb : Notices P b) : Notices P (if c then a else b) := by
  split
  · exact ha
  · exact hb

/-- **A sequence of actions** takes notice of an outage in its first part if the second part makes
something of what the first part gives then. -/
theorem Notices.bind {R : β → Prop} {action : Action β} {f : β → Action α}
    (h : Notices R action) (hf : ∀ value, Notices P (f value))
    (after : ∀ value, R value → Gives P (f value)) : Notices P (action >>= f) := by
  rintro s t value s' run ⟨x, member, outage⟩
  obtain ⟨t₁, t₂, found, s₁, rfl, first, rest⟩ | ⟨_, same, -⟩ := runs_bind.mp run
  · rcases List.mem_append.mp member with member | member
    · exact after found (h first ⟨x, member, outage⟩) rest
    · exact hf found rest ⟨x, member, outage⟩
  · cases same

/-- What comes after an action that does not call the knowledge base takes notice by itself. -/
theorem Notices.after {action : Action β} {f : β → Action α}
    (h : Asks Request.IsElsewhere action) (hf : ∀ value, Notices P (f value)) :
    Notices P (action >>= f) :=
  (notices_of_asks (P := fun _ => False) h).bind hf fun _ never => never.elim

theorem notices_knowledge_bind {call : Knowledge.Call} {f : Except Fault call.Reply → Action α}
    (hf : ∀ reply, Notices P (f reply))
    (after : ∀ reply, Asked.IsOutage ⟨.knowledge call, reply⟩ → Gives P (f reply)) :
    Notices P (knowledge call >>= f) := by
  rintro s t value s' run ⟨x, member, outage⟩
  obtain ⟨reply, rest, rfl, goesOn⟩ := runs_knowledge_bind.mp run
  rcases List.mem_cons.mp member with rfl | member
  · exact after reply outage goesOn
  · exact hf reply goesOn ⟨x, member, outage⟩

/-- A call whose failure is not caught gives nothing after an outage. -/
theorem notices_call (call : Knowledge.Call) (other : call ≠ .isInstalled) :
    Notices (fun _ => False) (do ofResult (← knowledge call)) := by
  refine notices_knowledge_bind (fun reply => notices_ofResult reply) fun reply outage => ?_
  rcases outage with ⟨_, fault, same⟩ | same
  · cases same
    exact gives_throw fault
  · cases same
    exact absurd rfl other

/-- After an outage, an attempt gives a failure, if what is attempted gives nothing. -/
theorem Notices.attempt {action : Action α} (h : Notices (fun _ => False) action) :
    Notices (fun r => ∃ fault, r = .error fault) (attempt action) := by
  intro s t r s' run outage
  obtain ⟨_, same, tried⟩ := runs_attempt.mp run
  cases same
  cases r with
  | ok value => exact (h tried outage).elim
  | error fault => exact ⟨fault, rfl⟩

/-- **An action under a lock** gives nothing after an outage if the action itself gives nothing:
neither taking the lock nor giving it back may fail. -/
theorem Notices.withLock {action : Action α} (h : Notices (fun _ => False) action)
    (queryHash : Int) (timeout : Value) :
    Notices (fun _ => False) (withLock queryHash timeout action) := by
  have taken : Notices (fun _ => False)
      (do ofResult (← knowledge (.lockClass queryHash timeout))) := notices_call _ nofun
  have given : Notices (fun _ => False)
      (do ofResult (← knowledge (.unlockClass queryHash))) := notices_call _ nofun
  refine taken.bind (fun _ => ?_) fun _ never => never.elim
  refine h.attempt.bind (fun r => ?_) ?_
  · exact given.bind (fun _ => notices_ofResult r) fun _ never => never.elim
  · rintro _ ⟨fault, rfl⟩
    exact .bind fun _ => .bind fun _ => gives_throw fault

end Action

/-! ## The parts of a classification -/

theorem elsewhere_logClassification (entries : List Value) :
    Asks Request.IsElsewhere (logClassification entries) := by
  refine asks_get.bind fun s => ?_
  unfold logIf
  split
  · exact asks_ask nofun
  · exact asks_pure _

theorem notices_registerUnderLock (policy : PlanningPolicy) (text : Option String) :
    Notices (fun _ => False) (registerUnderLock policy text) := by
  unfold registerUnderLock
  refine (notices_call (.findClass _) nofun).bind (fun found => ?_) fun _ never => never.elim
  have stored {last : Action Unit} (h : Notices (fun _ => False) last) :
      Notices (fun _ => False) (do
        ofResult (← knowledge (.upsertClass policy.queryClass))
        logClassification [.text "Registered query class", .int policy.queryHash]
        last) := by
    refine (notices_call (.upsertClass _) nofun).bind (fun _ => ?_) fun _ never => never.elim
    exact .after (elsewhere_logClassification _) fun _ => h
  cases text with
  | none => exact .ite (stored (notices_pure ())) (notices_pure ())
  | some text =>
    have recorded := notices_call (.recordText policy.queryHash text) nofun
    exact .ite (stored recorded) recorded

/-- A class whose registration met with an outage counts as not registered. -/
theorem notices_registerClass (policy : PlanningPolicy) (text : Option String) :
    Notices (· = false) (registerClass policy text) := by
  have tried (timeout : Value) := ((notices_registerUnderLock policy text).withLock
    policy.queryHash timeout).attempt
  unfold registerClass
  refine .after asks_get fun s => (tried _).bind (fun r => ?_) ?_
  · split
    · exact notices_pure _
    · exact .after (elsewhere_logClassification _) fun _ => notices_pure _
    · exact notices_throw _
  · rintro _ ⟨fault, rfl⟩
    cases fault with
    | unavailable cause => exact .bind fun _ => gives_pure rfl
    | _ => exact gives_throw _

/-- Whether a policy that was looked up is not usable, and disabled. -/
def Unusable (found : PlanningPolicy × Bool) : Prop :=
  found.2 = false ∧ found.1.isDisabled = true

theorem notices_lookUpPolicy (mode : Mode) (start : PlanningPolicy) (text : Option String) :
    Notices Unusable (lookUpPolicy mode start text) := by
  have idle (stored : Option QueryClass) (force : Bool) :
      Asks Request.IsElsewhere (deactivateIfIdle start.queryHash stored force) :=
    .ite ((elsewhere_logClassification _).bind fun _ => asks_modify _) (asks_pure _)
  unfold lookUpPolicy
  refine .after asks_get fun s => notices_knowledge_bind (fun reply => ?_) fun reply outage => ?_
  · split
    · exact .after (elsewhere_logClassification _) fun _ => notices_pure _
    · exact notices_throw _
    · refine .after (idle _ _) fun _ => .ite ?_ (notices_pure _)
      refine (notices_registerClass _ _).bind (fun _ => .ite (notices_pure _) (notices_pure _)) ?_
      rintro _ rfl
      exact gives_pure ⟨rfl, rfl⟩
  · rcases outage with ⟨_, fault, same⟩ | same
    · cases same
      cases fault with
      | unavailable cause => exact .bind fun _ => gives_pure ⟨rfl, rfl⟩
      | _ => exact gives_throw _
    · cases same

theorem notices_resolvePolicy (mode : Mode) (start : PlanningPolicy) (text : Option String) :
    Notices (·.isDisabled = true) (resolvePolicy mode start text) := by
  have settled (settings : Settings) (found : PlanningPolicy × Bool) :
      Asks Request.IsElsewhere (settlePolicy settings found) := by
    have stamped (timed : Bool) (policy : PlanningPolicy) : Asks Request.IsElsewhere (do
        if timed then return { policy with start := some (← Action.ask .now) }
        else return policy) :=
      .ite ((asks_ask nofun).bind fun _ => asks_pure _) (asks_pure _)
    refine .ite (asks_pure _) ((elsewhere_logClassification _).bind fun _ => ?_)
    exact .ite ((asks_ofResult _).bind fun timed => stamped timed _)
      ((asks_pure _).bind fun timed => stamped timed _)
  rw [resolvePolicy_eq]
  refine .after asks_get fun s => .ite ?_ ?_
  · exact .after (asks_pure _) fun _ => notices_of_asks (settled _ _)
  · refine (notices_lookUpPolicy _ _ _).bind (fun _ => notices_of_asks (settled _ _)) ?_
    rintro ⟨policy, _⟩ ⟨rfl, disabled⟩
    exact gives_pure disabled

theorem notices_classifyHash (mode : Mode) (hash : Int) (explained : Bool) (text : Option String) :
    Notices (·.policy.isDisabled = true) (classifyHash mode hash explained text) := by
  unfold classifyHash
  refine .after asks_get fun s => .ite ?_ (.ite ?_ ?_)
  · exact .after (elsewhere_logClassification _) fun _ => notices_pure _
  · exact .after (elsewhere_logClassification _) fun _ => notices_pure _
  refine .after (elsewhere_logClassification _) fun _ => .after (asks_modify _) fun _ => ?_
  exact (notices_resolvePolicy _ _ _).bind (fun _ => notices_pure _) fun _ off => gives_pure off

theorem notices_knowledgePresent : Notices (· = false) knowledgePresent := by
  unfold knowledgePresent
  refine .after asks_get fun s => .ite (notices_pure _) (.ite (notices_pure _) ?_)
  refine notices_knowledge_bind (fun reply => ?_) fun reply outage => ?_
  · split
    · exact .after (asks_set _) fun _ => notices_pure _
    · exact .after (asks_set _) fun _ => notices_pure _
    · exact notices_throw _
  · rcases outage with ⟨_, fault, same⟩ | same
    · cases same
      cases fault with
      | unavailable cause => exact .bind fun _ => gives_pure rfl
      | _ => exact gives_throw _
    · cases same
      exact .bind fun _ => gives_pure rfl

theorem notices_skipReason (stmt : Json) (mode : Mode) :
    Notices (· = some .notInstalled) (skipReason stmt mode) := by
  unfold skipReason
  refine notices_knowledgePresent.bind (fun present => .ite (notices_pure _) ?_) ?_
  · refine .after asks_get fun s => .after (asks_ofTree _) fun kind => .ite (notices_pure _) ?_
    refine .ite (notices_pure _) (.after (asks_ofResult _) fun nothing => .ite (notices_pure _) ?_)
    refine .after (asks_ofResult _) fun patterns => .after (asks_ofResult _) fun proxy => ?_
    refine .ite (notices_pure _) (.after (asks_ask nofun) fun own => ?_)
    refine .after (asks_ofTree _) fun system => .ite (notices_pure _) ?_
    exact .ite (notices_pure _) (notices_pure _)
  · rintro _ rfl
    exact gives_pure rfl

theorem elsewhere_resolve (query : Query) : Asks Request.IsElsewhere query.resolve := by
  unfold Query.resolve
  split
  · exact asks_pure _
  · exact (asks_ask nofun).bind fun _ => asks_ofResult _
  · exact asks_throw _

/-- **After an outage** a classification gives a disabled policy, if it gives one. -/
theorem notices_classify (query : Query) :
    Notices (·.policy.isDisabled = true) (classify query) := by
  unfold classify
  refine .after asks_get fun s => .after (asks_ofResult _) fun mode => ?_
  refine .after (elsewhere_resolve query) fun tree => .after (asks_ofTree _) fun stmt => ?_
  refine (notices_skipReason _ _).bind (fun reason => ?_) ?_
  · split
    · exact .after (elsewhere_logClassification _) fun _ => notices_pure _
    · refine .after (asks_modify _) fun _ => .after (asks_ofTree _) fun hash => ?_
      exact notices_classifyHash _ _ _ _
  · rintro _ rfl
    exact .bind fun _ => gives_pure rfl

end CardinalityAdvisor
