import CardinalityAdvisor.Proofs.Session.Admission
import CardinalityAdvisor.Proofs.Session.Endurance

/-!
# What becomes of an admitted query

An admitted query is passed over if its class is deactivated or active. Otherwise the class becomes
active, and only then its policy is looked up. Everything that can go wrong from there on goes wrong
with an active class, so it matters what a look-up does besides giving a policy, and which replies
of the knowledge base it did it for. Both are said here once.

## Main definitions

* `PlanningPolicy.initial`: the policy that a class begins with
* `Entered mode hash explained text s t result s'`: what becomes of a query whose class is known
* `Query.IsStopped`, `Query.IsAdmitted`: whether the guards let a query pass
* `LookedUp mode start text s t found s'`: what a look-up found, and what it was told

## Main results

* `Entered.of_runs`, `LookedUp.of_runs`: these are all the ways that there are
* `passedOver_of_known`: a class that is deactivated or active is not planned
-/

namespace CardinalityAdvisor

open CardinalityAdvisor.Action

/-- The policy that a class begins with. -/
def PlanningPolicy.initial (hash : Int) (explained : Bool) : PlanningPolicy :=
  { queryHash := hash, spaceHash := hash, explainOnly := explained }

/-- What becomes of a query whose class is known. -/
inductive Entered (mode : Mode) (hash : Int) (explained : Bool) (text : Option String)
    (s : Session) (t : List Asked) : Except Fault Classified → Session → Prop
  /-- The class is deactivated, or its queries are being planned. -/
  | passedOver : hash ∈ s.deactivated ∨ hash ∈ s.active → (∀ x ∈ t, x.request.Spares) →
      Entered mode hash explained text s t (.ok (.passedOver hash)) s
  /-- The class becomes active, and its policy is resolved. -/
  | resolved {part : List Asked} {s' : Session} (result : Except Fault PlanningPolicy) :
      hash ∉ s.deactivated → hash ∉ s.active → part ⊆ t →
      Runs (resolvePolicy mode (.initial hash explained) text)
        { s with active := hash :: s.active } part result s' →
      Entered mode hash explained text s t (result.map (⟨·, true⟩)) s'

/-- **A query whose class is known** is passed over, or its class becomes active. -/
theorem Entered.of_runs {mode : Mode} {hash : Int} {explained : Bool} {text : Option String}
    {s s' : Session} {t : List Asked} {result : Except Fault Classified}
    (run : Runs (classifyHash mode hash explained text) s t result s') :
    Entered mode hash explained text s t result s' := by
  have spared {entries : List Value} {t : List Asked} {result : Except Fault Classified}
      {s' : Session} (run : Runs (do
        logClassification entries
        return .passedOver hash) s t result s') : ∀ x ∈ t, x.request.Spares :=
    (asks_logClassification _).bind (fun _ => asks_pure _) run
  rw [classifyHash, runs_get_bind] at run
  split at run
  · rename_i deactivated
    have asked := spared run
    obtain ⟨_, -, last⟩ := runs_logged_bind run
    obtain ⟨-, rfl, rfl⟩ := runs_pure.mp last
    exact .passedOver (.inl (List.contains_iff_mem.mp deactivated)) asked
  rename_i wanted
  split at run
  · rename_i planned
    have asked := spared run
    obtain ⟨_, -, last⟩ := runs_logged_bind run
    obtain ⟨-, rfl, rfl⟩ := runs_pure.mp last
    exact .passedOver (.inr (List.contains_iff_mem.mp planned)) asked
  rename_i free
  rw [List.contains_iff_mem] at wanted free
  obtain ⟨part, within, entered⟩ := runs_logged_bind run
  rw [runs_modify_bind] at entered
  obtain ⟨t₁, t₂, policy, s₁, rfl, resolve, last⟩ | ⟨fault, rfl, failed⟩ := runs_bind.mp entered
  · obtain ⟨-, rfl, rfl⟩ := runs_pure.mp last
    have first : t₁ ⊆ t := List.Subset.trans (List.subset_append_left _ _) within
    exact .resolved (.ok policy) wanted free first resolve
  · exact .resolved (.error fault) wanted free within failed

/-- A guard stops a query, with the first of some exchanges. -/
def Query.IsStopped (query : Query) (s : Session) (t : List Asked) : Prop :=
  ∃ asked rest reason s', t = asked ++ rest ∧
    Runs (admission query) s asked (.ok (.error reason)) s'

/-- The guards let a query pass, with the first of some exchanges. -/
def Query.IsAdmitted (query : Query) (s : Session) (t : List Asked) : Prop :=
  ∃ asked rest a s', t = asked ++ rest ∧ Runs (admission query) s asked (.ok (.ok a)) s'

/-- Without a class, no policy has a hash. -/
theorem Query.isAdmitted_of_queryHash {query : Query} {s s' : Session} {t : List Asked}
    {classified : Classified} (run : Runs (classify query) s t (.ok classified) s')
    (hashed : classified.policy.queryHash ≠ 0) : query.IsAdmitted s t := by
  cases Guarded.of_runs run with
  | stopped => exact absurd rfl hashed
  | @admitted asked rest s₁ _ _ a exchanges admitted =>
    exact ⟨asked, rest, a, s₁, exchanges, admitted⟩

/-- **A class that is deactivated or active** is not planned: the knowledge base is at most asked
whether it is there, the classes of the session stay, and the policy of a query is disabled. -/
theorem passedOver_of_known {query : Query} {hash : Int} {s s' : Session} {t : List Asked}
    {result : Except Fault Classified} (known : hash ∈ s.deactivated ∨ hash ∈ s.active)
    (own : query.classIn t = some hash) (run : Runs (classify query) s t result s') :
    (∀ x ∈ t, x.request.Spares) ∧ SameButChecked s s' ∧ ∀ classified, result = .ok classified →
      query.IsAdmitted s t ∧ classified = .passedOver hash ∨
        query.IsStopped s t ∧ classified = .passedOver 0 := by
  cases Guarded.of_runs run with
  | failed fault failed =>
    refine ⟨asks_admission query failed, within_admission query failed, ?_⟩
    rintro classified ⟨⟩
  | @stopped asked rest _ reason exchanges stopped spared =>
    have asks := asks_admission query stopped
    rw [exchanges]
    refine ⟨List.forall_mem_append.mpr ⟨asks, spared⟩, within_admission query stopped, ?_⟩
    rintro classified ⟨⟩
    exact .inr ⟨⟨asked, rest, reason, s', rfl, stopped⟩, rfl⟩
  | @admitted asked rest s₁ _ _ a exchanges admitted goesOn =>
    have named := Admission.classIn exchanges admitted
    obtain rfl : a.hash = hash := Option.some.inj (named.symm.trans own)
    have checked : SameButChecked s s₁ := within_admission query admitted
    cases Entered.of_runs goesOn with
    | passedOver _ spared =>
      have asks := asks_admission query admitted
      rw [exchanges]
      refine ⟨List.forall_mem_append.mpr ⟨asks, spared⟩, checked, ?_⟩
      rintro classified ⟨⟩
      exact .inl ⟨⟨asked, rest, a, s', rfl, admitted⟩, rfl⟩
    | resolved result wanted free =>
      rw [checked.deactivated] at wanted
      rw [checked.active] at free
      exact (known.elim wanted free).elim

/-- The session after a class was deactivated if its flags are all off. -/
def Session.deactivateIdle (s : Session) (c : QueryClass) (hash : Int) : Session :=
  if c.idle s.settings.forcesCollection then { s with deactivated := s.deactivated.insert hash }
  else s

/-- What a look-up found, what it did to the session, and what the knowledge base said to that. -/
inductive LookedUp (mode : Mode) (start : PlanningPolicy) (text : Option String) (s : Session)
    (t : List Asked) : Except Fault (PlanningPolicy × Bool) → Session → Prop
  | unavailable (cause : Unavailability) :
      ⟨.knowledge (.findClass start.queryHash), .error (.unavailable cause)⟩ ∈ t →
      LookedUp mode start text s t (.ok (start.disable, false)) s
  | broken (fault : Fault) : ¬ fault.IsUnavailable →
      ⟨.knowledge (.findClass start.queryHash), .error fault⟩ ∈ t →
      LookedUp mode start text s t (.error fault) s
  | stored (c : QueryClass) : ⟨.knowledge (.findClass start.queryHash), .ok (some c)⟩ ∈ t →
      LookedUp mode start text s t (.ok (start.underMode mode (some c), true))
        (s.deactivateIdle c start.queryHash)
  /-- The class is not stored, and nobody wants it to be. -/
  | left : ⟨.knowledge (.findClass start.queryHash), .ok none⟩ ∈ t →
      LookedUp mode start text s t (.ok (start.underMode mode none, true)) s
  /-- The class was to be registered. -/
  | registered {part : List Asked} (r : Except Fault Bool) :
      ⟨.knowledge (.findClass start.queryHash), .ok none⟩ ∈ t → part ⊆ t →
      Runs (registerClass (start.underMode mode none) text) s part r s →
      LookedUp mode start text s t (r.map fun done =>
        if done then (start.underMode mode none, true)
        else ((start.underMode mode none).disable, false)) s

/-- **A look-up** finds a policy in one of these ways, or fails. -/
theorem LookedUp.of_runs {mode : Mode} {start : PlanningPolicy} {text : Option String}
    {s s' : Session} {t : List Asked} {found : Except Fault (PlanningPolicy × Bool)}
    (run : Runs (lookUpPolicy mode start text) s t found s') :
    LookedUp mode start text s t found s' := by
  rw [lookUpPolicy, runs_get_bind] at run
  obtain ⟨reply, rest, rfl, goesOn⟩ := runs_knowledge_bind.mp run
  have asked : ⟨.knowledge (.findClass start.queryHash), reply⟩ ∈
      (⟨.knowledge (.findClass start.queryHash), reply⟩ :: rest : List Asked) :=
    List.mem_cons_self
  split at goesOn
  · obtain ⟨_, -, last⟩ := runs_logged_bind goesOn
    obtain ⟨-, rfl, rfl⟩ := runs_pure.mp last
    exact .unavailable _ asked
  · rename_i fault other
    obtain ⟨-, rfl, rfl⟩ := runs_throw.mp goesOn
    refine .broken _ ?_ asked
    rintro ⟨cause, rfl⟩
    exact other cause rfl
  rename_i stored
  cases stored with
  | some c =>
    have kept {s₁ : Session} {t : List Asked} (run : Runs (pure (start.underMode mode (some c),
        true)) s₁ t found s') :
        found = .ok (start.underMode mode (some c), true) ∧ s' = s₁ := (runs_pure.mp run).2
    suffices ended : found = .ok (start.underMode mode (some c), true) ∧
        s' = s.deactivateIdle c start.queryHash by
      obtain ⟨rfl, rfl⟩ := ended
      exact .stored c asked
    rw [deactivateIfIdle, Option.any_some] at goesOn
    unfold Session.deactivateIdle
    split at goesOn
    · rename_i idle
      rw [if_pos idle]
      rw [bind_assoc] at goesOn
      obtain ⟨_, -, last⟩ := runs_logged_bind goesOn
      exact kept last
    · rename_i busy
      rw [if_neg busy]
      exact kept goesOn
  | none =>
    have wanted := goesOn
    rw [deactivateIfIdle, Option.any_none] at wanted
    simp only [Bool.false_eq_true, if_false, runs_pure_bind] at wanted
    split at wanted
    · obtain ⟨t₁, t₂, done, s₁, rfl, register, last⟩ | ⟨fault, rfl, failed⟩ := runs_bind.mp wanted
      · have within : t₁ ⊆ t₁ ++ t₂ := List.subset_append_left _ _
        have same : s = s₁ := registerClass_leavesSession _ _ register
        rw [← same] at register last
        cases done with
        | true =>
          obtain ⟨-, rfl, rfl⟩ := runs_pure.mp last
          exact .registered (.ok true) asked (List.subset_cons_of_subset _ within) register
        | false =>
          obtain ⟨-, rfl, rfl⟩ := runs_pure.mp last
          exact .registered (.ok false) asked (List.subset_cons_of_subset _ within) register
      · obtain rfl : s = s' := registerClass_leavesSession _ _ failed
        exact .registered (.error fault) asked (List.subset_cons_self _ _) failed
    · obtain ⟨-, rfl, rfl⟩ := runs_pure.mp wanted
      exact .left asked

end CardinalityAdvisor
