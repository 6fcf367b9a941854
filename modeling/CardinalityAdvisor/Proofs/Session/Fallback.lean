import CardinalityAdvisor.Proofs.Registration.Footprint
import CardinalityAdvisor.Proofs.Session.LookUp

/-!
# The policy that is left after a failure

Once a class is active, a failing call to the knowledge base turns everything off for the query at
hand. The policy that is left is the disabled one of the class, with one exception. In forced mode a
class that is not stored was given the shared space, and if its registration fails, it is left
there: turning the flags off does not give the space back.

## Main definitions

* `Asked.IsLoss x`: a call about what is stored failed

## Main results

* `runs_lookUpPolicy_unusable`: the two policies that an unusable look-up can leave
* `unusable_of_resolvePolicy`: after a failing call, a look-up decides about the policy
* `policy_after_loss`: the policy that a classification gives after a failing call
-/

namespace CardinalityAdvisor

open CardinalityAdvisor.Action

/-- A call about what is stored failed. Whether the knowledge base is there is asked before any
class is active, so that call does not count. -/
def Asked.IsLoss (x : Asked) : Prop :=
  ∃ call fault, call ≠ .isInstalled ∧ x = ⟨.knowledge call, .error fault⟩

theorem Asked.IsLoss.isOutage {x : Asked} (h : x.IsLoss) : x.IsOutage := by
  obtain ⟨call, fault, -, same⟩ := h
  exact .inl ⟨call, fault, same⟩

theorem Asked.IsLoss.not_spares {x : Asked} (h : x.IsLoss) : ¬ x.request.Spares := by
  obtain ⟨call, _, late, rfl⟩ := h
  exact fun spares => late (spares call rfl)

/-- The class with a hash was found missing. -/
def Missing (hash : Int) (t : List Asked) : Prop :=
  (⟨.knowledge (.findClass hash), .ok none⟩ : Asked) ∈ t

theorem not_missing_of_spares {hash : Int} {t : List Asked} (spared : ∀ x ∈ t, x.request.Spares) :
    ¬ Missing hash t := by
  intro missing
  cases spared _ missing _ rfl

theorem missing_append {hash : Int} {t rest : List Asked} :
    Missing hash (t ++ rest) ↔ Missing hash t ∨ Missing hash rest := List.mem_append

/-- A new class that is disabled again has lost its flags, and its space is the one that the mode
gave it. -/
theorem disable_underMode (hash : Int) (explained : Bool) (mode : Mode) :
    ((PlanningPolicy.initial hash explained).underMode mode none).disable =
      { PlanningPolicy.disabled hash with
        spaceHash := if mode = .forced then sharedSpace else hash } := by
  rw [← ClassFlags.ofNew_space]
  rfl

/-- **A look-up that is not usable** could not find out whether the class is stored, or could not
register the class, which the mode or the settings wanted. -/
theorem runs_lookUpPolicy_unusable {mode : Mode} {start policy : PlanningPolicy}
    {text : Option String} {s s' : Session} {t : List Asked}
    (run : Runs (lookUpPolicy mode start text) s t (.ok (policy, false)) s') :
    policy = start.disable ∧ ¬ Missing start.queryHash t ∨
      policy = (start.underMode mode none).disable ∧ Missing start.queryHash t ∧
        ((start.underMode mode none).isNewClass = true ∨ s.settings.forcesCollection = true) := by
  rw [lookUpPolicy, runs_get_bind] at run
  obtain ⟨reply, rest, rfl, goesOn⟩ := runs_knowledge_bind.mp run
  split at goesOn
  · have spared := (asks_logClassification _).bind (fun _ => asks_pure _) goesOn
    obtain ⟨_, -, last⟩ := runs_logged_bind goesOn
    obtain ⟨-, same, -⟩ := runs_pure.mp last
    cases same
    refine .inl ⟨rfl, fun missing => ?_⟩
    rcases List.mem_cons.mp missing with same | later
    · cases same
    · exact not_missing_of_spares spared later
  · cases (runs_throw.mp goesOn).2.1
  rename_i stored
  cases stored with
  | some c =>
    have usable : Gives (fun found => found.2 = true) (do
        deactivateIfIdle start.queryHash (some c) s.settings.forcesCollection
        return (start.underMode mode (some c), true)) := .bind fun _ => gives_pure rfl
    cases usable goesOn
  | none =>
    rw [deactivateIfIdle, Option.any_none] at goesOn
    simp only [Bool.false_eq_true, if_false, runs_pure_bind] at goesOn
    split at goesOn
    · rename_i wanted
      rw [Option.isNone_none, Bool.true_and, Bool.or_eq_true] at wanted
      obtain ⟨_, _, done, _, -, -, last⟩ | ⟨_, failed, -⟩ := runs_bind.mp goesOn
      · cases done with
        | true => cases (runs_pure.mp last).2.1
        | false =>
          cases (runs_pure.mp last).2.1
          exact .inr ⟨rfl, List.mem_cons_self, wanted⟩
      · cases failed
    · cases (runs_pure.mp goesOn).2.1

/-- **After a failing call** the policy of an active class is the one that its look-up left, and
everything about the class was asked by that look-up. -/
theorem unusable_of_resolvePolicy {mode : Mode} {start policy : PlanningPolicy}
    {text : Option String} {s s' : Session} {t : List Asked}
    (run : Runs (resolvePolicy mode start text) s t (.ok policy) s') (lost : ∃ x ∈ t, x.IsLoss) :
    ∃ part rest s₁, t = part ++ rest ∧ (∀ x ∈ rest, x.request.Spares) ∧
      Runs (lookUpPolicy mode start text) s part (.ok (policy, false)) s₁ := by
  obtain ⟨x, member, loss⟩ := lost
  rw [resolvePolicy_eq, runs_get_bind] at run
  split at run
  · rw [runs_pure_bind] at run
    exact absurd (spares_settlePolicy _ _ run x member) loss.not_spares
  obtain ⟨part, rest, found, s₁, rfl, lookUp, settle⟩ | ⟨_, failed, -⟩ := runs_bind.mp run
  swap
  · cases failed
  have spared := spares_settlePolicy _ _ settle
  have inside : x ∈ part := by
    rcases List.mem_append.mp member with inside | later
    · exact inside
    · exact absurd (spared x later) loss.not_spares
  obtain ⟨unusable, -⟩ := notices_lookUpPolicy _ _ _ lookUp ⟨x, inside, loss.isOutage⟩
  obtain ⟨left, _⟩ := found
  cases unusable
  obtain ⟨-, same, -⟩ := runs_pure.mp settle
  cases same
  exact ⟨part, rest, s₁, rfl, spared, lookUp⟩

/-- A query that met with a failing call about its class had been given a class that became active,
and the call was made while the policy of that class was resolved. -/
theorem resolved_of_loss {mode : Mode} {hash : Int} {explained : Bool} {text : Option String}
    {s s' : Session} {t : List Asked} {classified : Classified}
    (run : Runs (classifyHash mode hash explained text) s t (.ok classified) s')
    (lost : ∃ x ∈ t, x.IsLoss) :
    ∃ before part s₁, t = before ++ part ∧ (∀ x ∈ before, x.request.Spares) ∧
      s₁.settings = s.settings ∧ classified.entered = true ∧
      Runs (resolvePolicy mode (.initial hash explained) text) s₁ part (.ok classified.policy)
        s' := by
  have passedOver {entries : List Value} {t : List Asked} (run : Runs (do
      logClassification entries
      return .passedOver hash) s t (.ok classified) s') : ¬ ∃ x ∈ t, x.IsLoss := by
    rintro ⟨x, member, loss⟩
    exact loss.not_spares ((asks_logClassification _).bind (fun _ => asks_pure _) run x member)
  rw [classifyHash, runs_get_bind] at run
  split at run
  · exact absurd lost (passedOver run)
  split at run
  · exact absurd lost (passedOver run)
  obtain ⟨before, rest, _, s₁, rfl, logged, goesOn⟩ | ⟨_, failed, -⟩ := runs_bind.mp run
  swap
  · cases failed
  obtain rfl : s = s₁ := within_logClassification _ logged
  rw [runs_modify_bind] at goesOn
  obtain ⟨part, _, policy, s₂, rfl, resolve, last⟩ | ⟨_, failed, -⟩ := runs_bind.mp goesOn
  swap
  · cases failed
  obtain ⟨rfl, same, rfl⟩ := runs_pure.mp last
  cases same
  rw [List.append_nil]
  exact ⟨before, part, { s with active := hash :: s.active }, rfl,
    asks_logClassification _ logged, rfl, rfl, resolve⟩

/-- **After a failing call** about what is stored, a classification gives the disabled policy of the
class of its query in every field, unless the mode is forced and the class was found missing. Then
statistics are collected for all queries, since the class was to be registered, and the space of the
policy is the shared one. -/
theorem policy_after_loss {query : Query} {s s' : Session} {t : List Asked}
    {classified : Classified} (run : Runs (classify query) s t (.ok classified) s')
    (lost : ∃ x ∈ t, x.IsLoss) :
    ∃ mode hash, s.settings.resolvedMode = .ok mode ∧ query.classIn t = some hash ∧
      classified.entered = true ∧
      (classified.policy = .disabled hash ∧ ¬ (mode = .forced ∧ Missing hash t) ∨
        classified.policy = { PlanningPolicy.disabled hash with spaceHash := sharedSpace } ∧
          mode = .forced ∧ Missing hash t ∧ s.settings.forcesCollection = true) := by
  obtain ⟨x, member, loss⟩ := lost
  generalize given : (Except.ok classified : Except Fault Classified) = result at run
  cases Guarded.of_runs run with
  | failed => cases given
  | stopped _ exchanges stopped spared =>
    rw [exchanges] at member
    rcases List.mem_append.mp member with early | later
    · exact absurd (asks_admission query stopped x early) loss.not_spares
    · exact absurd (spared x later) loss.not_spares
  | @admitted asked rest s₁ _ _ a exchanges admitted goesOn =>
    subst given exchanges
    have checked : SameButChecked s s₁ := within_admission query admitted
    obtain ⟨known, -⟩ := Admission.of_runs admitted
    have early := asks_admission query admitted
    have late : x ∈ rest := by
      rcases List.mem_append.mp member with inside | late
      · exact absurd (early x inside) loss.not_spares
      · exact late
    obtain ⟨before, part, s₂, rfl, first, settings, entered, resolve⟩ :=
      resolved_of_loss goesOn ⟨x, late, loss⟩
    have inside : x ∈ part := by
      rcases List.mem_append.mp late with early | inside
      · exact absurd (first x early) loss.not_spares
      · exact inside
    obtain ⟨look, settled, s₃, rfl, last, lookUp⟩ :=
      unusable_of_resolvePolicy resolve ⟨x, inside, loss⟩
    refine ⟨a.mode, a.hash, known, Admission.classIn rfl admitted, entered, ?_⟩
    have missing : Missing a.hash (asked ++ (before ++ (look ++ settled))) ↔
        Missing a.hash look := by
      simp only [missing_append, not_missing_of_spares early, not_missing_of_spares first,
        not_missing_of_spares last, false_or, or_false]
    rw [missing]
    obtain ⟨disabled, stored⟩ | ⟨disabled, absent, wanted⟩ := runs_lookUpPolicy_unusable lookUp
    · exact .inl ⟨disabled, fun forced => stored forced.2⟩
    · rw [disable_underMode] at disabled
      by_cases forced : a.mode = .forced
      · rw [if_pos forced] at disabled
        rw [forced, settings, checked.settings] at wanted
        obtain new | collects := wanted
        · cases new
        · exact .inr ⟨disabled, forced, absent, collects⟩
      · rw [if_neg forced] at disabled
        exact .inl ⟨disabled, fun both => forced both.1⟩

/-- A session in forced mode that collects statistics for all queries. -/
def forcing : Session :=
  { settings := { mode := .mode .forced, forceCollectStat := .bool true } }

/-- Surroundings in which nothing is stored and no lock of a class is granted. -/
def lockedOut : (request : Request) → Request.Reply request
  | .knowledge (.lockClass hash _) => .error (.unavailable (.lockHeld hash))
  | request => nothingStored request

/-- Whether a request takes the lock of a class. -/
def Request.locks : Request → Bool
  | .knowledge (.lockClass _ _) => true
  | _ => false

/-- A new class that cannot be registered in forced mode is disabled, but keeps the shared space. -/
theorem policy_after_loss_forced :
    ∃ t s' classified, Runs (classify (bareQuery .select)) forcing t (.ok classified) s' ∧
      (∃ x ∈ t, x.IsLoss) ∧ classified.policy ≠ .disabled bareHash ∧
      classified.policy = { PlanningPolicy.disabled bareHash with spaceHash := sharedSpace } := by
  have space : (outcome lockedOut (classify (bareQuery .select)) forcing).1.toOption.map
      (·.policy.spaceHash) = some sharedSpace := by decide +kernel
  have own : bareHash ≠ sharedSpace := by decide +kernel
  obtain ⟨classified, given, shared⟩ := Option.map_eq_some_iff.mp space
  obtain ⟨t, run, replies⟩ := exists_runs_ok given
  have locked : (requests lockedOut (classify (bareQuery .select)) forcing).any
      Request.locks = true := by decide +kernel
  rw [requests_of_runs run replies] at locked
  have lost : ∃ x ∈ t, x.IsLoss := by
    obtain ⟨_, asked, locks⟩ := List.any_eq_true.mp locked
    obtain ⟨⟨request, reply⟩, member, rfl⟩ := List.mem_map.mp asked
    have same : reply = lockedOut request := replies _ member
    dsimp only at locks
    unfold Request.locks at locks
    split at locks
    · rename_i hash timeout
      exact ⟨_, member, .lockClass hash timeout, _, nofun, by rw [same]; rfl⟩
    · cases locks
  obtain ⟨mode, hash, -, named, -, ⟨disabled, -⟩ | ⟨left, -⟩⟩ := policy_after_loss run lost
  all_goals
    obtain rfl : bareHash = hash := Option.some.inj ((classIn_bareQuery t).symm.trans named)
  · rw [disabled] at shared
    exact absurd shared own
  · refine ⟨t, _, classified, run, lost, fun disabled => ?_, left⟩
    rw [disabled] at shared
    exact own shared

end CardinalityAdvisor
