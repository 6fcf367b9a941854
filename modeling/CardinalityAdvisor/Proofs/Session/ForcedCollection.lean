import CardinalityAdvisor.Proofs.Session.Deactivation

/-!
# Statistics for all queries

Settings can ask for the statistics of all queries, whatever the mode is and whatever is stored of
their classes. Such a query is planned with statistics in the space of its own class, and with the
time at which planning began, if the guards let it pass, if its class is not being planned, and if
the knowledge base does not fail. There is one exception. A class that was deactivated under earlier
settings stays deactivated, and its queries are passed over.

## Main definitions

* `Asked.Succeeds x`: an exchange is no call to the knowledge base that fails
* `Verdict.Forced v hash`: a query of a class was classified under such settings
* `Verdict.Collects v hash`: statistics are collected for a query

## Main results

* `collecting_of_resolvePolicy`: the policy of an active class collects statistics
* `Verdict.Forced.ends`: the two ways in which such a classification ends
* `collects_unless_deactivated`: which of them it is, by the classifications before
-/

namespace CardinalityAdvisor

open CardinalityAdvisor.Action

/-! ## Classifications of which no call fails -/

/-- An exchange is no call to the knowledge base that fails. -/
def Asked.Succeeds (x : Asked) : Prop :=
  ∀ (call : Knowledge.Call) (fault : Fault), x ≠ ⟨.knowledge call, .error fault⟩

/-- If no call fails, a class is registered. -/
theorem registered_of_succeeds {policy : PlanningPolicy} {text : Option String} {s s' : Session}
    {t : List Asked} {result : Except Fault Bool} (succeeds : ∀ x ∈ t, x.Succeeds)
    (run : Runs (registerClass policy text) s t result s') : result = .ok true := by
  have never {call : Knowledge.Call} (fault : Fault) :
      Asked.Succeeds ⟨.knowledge call, .error fault⟩ → False :=
    fun answered => answered call fault rfl
  have under : FailsWith Asked.Succeeds (fun _ => False) (registerUnderLock policy text) :=
    failsWith_registerUnderLock policy text never never fun _ => never
  rw [registerClass, runs_get_bind] at run
  obtain ⟨t₁, t₂, r, s₁, rfl, locked, last⟩ := runs_attempt_bind.mp run
  obtain ⟨_, rfl⟩ := (under.withLock never never).exists_ok locked fun x member =>
    succeeds x (List.mem_append_left _ member)
  exact (runs_pure.mp last).2.1

/-- If no call fails, what is looked up can be used. -/
theorem usable_of_succeeds {mode : Mode} {start : PlanningPolicy} {text : Option String}
    {s s' : Session} {t : List Asked} {found : Except Fault (PlanningPolicy × Bool)}
    (succeeds : ∀ x ∈ t, x.Succeeds) (run : Runs (lookUpPolicy mode start text) s t found s') :
    ∃ policy, found = .ok (policy, true) := by
  cases LookedUp.of_runs run with
  | unavailable _ asked => exact (succeeds _ asked _ _ rfl).elim
  | broken _ _ asked => exact (succeeds _ asked _ _ rfl).elim
  | stored | left => exact ⟨_, rfl⟩
  | registered r _ within register =>
    obtain rfl := registered_of_succeeds (fun x member => succeeds x (within member)) register
    exact ⟨_, rfl⟩

/-- A policy that collects statistics is not disabled, so that the time is always asked for. -/
theorem Settled.collecting {settings : Settings} {policy : PlanningPolicy}
    {result : Except Fault PlanningPolicy} (h : Settled settings (.ok (policy, true)) result)
    (forced : settings.forcesCollection = true) :
    ∃ now, result = .ok { policy.collecting with start := some now } := by
  have collected : settings.collected policy = policy.collecting := if_pos forced
  have busy : policy.collecting.isDisabled = false := by
    simp [PlanningPolicy.isDisabled, PlanningPolicy.collecting]
  cases h with
  | unprofiled _ _ off => rw [collected, busy] at off; cases off
  | untimed _ off => rw [collected, busy] at off; cases off
  | timed _ now => exact ⟨now, by rw [collected]⟩

/-- **The policy of an active class** collects statistics in the space of the class, whatever the
mode is and whatever is stored. -/
theorem collecting_of_resolvePolicy {mode : Mode} {start : PlanningPolicy} {text : Option String}
    {s s' : Session} {t : List Asked} {result : Except Fault PlanningPolicy}
    (forced : s.settings.forcesCollection = true) (succeeds : ∀ x ∈ t, x.Succeeds)
    (run : Runs (resolvePolicy mode start text) s t result s') :
    ∃ policy, result = .ok policy ∧ policy.collectStat = true ∧
      policy.spaceHash = start.queryHash ∧ policy.start.isSome = true := by
  obtain ⟨found, settled, usable⟩ := resolvePolicy_settled run
  suffices known : ∃ policy, found = .ok (policy, true) ∧ policy.queryHash = start.queryHash by
    obtain ⟨policy, rfl, own⟩ := known
    obtain ⟨now, rfl⟩ := settled.collecting forced
    exact ⟨_, rfl, rfl, own, rfl⟩
  obtain ⟨-, rfl, -⟩ | ⟨-, part, within, lookUp⟩ := usable
  · exact ⟨start.disable, rfl, rfl⟩
  · obtain ⟨policy, rfl⟩ := usable_of_succeeds (fun x member => succeeds x (within member)) lookUp
    exact ⟨policy, rfl, lookUpPolicy_queryHash _ _ _ lookUp⟩

/-! ## Classifications under such settings -/

/-- A query of a class was classified while statistics were collected for all queries. The guards
let it pass, its class was not being planned, and no call to the knowledge base failed. -/
structure Verdict.Forced (v : Verdict) (hash : Int) : Prop where
  holds : v.Holds
  forced : v.before.settings.forcesCollection = true
  admitted : v.query.IsAdmitted v.before v.asked
  own : v.query.classIn v.asked = some hash
  free : hash ∉ v.before.active
  succeeds : ∀ x ∈ v.asked, x.Succeeds

/-- Statistics are collected for a query in the space of its own class, and it is known when its
planning began. -/
def Verdict.Collects (v : Verdict) (hash : Int) : Prop :=
  ∃ classified, v.result = .ok classified ∧ classified.policy.collectStat = true ∧
    classified.policy.spaceHash = hash ∧ classified.policy.start.isSome = true

/-- **One classification** under such settings collects statistics, unless the class is
deactivated. -/
theorem Verdict.Forced.ends {v : Verdict} {hash : Int} (h : v.Forced hash) :
    hash ∈ v.before.deactivated ∧ v.result = .ok (.passedOver hash) ∨
      hash ∉ v.before.deactivated ∧ v.Collects hash := by
  obtain ⟨asked, rest, a, s₁, exchanges, admitted⟩ := h.admitted
  have holds := h.holds
  unfold Verdict.Holds at holds
  rw [exchanges] at holds
  have goesOn := Guarded.goesOn admitted holds
  have named := Admission.classIn exchanges admitted
  obtain rfl : a.hash = hash := Option.some.inj (named.symm.trans h.own)
  have checked : SameButChecked v.before s₁ := within_admission v.query admitted
  generalize ended : v.result = result at goesOn
  cases Entered.of_runs goesOn with
  | passedOver known =>
    rw [checked.deactivated, checked.active] at known
    exact .inl ⟨known.resolve_right h.free, rfl⟩
  | @resolved part _ _ wanted _ within resolve =>
    rw [checked.deactivated] at wanted
    have succeeds (x : Asked) (member : x ∈ part) : x.Succeeds := by
      apply h.succeeds
      rw [exchanges]
      exact List.mem_append_right _ (within member)
    have forced : s₁.settings.forcesCollection = true := by rw [checked.settings, h.forced]
    obtain ⟨policy, rfl, collects, own, timed⟩ := collecting_of_resolvePolicy
      (s := { s₁ with active := a.hash :: s₁.active }) forced succeeds resolve
    exact .inr ⟨wanted, ⟨policy, true⟩, ended, collects, own, timed⟩

/-- **Statistics for all queries.** Let a query be classified while statistics are collected for all
queries, after any classifications of its session under any settings. If the guards let it pass, if
its class is not being planned and if no call to the knowledge base fails, then statistics are
collected for it in the space of its class, and planning has a start, whatever the mode and the
stored flags are. That is so unless one of the classifications before has deactivated the class,
when statistics were not collected for all queries yet; then the query is passed over. -/
theorem collects_unless_deactivated {s₀ : Session} {verdicts : List Verdict} {v : Verdict}
    {hash : Int} (fresh : s₀.deactivated = []) (course : Course s₀ verdicts v.before)
    (forced : v.Forced hash) :
    ((∀ earlier ∈ verdicts, ¬ earlier.Deactivates hash) → v.Collects hash) ∧
      ((∃ earlier ∈ verdicts, earlier.Deactivates hash) →
        v.result = .ok (.passedOver hash)) := by
  have history : hash ∈ v.before.deactivated ↔ ∃ w ∈ verdicts, w.Deactivates hash := by
    rw [course.mem_deactivated, fresh]
    simp
  obtain ⟨deactivated, passedOver⟩ | ⟨wanted, collects⟩ := forced.ends
  · obtain ⟨w, listed, deactivates⟩ := history.mp deactivated
    exact ⟨fun never => absurd deactivates (never w listed), fun _ => passedOver⟩
  · exact ⟨fun _ => collects, fun deactivates => absurd (history.mpr deactivates) wanted⟩

/-- Settings under which statistics are collected for all queries. -/
def collectingAll : Settings := { forceCollectStat := .bool true }

/-- Where every class is stored with all flags off, a query without conditions is classified under
such settings as one of its class. -/
theorem exists_forced_idle {s : Session} (forced : s.settings.forcesCollection = true)
    (free : bareHash ∉ s.active)
    (hashed : (idleOutcome s).1.toOption.map (·.policy.queryHash) = some bareHash) :
    ∃ v : Verdict, v.before = s ∧ v.after = (idleOutcome s).2 ∧ v.Forced bareHash := by
  obtain ⟨t, run, replies⟩ := exists_runs idleStored (classify (bareQuery .select)) s
  have succeeds : ∀ x ∈ t, x.Succeeds := by
    rintro x member call fault rfl
    have reply := replies _ member
    cases call <;> cases reply
  have admitted : (bareQuery .select).IsAdmitted s t := by
    change Runs _ s t (idleOutcome s).1 _ at run
    cases ended : (idleOutcome s).1 with
    | error fault =>
      rw [ended] at hashed
      cases hashed
    | ok classified =>
      rw [ended] at hashed run
      refine Query.isAdmitted_of_queryHash run ?_
      have named : classified.policy.queryHash = bareHash := Option.some.inj hashed
      rw [named]
      decide +kernel
  refine ⟨⟨bareQuery .select, s, t, (idleOutcome s).1, (idleOutcome s).2⟩, rfl, rfl, ?_⟩
  exact ⟨run, forced, admitted, classIn_bareQuery t, free, succeeds⟩

/-- A query of a class that is stored with all flags off is planned twice in a session that begins
with such settings. The first time does not deactivate the class. -/
theorem collects_unless_deactivated_twice : ∃ first second : Verdict,
    first.Forced bareHash ∧ Course { settings := collectingAll } [first] second.before ∧
      second.Forced bareHash ∧ second.Collects bareHash := by
  let s : Session := { settings := collectingAll }
  obtain ⟨first, begun, ended, forced⟩ := exists_forced_idle (s := s) rfl List.not_mem_nil
    (by decide +kernel)
  obtain ⟨second, again, -, forced'⟩ := exists_forced_idle (s := s.afterIdle collectingAll) rfl
    List.not_mem_nil (by decide +kernel)
  have started : Course s [] first.before := by
    rw [begun]
    exact .start
  have course : Course s [first] second.before := by
    refine .elsewhere (.classified first started forced.holds) ?_
    rw [again, ended]
    rfl
  have never : ∀ earlier ∈ [first], ¬ earlier.Deactivates bareHash := by
    intro earlier listed deactivates
    rw [List.mem_singleton.mp listed] at deactivates
    cases forced.forced.symm.trans deactivates.unforced
  obtain ⟨collects, -⟩ := collects_unless_deactivated rfl course forced'
  exact ⟨first, second, forced, course, forced', collects never⟩

/-- Statistics are not always collected. A query of a class that is stored with all flags off is
planned in controlled mode, which deactivates the class. When statistics are to be collected for all
queries after that, the query is passed over. -/
theorem passedOver_after_deactivation :
    ¬ ∀ (s₀ : Session) (verdicts : List Verdict) (v : Verdict) (hash : Int),
      s₀.deactivated = [] → Course s₀ verdicts v.before → v.Forced hash → v.Collects hash := by
  intro always
  obtain ⟨_, course, deactivated⟩ := exists_idle_course collectingAll
  obtain ⟨v, begun, -, forced⟩ := exists_forced_idle (s := controlling.afterIdle collectingAll) rfl
    List.not_mem_nil (by decide +kernel)
  rw [← begun] at course deactivated
  obtain ⟨_, passedOver⟩ | ⟨wanted, -⟩ := forced.ends
  · obtain ⟨classified, given, collects, -⟩ := always _ _ v bareHash rfl course forced
    rw [passedOver] at given
    cases given
    cases collects
  · exact wanted deactivated

end CardinalityAdvisor
