import CardinalityAdvisor.Proofs.Session.Ends
import CardinalityAdvisor.Proofs.Session.LookUp

/-!
# Classifications that fail

A classification that fails at the guards leaves the classes of its session alone. One that fails
later does not: by then the class of the query is active, and nobody makes it inactive again. On a
knowledge base in memory there are two causes for that, both of them settings. The lock of a new
class refuses to be waited for, because of the time that is given for it, or the capacity of the
profiling table is no number. Such a class is not planned again in its session until somebody
releases it.

## Main definitions

* `Asked.IsInMemory x`: a reply is one of a knowledge base in memory
* `LeftActive query s t fault s' hash`: a failure has left a class active, and why

## Main results

* `fault_of_registerClass`: a registration fails only with what is wrong with the timeout
* `restored_or_leftActive`: what every failed classification leaves behind
-/

namespace CardinalityAdvisor

open CardinalityAdvisor.Action
open Knowledge (Store checkTimeout)

/-! ## Knowledge bases in memory -/

/-- If an exchange is one with the knowledge base, the reply is one of a knowledge base in memory.
What that one holds may change from one exchange to the next. -/
def Asked.IsInMemory (x : Asked) : Prop :=
  ∀ call reply, x = ⟨.knowledge call, reply⟩ → ∃ store : Store, reply = (store.answer call).1

/-- A knowledge base in memory fails because it is not set up or a lock is held, or because it
cannot wait for a lock as long as it is told to. -/
theorem Asked.IsInMemory.error {call : Knowledge.Call} {fault : Fault}
    (h : Asked.IsInMemory ⟨.knowledge call, .error fault⟩) :
    fault.IsUnavailable ∨
      ∃ hash timeout, call = .lockClass hash timeout ∧ checkTimeout timeout = .error fault := by
  obtain ⟨store, same⟩ := h call _ rfl
  unfold Store.answer at same
  split at same
  · cases same
    exact .inl ⟨_, rfl⟩
  cases call with
  | lockClass hash timeout =>
    simp only [Store.reply, Store.lockClass] at same
    cases checked : checkTimeout timeout with
    | error cause =>
      rw [checked] at same
      cases same
      exact .inr ⟨hash, timeout, rfl, checked⟩
    | ok _ =>
      rw [checked] at same
      by_cases held : store.locked.contains hash = true
      · simp only [bind, Except.bind, held, if_true] at same
        cases same
        exact .inl ⟨_, rfl⟩
      · simp only [bind, Except.bind, held] at same
        cases same
  | _ => cases same

theorem Asked.IsInMemory.isUnavailable {call : Knowledge.Call} {fault : Fault}
    (h : Asked.IsInMemory ⟨.knowledge call, .error fault⟩)
    (other : ∀ hash timeout, call ≠ .lockClass hash timeout) : fault.IsUnavailable := by
  obtain unavailable | ⟨hash, timeout, lock, -⟩ := h.error
  · exact unavailable
  · exact absurd lock (other hash timeout)

/-! ## Where a classification can fail -/

/-- **The registration of a class** fails only with what is wrong with the timeout of its lock:
that the knowledge base is unavailable is caught. -/
theorem fault_of_registerClass {policy : PlanningPolicy} {text : Option String} {s s' : Session}
    {t : List Asked} {fault : Fault} (memory : ∀ x ∈ t, x.IsInMemory)
    (run : Runs (registerClass policy text) s t (.error fault) s') :
    checkTimeout s.settings.lockTimeout = .error fault := by
  rw [registerClass, runs_get_bind] at run
  have under : FailsWith Asked.IsInMemory Fault.IsUnavailable (registerUnderLock policy text) := by
    apply failsWith_registerUnderLock
    · exact fun _ answered => answered.isUnavailable nofun
    · exact fun _ answered => answered.isUnavailable nofun
    · exact fun _ _ answered => answered.isUnavailable nofun
  have locked : FailsWith Asked.IsInMemory
      (fun fault => fault.IsUnavailable ∨ checkTimeout s.settings.lockTimeout = .error fault)
      (withLock policy.queryHash s.settings.lockTimeout (registerUnderLock policy text)) := by
    refine (under.mono fun _ => .inl).withLock ?_ fun _ answered => ?_
    · intro fault answered
      obtain unavailable | ⟨_, _, ⟨⟩, refused⟩ := answered.error
      · exact .inl unavailable
      · exact .inr refused
    · exact .inl (answered.isUnavailable nofun)
  refine failsWith_attempt_bind (P := (checkTimeout s.settings.lockTimeout = .error ·)) locked
    (fun r failed => ?_) run memory
  split
  · exact failsWith_pure _
  · exact (failsWith_logClassification _).bind fun _ => failsWith_pure _
  · rename_i fault other
    refine failsWith_throw ?_
    obtain ⟨cause, rfl⟩ | refused := failed fault rfl
    · exact absurd rfl (other cause)
    · exact refused

/-- A look-up fails where the class was to be registered, before it is deactivated. -/
theorem fault_of_lookUpPolicy {mode : Mode} {start : PlanningPolicy} {text : Option String}
    {s s' : Session} {t : List Asked} {fault : Fault} (memory : ∀ x ∈ t, x.IsInMemory)
    (run : Runs (lookUpPolicy mode start text) s t (.error fault) s') :
    checkTimeout s.settings.lockTimeout = .error fault ∧ s' = s := by
  generalize failed : (Except.error fault : Except Fault (PlanningPolicy × Bool)) = found at run
  cases LookedUp.of_runs run with
  | broken _ other asked =>
    exact absurd ((memory _ asked).isUnavailable nofun) other
  | registered r _ within register =>
    cases r with
    | ok done => cases failed
    | error cause =>
      cases failed
      exact ⟨fault_of_registerClass (fun x member => memory x (within member)) register, rfl⟩
  | unavailable | stored | left => cases failed

/-! ## What a failure leaves behind -/

/-- A failed classification has left the class of its query active. Either the lock of the class
could not be waited for, or it could not be found out whether times are profiled, and the class may
have been deactivated before that. -/
structure LeftActive (query : Query) (s : Session) (t : List Asked) (fault : Fault)
    (s' : Session) (hash : Int) : Prop where
  own : query.classIn t = some hash
  inactive : hash ∉ s.active
  wanted : hash ∉ s.deactivated
  active : s'.active = hash :: s.active
  cause :
    checkTimeout s.settings.lockTimeout = .error fault ∧ s'.deactivated = s.deactivated ∨
      s.settings.profilingEnabled = .error fault ∧
        (s'.deactivated = s.deactivated ∨ s'.deactivated = s.deactivated.insert hash)

/-- If the policy of a class cannot be resolved, a setting is the cause. -/
theorem fault_of_resolvePolicy {mode : Mode} {start : PlanningPolicy} {text : Option String}
    {s s' : Session} {t : List Asked} {fault : Fault} (memory : ∀ x ∈ t, x.IsInMemory)
    (run : Runs (resolvePolicy mode start text) s t (.error fault) s') :
    checkTimeout s.settings.lockTimeout = .error fault ∧ s' = s ∨
      s.settings.profilingEnabled = .error fault ∧ SameButDeactivated start.queryHash s s' := by
  have changed : SameButDeactivated start.queryHash s s' := (resolvePolicy_spec run).1
  obtain ⟨found, settled, looked⟩ := resolvePolicy_settled run
  cases settled with
  | unprofiled policy fault off profiling => exact .inr ⟨profiling, changed⟩
  | failed fault =>
    obtain ⟨-, nothing, -⟩ | ⟨-, part, within, lookUp⟩ := looked
    · cases nothing
    · exact .inl (fault_of_lookUpPolicy (fun x member => memory x (within member)) lookUp)

/-- A classification that fails has failed at the guards, or has left the class active. -/
theorem leftActive_of_classify {query : Query} {s s' : Session} {t : List Asked} {fault : Fault}
    (memory : ∀ x ∈ t, x.IsInMemory) (run : Runs (classify query) s t (.error fault) s') :
    Runs (admission query) s t (.error fault) s' ∨
      ∃ hash, LeftActive query s t fault s' hash := by
  generalize failed : (Except.error fault : Except Fault Classified) = result at run
  cases Guarded.of_runs run with
  | failed _ atGuards =>
    cases failed
    exact .inl atGuards
  | stopped => cases failed
  | @admitted asked rest s₁ _ _ a exchanges admitted goesOn =>
    subst exchanges
    have checked : SameButChecked s s₁ := within_admission query admitted
    cases Entered.of_runs goesOn with
    | passedOver => cases failed
    | @resolved part _ r wanted free within resolve =>
      cases r with
      | ok policy => cases failed
      | error cause =>
        cases failed
        have replies : ∀ x ∈ part, x.IsInMemory := fun x member =>
          memory x (List.mem_append_right _ (within member))
        have causes := fault_of_resolvePolicy replies resolve
        simp only [checked.settings] at causes
        rw [checked.deactivated] at wanted
        rw [checked.active] at free
        refine .inr ⟨a.hash, Admission.classIn rfl admitted, free, wanted, ?_, ?_⟩
        · rw [← checked.active]
          obtain ⟨-, rfl⟩ | ⟨-, rfl | rfl⟩ := causes <;> rfl
        · rw [← checked.deactivated]
          obtain ⟨refused, rfl⟩ | ⟨unknown, rfl | rfl⟩ := causes
          · exact .inl ⟨refused, rfl⟩
          · exact .inr ⟨unknown, .inl rfl⟩
          · exact .inr ⟨unknown, .inr rfl⟩

/-- A planning call that does not begin is a classification that failed. -/
theorem classify_of_not_opened {query : Query} {s s' : Session} {t : List Asked} {fault : Fault}
    (run : Runs (openCall query) s t (.error fault) s') :
    Runs (classify query) s t (.error fault) s' := by
  obtain ⟨_, _, _, failed, -⟩ | ⟨_, same, failed⟩ := runs_openCall.mp run
  · cases failed
  · cases same
    exact failed

/-- **What a failed classification leaves behind.** Let a classification fail, or a planning call
that begins with one, on a knowledge base in memory, whatever that holds. The planning calls in
progress and their policies stay. If the classification failed at the guards, the active and the
deactivated classes stay, too. Otherwise the class of the query was neither deactivated nor active,
and now it is active. Then the lock of the class refused the timeout of the settings, or the
settings do not say whether times are profiled. As long as nobody releases the class, its queries
are given disabled policies from then on. -/
theorem restored_or_leftActive {query : Query} {s s' : Session} {t : List Asked} {fault : Fault}
    (memory : ∀ x ∈ t, x.IsInMemory)
    (run : Runs (classify query) s t (.error fault) s' ∨
      Runs (openCall query) s t (.error fault) s') :
    SameCalls s s' ∧
      (Runs (admission query) s t (.error fault) s' ∧
          s'.active = s.active ∧ s'.deactivated = s.deactivated ∨
        ∃ hash, LeftActive query s t fault s' hash ∧
          ∀ next s₁ t₁ classified s₂, hash ∈ s₁.active → next.classIn t₁ = some hash →
            Runs (classify next) s₁ t₁ (.ok classified) s₂ →
            classified = .passedOver hash ∨ classified = .passedOver 0) := by
  have failed : Runs (classify query) s t (.error fault) s' := run.elim id classify_of_not_opened
  refine ⟨(Classification.of_runs failed).sameCalls, ?_⟩
  obtain atGuards | ⟨hash, left⟩ := leftActive_of_classify memory failed
  · have checked : SameButChecked s s' := within_admission query atGuards
    exact .inl ⟨atGuards, checked.active, checked.deactivated⟩
  · refine .inr ⟨hash, left, fun next s₁ t₁ classified s₂ active own again => ?_⟩
    obtain ⟨-, -, given⟩ := passedOver_of_known (.inr active) own again
    exact (given classified rfl).imp And.right And.right

/-- A session that learns new classes and does not wait for their locks. -/
def impatient : Session := { settings := { mode := .mode .learn, lockTimeout := .int (-2) } }

/-- Surroundings with a knowledge base in memory that holds nothing. -/
def emptyStore : (request : Request) → Request.Reply request
  | .knowledge call => (({} : Store).answer call).1
  | request => nothingStored request

/-- A class whose lock refuses to be waited for stays active, although its query was not planned. -/
theorem restored_or_leftActive_impatient :
    ∃ t s' hash, (∀ x ∈ t, x.IsInMemory) ∧
      Runs (classify (bareQuery .select)) impatient t (.error .negativeTimeout) s' ∧
      s'.active = [hash] ∧
      LeftActive (bareQuery .select) impatient t .negativeTimeout s' hash := by
  obtain ⟨t, run, replies⟩ := exists_runs emptyStore (classify (bareQuery .select)) impatient
  have memory : ∀ x ∈ t, x.IsInMemory := by
    rintro x member call reply rfl
    exact ⟨{}, replies _ member⟩
  have failed : (outcome emptyStore (classify (bareQuery .select)) impatient).1 =
      .error .negativeTimeout := by decide +kernel
  have changed : (outcome emptyStore (classify (bareQuery .select)) impatient).2.active ≠ [] := by
    decide +kernel
  rw [failed] at run
  obtain ⟨-, ⟨-, kept, -⟩ | ⟨hash, left, -⟩⟩ := restored_or_leftActive memory (.inl run)
  · exact absurd kept changed
  · exact ⟨t, _, hash, memory, run, left.active, left⟩

end CardinalityAdvisor
