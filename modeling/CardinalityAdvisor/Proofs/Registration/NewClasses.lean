import CardinalityAdvisor.Proofs.Registration.Footprint
import CardinalityAdvisor.Proofs.Session.LookUp

/-!
# The classes that a classification stores

Whoever uses the knowledge base at the same time, a classification stores only the class of its
query, and the mode alone makes it. A registration that succeeds has either stored the class or
found one that others have stored in the meantime, which it leaves as it is.

## Main definitions

* `Request.StoresOnly P request`: a request stores only classes with a property

## Main results

* `storesOnly_classify`: a classification stores only what its mode makes
* `found_or_stored_of_registered`: what a registration that succeeds was told under the lock
-/

namespace CardinalityAdvisor

open CardinalityAdvisor.Action

/-! ## Requests that store a class -/

/-- A request stores only classes with a property. -/
def Request.StoresOnly (P : QueryClass → Prop) (request : Request) : Prop :=
  ∀ c, request = .knowledge (.upsertClass c) → P c

variable {P : QueryClass → Prop}

theorem Request.Reads.storesOnly {request : Request} (h : request.Reads) :
    request.StoresOnly P := fun _ stores => (h _ stores).elim

theorem storesOnly_of_reads {α : Type} {action : Action α} (h : Asks Request.Reads action) :
    Asks (Request.StoresOnly P) action := h.mono fun _ => Request.Reads.storesOnly

theorem storesOnly_call {call : Knowledge.Call} (stores : ∀ c, call = .upsertClass c → P c) :
    Asks (Request.StoresOnly P) (knowledge call) := by
  apply asks_ask
  intro c same
  exact stores c (Request.knowledge.inj same)

/-- Neither taking a lock nor giving it back stores a class. -/
theorem storesOnly_withLock {α : Type} {action : Action α}
    (h : Asks (Request.StoresOnly P) action) (hash : Int) (timeout : Value) :
    Asks (Request.StoresOnly P) (withLock hash timeout action) := by
  refine (storesOnly_call nofun).bind fun _ => (asks_ofResult _).bind fun _ => ?_
  refine h.attempt.bind fun _ => (storesOnly_call nofun).bind fun _ => ?_
  exact (asks_ofResult _).bind fun _ => asks_ofResult _

/-! ## Classifications -/

theorem storesOnly_registerUnderLock {policy : PlanningPolicy} (text : Option String)
    (own : P policy.queryClass) :
    Asks (Request.StoresOnly P) (registerUnderLock policy text) := by
  have record : Asks (Request.StoresOnly P) (recordAnyText policy.queryHash text) := by
    cases text with
    | none => exact asks_pure _
    | some text => exact (storesOnly_call nofun).bind fun _ => asks_ofResult _
  refine (storesOnly_call nofun).bind fun _ => (asks_ofResult _).bind fun found => ?_
  refine .ite ?_ record
  refine Asks.bind (storesOnly_call ?_) fun _ => (asks_ofResult _).bind fun _ => ?_
  · rintro c ⟨⟩
    exact own
  · exact (storesOnly_of_reads (reads_logClassification _)).bind fun _ => record

theorem storesOnly_registerClass {policy : PlanningPolicy} (text : Option String)
    (own : P policy.queryClass) : Asks (Request.StoresOnly P) (registerClass policy text) := by
  refine asks_get.bind fun s => ?_
  have locked := storesOnly_withLock (storesOnly_registerUnderLock text own) policy.queryHash
    s.settings.lockTimeout
  refine locked.attempt.bind fun r => ?_
  split
  · exact asks_pure _
  · exact (storesOnly_of_reads (reads_logClassification _)).bind fun _ => asks_pure _
  · exact asks_throw _

theorem storesOnly_lookUpPolicy {mode : Mode} {start : PlanningPolicy} (text : Option String)
    (own : P (.ofNew start.queryHash mode)) :
    Asks (Request.StoresOnly P) (lookUpPolicy mode start text) := by
  refine asks_get.bind fun s => (storesOnly_call nofun).bind fun reply => ?_
  have logged {α : Type} (entries : List Value) (value : α) : Asks (Request.StoresOnly P) (do
      logClassification entries
      return value) :=
    (storesOnly_of_reads (reads_logClassification _)).bind fun _ => asks_pure _
  split
  · exact logged _ _
  · exact asks_throw _
  rename_i stored
  refine Asks.bind ?_ fun _ => ?_
  · exact .ite ((storesOnly_of_reads (reads_logClassification _)).bind fun _ => asks_modify _)
      (asks_pure _)
  cases stored with
  | some c => exact asks_pure _
  | none =>
    refine .ite (Asks.bind ?_ fun _ => .ite (asks_pure _) (asks_pure _)) (asks_pure _)
    exact storesOnly_registerClass text own

theorem storesOnly_resolvePolicy {mode : Mode} {start : PlanningPolicy} (text : Option String)
    (own : P (.ofNew start.queryHash mode)) :
    Asks (Request.StoresOnly P) (resolvePolicy mode start text) := by
  have settles (settings : Settings) (found : PlanningPolicy × Bool) :
      Asks (Request.StoresOnly P) (settlePolicy settings found) :=
    (spares_settlePolicy _ _).mono fun _ spares => spares.reads.storesOnly
  rw [resolvePolicy_eq]
  refine asks_get.bind fun s => ?_
  dsimp only
  split
  · exact (asks_pure _).bind fun found => settles _ found
  · exact (storesOnly_lookUpPolicy text own).bind fun found => settles _ found

theorem storesOnly_classifyHash {mode : Mode} {hash : Int} (explained : Bool)
    (text : Option String) (own : P (.ofNew hash mode)) :
    Asks (Request.StoresOnly P) (classifyHash mode hash explained text) := by
  have logged {α : Type} (entries : List Value) (value : α) : Asks (Request.StoresOnly P) (do
      logClassification entries
      return value) :=
    (storesOnly_of_reads (reads_logClassification _)).bind fun _ => asks_pure _
  refine asks_get.bind fun s => .ite (logged _ _) (.ite (logged _ _) ?_)
  refine (storesOnly_of_reads (reads_logClassification _)).bind fun _ => ?_
  refine (asks_modify _).bind fun _ => Asks.bind ?_ fun _ => asks_pure _
  exact storesOnly_resolvePolicy text own

/-- **The classes that a classification stores** are as the mode of its session makes them. -/
theorem storesOnly_classify {query : Query} {s s' : Session} {t : List Asked}
    {result : Except Fault Classified} (run : Runs (classify query) s t result s') :
    ∀ x ∈ t, x.request.StoresOnly fun c =>
      ∃ mode, s.settings.resolvedMode = .ok mode ∧ c = .ofNew c.queryHash mode := by
  have guards {asked : List Asked} {r : Except Fault (Except SkipReason Admission)} {s₁ : Session}
      (run : Runs (admission query) s asked r s₁) (x : Asked) (member : x ∈ asked) :
      x.request.StoresOnly fun c =>
        ∃ mode, s.settings.resolvedMode = .ok mode ∧ c = .ofNew c.queryHash mode :=
    (asks_admission query run x member).reads.storesOnly
  cases Guarded.of_runs run with
  | failed fault failed => exact guards failed
  | stopped reason exchanges stopped spared =>
    rw [exchanges]
    refine List.forall_mem_append.mpr ⟨guards stopped, fun x member => ?_⟩
    exact (spared x member).reads.storesOnly
  | admitted a exchanges admitted goesOn =>
    rw [exchanges]
    obtain ⟨known, -⟩ := Admission.of_runs admitted
    refine List.forall_mem_append.mpr ⟨guards admitted, ?_⟩
    exact storesOnly_classifyHash a.explained query.text ⟨a.mode, known, rfl⟩ goesOn

/-! ## Registrations that succeed -/

/-- What succeeds under a lock has run on its own in between. -/
theorem runs_of_withLock {α : Type} {action : Action α} {hash : Int} {timeout : Value}
    {s s' : Session} {t : List Asked} {value : α}
    (run : Runs (withLock hash timeout action) s t (.ok value) s') :
    ∃ part ⊆ t, ∃ s₁, Runs action s part (.ok value) s₁ := by
  obtain ⟨_, rest, rfl, taking⟩ := runs_knowledge_bind.mp run
  obtain ⟨_, rfl, holding⟩ | ⟨_, -, -, failed, -⟩ := runs_ofResult_bind.mp taking
  swap
  · cases failed
  obtain ⟨part, _, r, s₁, rfl, locked, leaving⟩ := runs_attempt_bind.mp holding
  obtain ⟨_, _, rfl, returning⟩ := runs_knowledge_bind.mp leaving
  obtain ⟨_, rfl, left⟩ | ⟨_, -, -, failed, -⟩ := runs_ofResult_bind.mp returning
  swap
  · cases failed
  obtain ⟨-, rfl, -⟩ := runs_ofResult.mp left
  exact ⟨part, List.subset_cons_of_subset _ (List.subset_append_left _ _), s₁, locked⟩

/-- **A registration that succeeds** has found a class under its lock, or has stored its own. -/
theorem found_or_stored_of_registered {policy : PlanningPolicy} {text : Option String}
    {s s' : Session} {t : List Asked} (run : Runs (registerClass policy text) s t (.ok true) s') :
    (∃ c, ⟨.knowledge (.findClass policy.queryHash), .ok (some c)⟩ ∈ t) ∨
      ⟨.knowledge (.upsertClass policy.queryClass), .ok ()⟩ ∈ t := by
  rw [registerClass, runs_get_bind] at run
  obtain ⟨t₁, t₂, r, s₁, rfl, locked, last⟩ := runs_attempt_bind.mp run
  obtain rfl : r = .ok () := by
    split at last
    · rfl
    · obtain ⟨_, -, last⟩ := runs_logged_bind last
      cases (runs_pure.mp last).2.1
    · cases (runs_throw.mp last).2.1
  obtain ⟨part, within, s₂, under⟩ := runs_of_withLock locked
  have within : part ⊆ t₁ ++ t₂ := List.Subset.trans within (List.subset_append_left _ _)
  obtain ⟨reply, rest, rfl, looked⟩ := runs_knowledge_bind.mp under
  obtain ⟨found, rfl, known⟩ | ⟨_, -, -, failed, -⟩ := runs_ofResult_bind.mp looked
  swap
  · cases failed
  cases found with
  | some c => exact .inl ⟨c, within List.mem_cons_self⟩
  | none =>
    obtain ⟨reply, rest, rfl, storing⟩ := runs_knowledge_bind.mp known
    obtain ⟨_, rfl, -⟩ | ⟨_, -, -, failed, -⟩ := runs_ofResult_bind.mp storing
    swap
    · cases failed
    exact .inr (within (List.mem_cons_of_mem _ List.mem_cons_self))

end CardinalityAdvisor
