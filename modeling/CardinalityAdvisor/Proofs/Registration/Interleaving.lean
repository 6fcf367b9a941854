import CardinalityAdvisor.Knowledge.Store
import CardinalityAdvisor.Proofs.Registration.LockDiscipline
import Mathlib.Logic.Function.Basic

/-!
# Sessions that share a knowledge base

Any number of sessions classify queries against one knowledge base, each with its own settings, and
take turns in any order. At each turn one session makes one request and gets its reply. A call to
the knowledge base is answered at once, and any call but giving a lock back may fail without having
had an effect: a session may time out, also where the lock is free, and it may fail under the lock.

## Main definitions

* `System`: the knowledge base with the sessions
* `Step σ e σ'`, `Run σ events σ'`: one turn and a run, its events with the latest one first
* `locksOf events i`, `writers hash events`: the locks that a session is between taking and giving
  back, and the sessions that have stored a class
* `Effect store phase x phase' store'`: what an exchange does that the lock discipline permits

## Main results

* `Effect.of_serves`: every exchange that is permitted and served has such an effect
-/

namespace CardinalityAdvisor.Shared

open Knowledge (Store)

variable {ι : Type}

/-! ## Systems -/

/-- A session at rest, or what is left to do of a classification. -/
inductive Client where
  | resting (session : Session)
  | classifying (rest : Program Request.Reply (Except Fault Classified × Session))

/-- A knowledge base with the sessions that share it. -/
structure System (ι : Type) where
  store : Store
  clients : ι → Client

/-- What happens at one turn. -/
inductive Event (ι : Type) where
  | begins (i : ι) (query : Query)
  | asks (i : ι) (x : Asked)
  | ends (i : ι) (result : Except Fault Classified)
  /-- Something happens that is no part of a classification. -/
  | elsewhere

/-- A store replies to a call, or the call fails without an effect. A lock is always given back. All
other requests get any reply. -/
inductive Serves (store : Store) : Asked → Store → Prop
  | answered (call : Knowledge.Call) :
      Serves store ⟨.knowledge call, (store.answer call).1⟩ (store.answer call).2
  | failed (call : Knowledge.Call) (fault : Fault) : (∀ hash, call ≠ .unlockClass hash) →
      Serves store ⟨.knowledge call, .error fault⟩ store
  | other (x : Asked) : (∀ call, x.request ≠ .knowledge call) → Serves store x store

/-- Classes, texts and locks are the same. -/
structure SameRegistry (store store' : Store) : Prop where
  classes : store'.classes = store.classes
  texts : store'.texts = store.texts
  locked : store'.locked = store.locked

/-- What a session at rest does is no part of a classification, nor are samples. -/
structure Elsewhere (σ σ' : System ι) : Prop where
  registry : SameRegistry σ.store σ'.store
  clients : ∀ i, σ'.clients i = σ.clients i ∨
    ∃ s s', σ.clients i = .resting s ∧ σ'.clients i = .resting s'

/-- No classification is in progress. -/
def System.AtRest (σ : System ι) : Prop := ∀ i, ∃ s, σ.clients i = .resting s

/-- Whether a session is at rest. -/
def Client.isResting : Client → Bool
  | .resting _ => true
  | .classifying _ => false

theorem System.AtRest.of_isResting {σ : System ι} (h : ∀ i, (σ.clients i).isResting = true) :
    σ.AtRest := by
  intro i
  have resting := h i
  cases client : σ.clients i with
  | resting s => exact ⟨s, rfl⟩
  | classifying rest =>
    rw [client] at resting
    cases resting

section

variable [DecidableEq ι]

/-- The system after a session went on. -/
def System.goOn (σ : System ι) (store : Store) (i : ι) (client : Client) : System ι :=
  ⟨store, Function.update σ.clients i client⟩

/-- One turn of a session. -/
inductive Step (σ : System ι) : Event ι → System ι → Prop
  | begins {i : ι} {s : Session} (query : Query) : σ.clients i = .resting s →
      Step σ (.begins i query) (σ.goOn σ.store i (.classifying ((classify query).run.run s)))
  | asks {i : ι} {request : Request} {reply : request.Reply} {store : Store}
      {next : request.Reply → Program Request.Reply (Except Fault Classified × Session)} :
      σ.clients i = .classifying (.ask request next) → Serves σ.store ⟨request, reply⟩ store →
      Step σ (.asks i ⟨request, reply⟩) (σ.goOn store i (.classifying (next reply)))
  | ends {i : ι} {result : Except Fault Classified} {s : Session} :
      σ.clients i = .classifying (.done (result, s)) →
      Step σ (.ends i result) (σ.goOn σ.store i (.resting s))
  | elsewhere {σ' : System ι} : Elsewhere σ σ' → Step σ .elsewhere σ'

/-- A run of a system with its events, the latest one first. -/
inductive Run (σ : System ι) : List (Event ι) → System ι → Prop
  | start : Run σ [] σ
  | step {events : List (Event ι)} {e : Event ι} {σ₁ σ' : System ι} : Run σ events σ₁ →
      Step σ₁ e σ' → Run σ (e :: events) σ'

end

/-! ## What the events tell -/

/-- The locks that a session holds after an exchange. -/
def locksAfter (locks : List Int) : Asked → List Int
  | ⟨.knowledge (.lockClass hash _), .ok ()⟩ => hash :: locks
  | ⟨.knowledge (.unlockClass hash), _⟩ => locks.erase hash
  | _ => locks

/-- The hash of the class that an exchange stored. -/
def stored? : Asked → Option Int
  | ⟨.knowledge (.upsertClass c), .ok ()⟩ => some c.queryHash
  | _ => none

/-- The sessions that have stored a class with a hash, one for each time. -/
def writers (hash : Int) : List (Event ι) → List ι
  | [] => []
  | .asks i x :: earlier =>
    if stored? x = some hash then i :: writers hash earlier else writers hash earlier
  | _ :: earlier => writers hash earlier

section

variable [DecidableEq ι]

/-- The locks that each session has taken and has not given back. -/
def locksOf : List (Event ι) → ι → List Int
  | [] => fun _ => []
  | .asks i x :: earlier => Function.update (locksOf earlier) i (locksAfter (locksOf earlier i) x)
  | _ :: earlier => locksOf earlier

/-- The phase of each session under the lock discipline. -/
def phases : List (Event ι) → ι → LockPhase
  | [] => fun _ => .free
  | .asks i x :: earlier =>
    Function.update (phases earlier) i (lockDiscipline.after (phases earlier i) x)
  | _ :: earlier => phases earlier

end

/-! ## Exchanges -/

/-- An exchange that neither takes a lock nor gives one back, and stores no class. -/
structure Neutral (x : Asked) : Prop where
  locks : ∀ locks, locksAfter locks x = locks
  stored : stored? x = none

/-- What an exchange does that the lock discipline permits. -/
inductive Effect (store : Store) : LockPhase → Asked → LockPhase → Store → Prop
  | neutral {phase : LockPhase} {x : Asked} : Neutral x → Effect store phase x phase store
  | missing {hash : Int} {absent : Bool} {x : Asked} : Neutral x →
      store.classes.lookup hash = none →
      Effect store (.held hash absent) x (.held hash true) store
  | locked {hash : Int} {timeout : Value} : hash ∉ store.locked →
      Effect store .free ⟨.knowledge (.lockClass hash timeout), .ok ()⟩ (.held hash false)
        { store with locked := hash :: store.locked }
  | wrote {c : QueryClass} :
      Effect store (.held c.queryHash true) ⟨.knowledge (.upsertClass c), .ok ()⟩
        (.held c.queryHash false) (store.putClass c)
  | recorded {hash : Int} {absent : Bool} {text : String} {x : Asked} : Neutral x →
      Effect store (.held hash absent) x (.held hash absent) (store.recordText hash text)
  | unlocked {hash : Int} {absent : Bool} :
      Effect store (.held hash absent) ⟨.knowledge (.unlockClass hash), .ok ()⟩ .free
        (store.unlockClass hash)

/-- A store that is set up, or a call that does not need that, gets a proper reply. All other calls
fail without an effect. -/
theorem answer_cases (store : Store) (call : Knowledge.Call) :
    store.answer call = store.reply call ∨
      (∀ hash, call ≠ .unlockClass hash) ∧ ∃ fault, store.answer call = (.error fault, store) := by
  unfold Store.answer
  split
  · rename_i refused
    refine .inr ⟨?_, _, rfl⟩
    rintro hash rfl
    cases refused
  · exact .inl rfl

/-- A lock is given if nobody holds it, else the call fails. -/
theorem lockClass_cases (store : Store) (hash : Int) (timeout : Value) :
    (∃ fault, store.lockClass hash timeout = .error fault) ∨
      hash ∉ store.locked ∧
        store.lockClass hash timeout = .ok { store with locked := hash :: store.locked } := by
  unfold Store.lockClass
  cases Knowledge.checkTimeout timeout with
  | error fault => exact .inl ⟨fault, rfl⟩
  | ok _ =>
    by_cases held : hash ∈ store.locked
    · exact .inl ⟨_, if_pos (List.contains_iff_mem.mpr held)⟩
    · refine .inr ⟨held, if_neg ?_⟩
      rwa [List.contains_iff_mem]

/-- A call that fails tells nothing, whatever phase it is made in. -/
theorem Effect.failed {store : Store} {phase : LockPhase} {call : Knowledge.Call} (fault : Fault)
    (kept : ∀ hash, call ≠ .unlockClass hash) :
    Effect store phase ⟨.knowledge call, .error fault⟩
      (lockDiscipline.after phase ⟨.knowledge call, .error fault⟩) store := by
  cases call with
  | unlockClass hash => exact absurd rfl (kept hash)
  | _ => cases phase <;> exact .neutral ⟨fun _ => rfl, rfl⟩

/-- A proper reply to a call that the discipline permits. -/
theorem Effect.of_reply {store : Store} {phase : LockPhase} {call : Knowledge.Call}
    (permitted : phase.Permits call) :
    Effect store phase ⟨.knowledge call, (store.reply call).1⟩
      (lockDiscipline.after phase ⟨.knowledge call, (store.reply call).1⟩)
      (store.reply call).2 := by
  cases phase with
  | free =>
    cases call with
    | isInstalled | findClass | loadSample => exact .neutral ⟨fun _ => rfl, rfl⟩
    | lockClass hash timeout =>
      obtain ⟨fault, same⟩ | ⟨available, same⟩ := lockClass_cases store hash timeout
      · simp only [Store.reply, same]
        exact .neutral ⟨fun _ => rfl, rfl⟩
      · simp only [Store.reply, same]
        exact .locked available
    | _ => exact permitted.elim
  | held hash absent =>
    cases call with
    | isInstalled => exact .neutral ⟨fun _ => rfl, rfl⟩
    | findClass other =>
      obtain rfl : other = hash := permitted
      cases found : store.classes.lookup other with
      | none =>
        simp only [Store.reply, found]
        exact .missing ⟨fun _ => rfl, rfl⟩ found
      | some c =>
        simp only [Store.reply, found]
        exact .neutral ⟨fun _ => rfl, rfl⟩
    | upsertClass c =>
      obtain ⟨rfl, rfl⟩ := permitted
      exact .wrote
    | recordText other text =>
      obtain rfl : other = hash := permitted
      exact .recorded ⟨fun _ => rfl, rfl⟩
    | unlockClass other =>
      obtain rfl : other = hash := permitted
      exact .unlocked
    | _ => exact permitted.elim

/-- **Every exchange** that the discipline permits has one of these effects. -/
theorem Effect.of_serves {store store' : Store} {phase : LockPhase} {x : Asked}
    (permitted : lockDiscipline.Permits phase x.request) (serves : Serves store x store') :
    Effect store phase x (lockDiscipline.after phase x) store' := by
  cases serves with
  | other x outside =>
    obtain ⟨request, reply⟩ := x
    cases request with
    | knowledge call => exact absurd rfl (outside call)
    | _ => exact .neutral ⟨fun _ => rfl, rfl⟩
  | failed call fault kept => exact .failed fault kept
  | answered call =>
    obtain same | ⟨kept, fault, same⟩ := answer_cases store call
    · rw [same]
      exact .of_reply permitted
    · rw [same]
      exact .failed fault kept

end CardinalityAdvisor.Shared
