import CardinalityAdvisor.Proofs.Registration.Interleaving
import CardinalityAdvisor.Proofs.Session.Outages

/-!
# What exchanges do to a knowledge base

An action is run with a knowledge base that nobody else uses. Each call may be answered or fail, and
a call that fails may still have had its effect, as when a connection is lost after the server has
carried a statement out. What an action does to the knowledge base is found out part by part.

## Main definitions

* `Knowledge.Store.Handles store x store'`: what an exchange does to a store
* `Knowledge.Store.HandlesAll store t store'`: what some exchanges do, one after the other
* `Scene`: a session together with the knowledge base that it uses
* `Request.Reads`: a request changes nothing that is stored
* `Action.Affects R action`: an action leads from one store to another that `R` relates to it

## Main results

* `Knowledge.Store.HandlesAll.of_reads`: where everything is only read, nothing changes
* `Action.Affects.bind`, `Action.Affects.withLock`: the effects of sequences and under locks
-/

namespace CardinalityAdvisor

open CardinalityAdvisor.Action
open Knowledge (Store)

/-! ## Stores -/

/-- Whether a call only reads what is stored. -/
def Knowledge.Call.Reads : Knowledge.Call → Prop
  | .isInstalled | .findClass _ | .loadSample _ _ => True
  | _ => False

/-- A request to the knowledge base only reads what is stored. -/
def Request.Reads (request : Request) : Prop := ∀ call, request = .knowledge call → call.Reads

theorem Request.Spares.reads {request : Request} (h : request.Spares) : request.Reads := by
  rintro call same
  rw [h call same]
  trivial

namespace Knowledge.Store

/-- What an exchange does to a store. A call is answered, or it fails, with or without its effect.
All other requests do nothing. -/
inductive Handles (store : Store) : Asked → Store → Prop
  | answered (call : Call) :
      Handles store ⟨.knowledge call, (store.answer call).1⟩ (store.answer call).2
  | failed (call : Call) (fault : Fault) {store' : Store} :
      store' = store ∨ store' = (store.answer call).2 →
      Handles store ⟨.knowledge call, .error fault⟩ store'
  | other (x : Asked) : x.request.IsElsewhere → Handles store x store

/-- What some exchanges do to a store, one after the other. -/
abbrev HandlesAll : Store → List Asked → Store → Prop := InTurn Handles

/-- A call has its effect or none. -/
theorem Handles.effect {store store' : Store} {call : Call} {reply : Except Fault call.Reply}
    (h : store.Handles ⟨.knowledge call, reply⟩ store') :
    store' = store ∨ store' = (store.reply call).2 := by
  have answer : (store.answer call).2 = store ∨ (store.answer call).2 = (store.reply call).2 := by
    obtain same | ⟨-, fault, same⟩ := Shared.answer_cases store call
    · rw [same]
      exact .inr rfl
    · rw [same]
      exact .inl rfl
  generalize asked : (⟨.knowledge call, reply⟩ : Asked) = x at h
  cases h with
  | answered =>
    cases asked
    exact answer
  | failed _ _ changed =>
    cases asked
    rcases changed with rfl | rfl
    · exact .inl rfl
    · exact answer
  | other _ outside =>
    rw [← asked] at outside
    exact absurd rfl (outside call)

/-- A call that does not fail is answered by the store. -/
theorem Handles.answer_eq {store store' : Store} {call : Call} {value : call.Reply}
    (h : store.Handles ⟨.knowledge call, .ok value⟩ store') :
    store.reply call = (.ok value, store') := by
  generalize asked : (⟨.knowledge call, .ok value⟩ : Asked) = x at h
  cases h with
  | failed => cases asked
  | other _ outside =>
    rw [← asked] at outside
    exact absurd rfl (outside call)
  | answered other =>
    obtain same | ⟨-, fault, same⟩ := Shared.answer_cases store other
    · rw [same] at asked ⊢
      obtain ⟨request, proper⟩ := Exchange.mk.inj asked
      cases request
      exact Prod.ext (eq_of_heq proper).symm rfl
    · rw [same] at asked
      cases asked

/-- **What is only read** stays as it is. -/
theorem Handles.of_reads {store store' : Store} {x : Asked} (h : store.Handles x store')
    (reads : x.request.Reads) : store' = store := by
  obtain ⟨request, reply⟩ := x
  cases request with
  | knowledge call =>
    have kept : (store.reply call).2 = store := by
      have reading : call.Reads := reads call rfl
      cases call with
      | isInstalled | findClass | loadSample => rfl
      | upsertClass | recordText | storeSample | lockClass | unlockClass => exact reading.elim
    obtain same | same := h.effect
    · exact same
    · rw [same, kept]
  | _ =>
    cases h with
    | other => rfl

theorem HandlesAll.of_reads {store store' : Store} {t : List Asked} (h : store.HandlesAll t store')
    (reads : ∀ x ∈ t, x.request.Reads) : store' = store := by
  induction t generalizing store with
  | nil => exact h
  | cons x rest ih =>
    obtain ⟨store₁, first, later⟩ := h
    obtain ⟨here, others⟩ := List.forall_mem_cons.mp reads
    obtain rfl := first.of_reads here
    exact ih later others

/-- Surroundings with a store that answers all calls. All other requests always get the same
replies. -/
def surroundings (others : (request : Request) → request.Reply) :
    (request : Request) → Store → request.Reply × Store
  | .knowledge call, store => store.answer call
  | request, store => (others request, store)

theorem HandlesAll.of_answers {others : (request : Request) → request.Reply}
    {store store' : Store} {t : List Asked}
    (h : Answers (surroundings others) store t store') : store.HandlesAll t store' := by
  refine h.inTurn fun store request => ?_
  cases request with
  | knowledge call => exact .answered call
  | _ => exact .other _ nofun

end Knowledge.Store

/-- A session together with the knowledge base that it uses. -/
structure Scene where
  session : Session
  store : Store

/-! ## Effects of actions -/

namespace Action

variable {α β : Type} {R : Store → Store → Prop}

/-- Every run of an action, with a store that handles its exchanges, leads from the store to one
that is related to it. -/
def Affects (R : Store → Store → Prop) (action : Action α) : Prop :=
  ∀ ⦃s t result s' store store'⦄, Runs action s t result s' → Store.HandlesAll store t store' →
    R store store'

theorem Affects.ite {c : Prop} [Decidable c] {a b : Action α} (ha : Affects R a)
    (hb : Affects R b) : Affects R (if c then a else b) := by
  split
  · exact ha
  · exact hb

theorem Affects.attempt {action : Action α} (h : Affects R action) :
    Affects R (attempt action) := by
  intro s t result s' store store' run handled
  obtain ⟨_, -, tried⟩ := runs_attempt.mp run
  exact h tried handled

/-- A call has the effect of its exchange. -/
theorem affects_call {call : Knowledge.Call}
    (h : ∀ ⦃reply store store'⦄, Store.Handles store ⟨.knowledge call, reply⟩ store' →
      R store store') : Affects R (do ofResult (← knowledge call)) := by
  intro s t result s' store store' run handled
  obtain ⟨reply, rest, rfl, last⟩ := runs_knowledge_bind.mp run
  obtain ⟨rfl, -, rfl⟩ := runs_ofResult.mp last
  obtain ⟨_, asked, rfl⟩ := handled
  exact h asked

/-- What only reads has no effect. -/
theorem affects_of_reads [Std.Refl R] {action : Action α} (h : Asks Request.Reads action) :
    Affects R action := by
  intro s t result s' store store' run handled
  obtain rfl := handled.of_reads (h run)
  exact refl_of R store'

/-- **The effect of a sequence** is the effect of its parts, one after the other. -/
theorem Affects.bind [IsTrans Store R] {action : Action α} {f : α → Action β}
    (h : Affects R action) (hf : ∀ value, Affects R (f value)) : Affects R (action >>= f) := by
  intro s t result s' store store' run handled
  obtain ⟨t₁, t₂, value, s₁, rfl, first, later⟩ | ⟨_, -, failed⟩ := runs_bind.mp run
  · obtain ⟨store₁, here, there⟩ := inTurn_append.mp handled
    exact trans_of R (h first here) (hf value later there)
  · exact h failed handled

/-- An action under a lock has its own effect, if locks do not count. -/
theorem Affects.withLock [Std.Refl R] [IsTrans Store R] {action : Action α} (h : Affects R action)
    (unlocked : ∀ store locked, R store { store with locked }) (queryHash : Int)
    (timeout : Value) : Affects R (withLock queryHash timeout action) := by
  have taken : Affects R (do ofResult (← knowledge (.lockClass queryHash timeout))) := by
    apply affects_call
    intro reply store store' handled
    obtain rfl | rfl := handled.effect
    · exact refl_of R _
    · obtain ⟨fault, same⟩ | ⟨-, same⟩ := Shared.lockClass_cases store queryHash timeout
      · simp only [Store.reply, same]
        exact refl_of R _
      · simp only [Store.reply, same]
        exact unlocked store _
  have given : Affects R (do ofResult (← knowledge (.unlockClass queryHash))) := by
    apply affects_call
    intro reply store store' handled
    obtain rfl | rfl := handled.effect
    · exact refl_of R _
    · exact unlocked store _
  refine taken.bind fun _ => h.attempt.bind fun r => given.bind fun _ => ?_
  exact affects_of_reads (asks_ofResult r)

/-- Actions always run, with a store that answers all calls. -/
theorem exists_handled (others : (request : Request) → request.Reply) (action : Action α)
    (s : Session) (store : Store) :
    ∃ t, Runs action s t ((action.run.run s).run (Store.surroundings others) store).1.1
        ((action.run.run s).run (Store.surroundings others) store).1.2 ∧
      store.HandlesAll t ((action.run.run s).run (Store.surroundings others) store).2 := by
  obtain ⟨t, run, answers⟩ := Program.run_eq_iff.mp
    (Eq.refl ((action.run.run s).run (Store.surroundings others) store))
  exact ⟨t, run, .of_answers answers⟩

end Action

end CardinalityAdvisor
