import CardinalityAdvisor.Proofs.Session.Runs

/-!
# How actions fail

An action may fail by itself, or because a reply is a failure. What is known about the replies says
with which faults the action can end.

## Main definitions

* `Action.FailsWith A P action`: with replies that have the property `A`, every fault of the action
  has the property `P`

## Main results

* `Action.FailsWith.bind`: a sequence fails as its parts do
* `Action.failsWith_ask_bind`: what comes after a request fails as far as its reply allows
-/

namespace CardinalityAdvisor.Action

variable {α β : Type} {A : Asked → Prop} {P : Fault → Prop}

/-- Every run of an action whose exchanges have one property fails with faults that have the other
one, if it fails. -/
def FailsWith (A : Asked → Prop) (P : Fault → Prop) (action : Action α) : Prop :=
  ∀ ⦃s t fault s'⦄, Runs action s t (.error fault) s' → (∀ x ∈ t, A x) → P fault

theorem failsWith_pure (value : α) : FailsWith A P (pure value : Action α) := by
  intro s t fault s' run
  obtain ⟨-, same, -⟩ := runs_pure.mp run
  cases same

theorem failsWith_throw {fault : Fault} (h : P fault) :
    FailsWith A P (throw fault : Action α) := by
  intro s t fault s' run
  obtain ⟨-, same, -⟩ := runs_throw.mp run
  cases same
  exact fun _ => h

theorem failsWith_get : FailsWith A P (get : Action Session) := by
  intro s t fault s' run
  obtain ⟨-, same, -⟩ := runs_pure (s := s).mp run
  cases same

theorem failsWith_modify (change : Session → Session) :
    FailsWith A P (modify change : Action PUnit) := by
  intro s t fault s' run
  obtain ⟨-, same, -⟩ := runs_modify.mp run
  cases same

theorem failsWith_ask (request : Request) : FailsWith A P (ask request) := by
  intro s t fault s' run
  obtain ⟨_, -, same, -⟩ := runs_ask.mp run
  cases same

theorem failsWith_logIf (enabled : Bool) (component : String) (entries : List Value) :
    FailsWith A P (logIf enabled component entries) := by
  unfold logIf
  split
  · exact failsWith_ask _
  · exact failsWith_pure _

theorem failsWith_ofResult {r : Except Fault α} (h : ∀ fault, r = .error fault → P fault) :
    FailsWith A P (ofResult r : Action α) := by
  intro s t fault s' run
  obtain ⟨-, same, -⟩ := runs_ofResult.mp run
  exact fun _ => h fault same.symm

theorem FailsWith.ite {c : Prop} [Decidable c] {a b : Action α} (ha : FailsWith A P a)
    (hb : FailsWith A P b) : FailsWith A P (if c then a else b) := by
  split
  · exact ha
  · exact hb

/-- **A sequence of actions** fails as one of its parts. -/
theorem FailsWith.bind {action : Action α} {f : α → Action β} (h : FailsWith A P action)
    (hf : ∀ value, FailsWith A P (f value)) : FailsWith A P (action >>= f) := by
  intro s t fault s' run replies
  obtain ⟨t₁, t₂, value, _, rfl, -, rest⟩ | ⟨_, same, failed⟩ := runs_bind.mp run
  · exact hf value rest fun x member => replies x (List.mem_append_right _ member)
  · cases same
    exact h failed replies

/-- What comes after a request may rely on its reply. -/
theorem failsWith_ask_bind {request : Request} {f : request.Reply → Action β}
    (hf : ∀ reply, A ⟨request, reply⟩ → FailsWith A P (f reply)) :
    FailsWith A P (ask request >>= f) := by
  intro s t fault s' run replies
  obtain ⟨reply, rest, rfl, goesOn⟩ := runs_ask_bind.mp run
  obtain ⟨first, later⟩ := List.forall_mem_cons.mp replies
  exact hf reply first goesOn later

theorem failsWith_knowledge_bind {call : Knowledge.Call}
    {f : Except Fault call.Reply → Action β}
    (hf : ∀ reply, A ⟨.knowledge call, reply⟩ → FailsWith A P (f reply)) :
    FailsWith A P (knowledge call >>= f) := failsWith_ask_bind hf

/-- A call whose failure is not caught fails as the call does. -/
theorem failsWith_call (call : Knowledge.Call)
    (told : ∀ fault, A ⟨.knowledge call, .error fault⟩ → P fault) :
    FailsWith A P (do ofResult (← knowledge call)) := by
  refine failsWith_knowledge_bind fun reply answered => failsWith_ofResult ?_
  rintro fault rfl
  exact told fault answered

/-- What comes after an attempt may rely on how the attempt failed. -/
theorem failsWith_attempt_bind {Q : Fault → Prop} {action : Action α}
    {f : Except Fault α → Action β} (h : FailsWith A Q action)
    (hf : ∀ r, (∀ fault, r = .error fault → Q fault) → FailsWith A P (f r)) :
    FailsWith A P (attempt action >>= f) := by
  intro s t fault s' run replies
  obtain ⟨t₁, t₂, r, _, rfl, tried, rest⟩ := runs_attempt_bind.mp run
  refine hf r ?_ rest fun x member => replies x (List.mem_append_right _ member)
  rintro fault rfl
  exact h tried fun x member => replies x (List.mem_append_left _ member)

/-- **An action under a lock** fails as the action does, or because the lock is not granted, or
because it cannot be given back. -/
theorem FailsWith.withLock {action : Action α} {queryHash : Int} {timeout : Value}
    (h : FailsWith A P action)
    (granted : ∀ fault, A ⟨.knowledge (.lockClass queryHash timeout), .error fault⟩ → P fault)
    (givenBack : ∀ fault, A ⟨.knowledge (.unlockClass queryHash), .error fault⟩ → P fault) :
    FailsWith A P (withLock queryHash timeout action) := by
  refine (failsWith_call _ granted).bind fun _ => failsWith_attempt_bind h fun r failed => ?_
  exact (failsWith_call _ givenBack).bind fun _ => failsWith_ofResult failed

/-- An action that fails with nothing gives a value. -/
theorem FailsWith.exists_ok {action : Action α} (h : FailsWith A (fun _ => False) action)
    {s s' : Session} {t : List Asked} {result : Except Fault α} (run : Runs action s t result s')
    (replies : ∀ x ∈ t, A x) : ∃ value, result = .ok value := by
  cases result with
  | ok value => exact ⟨value, rfl⟩
  | error fault => exact (h run replies).elim

end CardinalityAdvisor.Action
