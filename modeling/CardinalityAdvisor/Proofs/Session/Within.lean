import CardinalityAdvisor.Proofs.Session.Runs
import Mathlib.Order.Defs.Unbundled

/-!
# What actions can do and give

An action stays within a relation of sessions if every one of its runs, failed or not, leads from
a session to a related one. For a preorder this is found out part by part. What an action gives is
found out from its last parts.

## Main definitions

* `Action.Within R action`: every run of the action leads to a session that `R` relates
* `Action.Gives P action`: every value that the action gives has the property `P`
* `Action.Asks P action`: every request that the action asks has the property `P`

## Main results

* `Action.Within.bind`: a sequence stays within a preorder if both parts do
* `Action.Within.withLock`: so does an action under a lock
-/

namespace CardinalityAdvisor.Action

variable {α β : Type} {R : Session → Session → Prop}

/-- Every run of an action leads from a session to one that is related to it. -/
def Within (R : Session → Session → Prop) (action : Action α) : Prop :=
  ∀ ⦃s t result s'⦄, Runs action s t result s' → R s s'

/-- An action that leaves the session as it is. -/
abbrev LeavesSession (action : Action α) : Prop := Within Eq action

theorem Within.mono {R' : Session → Session → Prop} {action : Action α} (h : Within R action)
    (hR : ∀ ⦃s s'⦄, R s s' → R' s s') : Within R' action := fun _ _ _ _ run => hR (h run)

section Reflexive

variable [Std.Refl R]

theorem within_of_leavesSession {action : Action α} (h : LeavesSession action) :
    Within R action := by
  intro s t result s' run
  rw [← h run]
  exact refl_of R s

theorem within_pure (value : α) : Within R (pure value : Action α) :=
  within_of_leavesSession fun _ _ _ _ run => (runs_pure.mp run).2.2.symm

theorem within_throw (fault : Fault) : Within R (throw fault : Action α) :=
  within_of_leavesSession fun _ _ _ _ run => (runs_throw.mp run).2.2.symm

theorem within_get : Within R (get : Action Session) :=
  within_of_leavesSession fun s _ _ _ run => (runs_pure (s := s).mp run).2.2.symm

theorem within_ask (request : Request) : Within R (ask request) := by
  apply within_of_leavesSession
  intro s t result s' run
  obtain ⟨_, _, _, rfl⟩ := runs_ask.mp run
  rfl

theorem within_knowledge (call : Knowledge.Call) : Within R (knowledge call) := within_ask _

theorem within_ofResult (r : Except Fault α) : Within R (ofResult r : Action α) :=
  within_of_leavesSession fun _ _ _ _ run => (runs_ofResult.mp run).2.2.symm

theorem within_ofTree (r : TreeResult α) : Within R (ofTree r) := within_ofResult _

theorem within_logIf (enabled : Bool) (component : String) (entries : List Value) :
    Within R (logIf enabled component entries) := by
  unfold logIf
  split
  · exact within_ask _
  · exact within_pure _

end Reflexive

theorem within_modify {change : Session → Session} (h : ∀ s, R s (change s)) :
    Within R (modify change : Action PUnit) := by
  intro s t result s' run
  obtain ⟨_, _, rfl⟩ := runs_modify.mp run
  exact h s

theorem Within.attempt {action : Action α} (h : Within R action) : Within R (attempt action) := by
  intro s t result s' run
  obtain ⟨_, _, run⟩ := runs_attempt.mp run
  exact h run

theorem Within.ite {c : Prop} [Decidable c] {a b : Action α} (ha : Within R a) (hb : Within R b) :
    Within R (if c then a else b) := by
  split
  · exact ha
  · exact hb

section Transitive

variable [IsTrans Session R]

/-- **A sequence of actions** stays within a preorder if both of its parts do. -/
theorem Within.bind {action : Action α} {f : α → Action β} (h : Within R action)
    (hf : ∀ value, Within R (f value)) : Within R (action >>= f) := by
  intro s t result s' run
  obtain ⟨_, _, value, s₁, _, run₁, run₂⟩ | ⟨_, _, run₁⟩ := runs_bind.mp run
  · exact trans_of R (h run₁) (hf value run₂)
  · exact h run₁

theorem Within.withLock [Std.Refl R] {action : Action α} (h : Within R action) (queryHash : Int)
    (timeout : Value) : Within R (withLock queryHash timeout action) :=
  ((within_knowledge _).bind fun _ => within_ofResult _).bind fun _ =>
    h.attempt.bind fun _ => ((within_knowledge _).bind fun _ => within_ofResult _).bind fun _ =>
      within_ofResult _

end Transitive

/-! ## Values -/

/-- Every run of an action that does not fail gives a value with a property. -/
def Gives (P : α → Prop) (action : Action α) : Prop :=
  ∀ ⦃s t value s'⦄, Runs action s t (.ok value) s' → P value

variable {P : α → Prop}

theorem gives_pure {value : α} (h : P value) : Gives P (pure value : Action α) := by
  intro s t value' s' run
  obtain ⟨-, same, -⟩ := runs_pure.mp run
  cases same
  exact h

theorem gives_throw (fault : Fault) : Gives P (throw fault : Action α) := by
  intro s t value s' run
  obtain ⟨-, same, -⟩ := runs_throw.mp run
  cases same

theorem Gives.ite {c : Prop} [Decidable c] {a b : Action α} (ha : Gives P a) (hb : Gives P b) :
    Gives P (if c then a else b) := by
  split
  · exact ha
  · exact hb

/-- A sequence of actions gives what its second part gives. -/
theorem Gives.bind {β : Type} {action : Action β} {f : β → Action α}
    (hf : ∀ value, Gives P (f value)) : Gives P (action >>= f) := by
  intro s t value s' run
  obtain ⟨_, _, found, _, _, _, run⟩ | ⟨_, same, _⟩ := runs_bind.mp run
  · exact hf found run
  · cases same

/-! ## Requests -/

/-- Every request that an action asks has a property, however the action ends. -/
def Asks (P : Request → Prop) (action : Action α) : Prop :=
  ∀ ⦃s t result s'⦄, Runs action s t result s' → ∀ x ∈ t, P x.request

section

variable {P : Request → Prop}

theorem Asks.mono {Q : Request → Prop} {action : Action α} (h : Asks P action)
    (weaker : ∀ ⦃request⦄, P request → Q request) : Asks Q action :=
  fun _ _ _ _ run x member => weaker (h run x member)

theorem asks_pure (value : α) : Asks P (pure value : Action α) := by
  intro s t result s' run
  rw [(runs_pure.mp run).1]
  simp

theorem asks_throw (fault : Fault) : Asks P (throw fault : Action α) := by
  intro s t result s' run
  rw [(runs_throw.mp run).1]
  simp

theorem asks_get : Asks P (get : Action Session) := by
  intro s t result s' run
  rw [(runs_pure (s := s).mp run).1]
  simp

theorem asks_set (new : Session) : Asks P (set new : Action PUnit) := by
  intro s t result s' run
  rw [(runs_pure (s := new).mp run).1]
  simp

theorem asks_modify (change : Session → Session) : Asks P (modify change : Action PUnit) := by
  intro s t result s' run
  rw [(runs_modify.mp run).1]
  simp

theorem asks_ask {request : Request} (h : P request) : Asks P (ask request) := by
  intro s t result s' run
  obtain ⟨reply, rfl, -⟩ := runs_ask.mp run
  simpa using h

theorem asks_ofResult (r : Except Fault α) : Asks P (ofResult r : Action α) := by
  intro s t result s' run
  rw [(runs_ofResult.mp run).1]
  simp

theorem asks_ofTree (r : TreeResult α) : Asks P (ofTree r) := asks_ofResult _

theorem Asks.attempt {action : Action α} (h : Asks P action) : Asks P (attempt action) := by
  intro s t result s' run
  obtain ⟨_, -, run⟩ := runs_attempt.mp run
  exact h run

theorem Asks.ite {c : Prop} [Decidable c] {a b : Action α} (ha : Asks P a) (hb : Asks P b) :
    Asks P (if c then a else b) := by
  split
  · exact ha
  · exact hb

/-- A sequence of actions asks what its parts ask. -/
theorem Asks.bind {β : Type} {action : Action α} {f : α → Action β} (h : Asks P action)
    (hf : ∀ value, Asks P (f value)) : Asks P (action >>= f) := by
  intro s t result s' run
  obtain ⟨_, _, value, _, rfl, first, second⟩ | ⟨_, _, failed⟩ := runs_bind.mp run
  · intro x member
    rcases List.mem_append.mp member with member | member
    · exact h first x member
    · exact hf value second x member
  · exact h failed

end

end CardinalityAdvisor.Action
