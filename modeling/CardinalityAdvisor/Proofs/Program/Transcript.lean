import CardinalityAdvisor.Program

/-!
# Transcripts of programs

A transcript lists what a program asked and which replies it got, in order. Surroundings are
known to a program only by their replies, so what holds of every transcript holds in all
surroundings.

## Main definitions

* `Exchange`: a request with its reply
* `InTurn step s t s'`: exchanges lead from one state to another, one after the other
* `Program.Transcript p t value`: with the exchanges `t`, the program `p` computes `value`
* `Answers answer s t s'`: surroundings give the replies of `t`, going from `s` to `s'`

## Main results

* `inTurn_append`: where a list leads, its parts lead one after the other
* `Program.transcript_bind`: the transcripts of a sequence are those of its parts, put together
* `Program.Transcript.unique`: the replies determine a transcript and the value
* `Program.run_eq_iff`: a program runs as one of its transcripts that its surroundings answer
-/

namespace CardinalityAdvisor

variable {Request : Type} {Reply : Request → Type} {α β σ : Type}

/-- A request with its reply. -/
structure Exchange (Reply : Request → Type) where
  request : Request
  reply : Reply request

/-- Surroundings in the state `s` give the replies of some exchanges, one after the other, and are
in the state `s'` after that. -/
def Answers (answer : (request : Request) → σ → Reply request × σ) :
    σ → List (Exchange Reply) → σ → Prop
  | s, [], s' => s = s'
  | s, x :: t, s' =>
    x.reply = (answer x.request s).1 ∧ Answers answer (answer x.request s).2 t s'

/-! ## One after the other -/

section InTurn

variable {ι : Type} {step step' : σ → ι → σ → Prop} {s s' : σ} {t rest : List ι}

/-- The members of a list lead from one state to another, one after the other. Where one of them
leads is what `step` says. -/
def InTurn (step : σ → ι → σ → Prop) : σ → List ι → σ → Prop
  | s, [], s' => s' = s
  | s, x :: rest, s' => ∃ s₁, step s x s₁ ∧ InTurn step s₁ rest s'

/-- **Where a list leads**, its parts lead one after the other. -/
theorem inTurn_append :
    InTurn step s (t ++ rest) s' ↔ ∃ s₁, InTurn step s t s₁ ∧ InTurn step s₁ rest s' := by
  induction t generalizing s with
  | nil => simp [InTurn]
  | cons x t ih =>
    simp only [List.cons_append, InTurn, ih]
    constructor
    · rintro ⟨s₂, first, s₁, between, later⟩
      exact ⟨s₁, ⟨s₂, first, between⟩, later⟩
    · rintro ⟨s₁, ⟨s₂, first, between⟩, later⟩
      exact ⟨s₂, first, s₁, between, later⟩

theorem InTurn.mono (h : InTurn step s t s') (weaker : ∀ ⦃s x s'⦄, step s x s' → step' s x s') :
    InTurn step' s t s' := by
  induction t generalizing s with
  | nil => exact h
  | cons x rest ih =>
    obtain ⟨s₁, first, later⟩ := h
    exact ⟨s₁, weaker first, ih later⟩

/-- What surroundings answer in turn leads where each of their answers leads. -/
theorem Answers.inTurn {answer : (request : Request) → σ → Reply request × σ}
    {step : σ → Exchange Reply → σ → Prop} {t : List (Exchange Reply)} (h : Answers answer s t s')
    (each : ∀ s request, step s ⟨request, (answer request s).1⟩ (answer request s).2) :
    InTurn step s t s' := by
  induction t generalizing s with
  | nil => exact Eq.symm h
  | cons x rest ih =>
    obtain ⟨request, reply⟩ := x
    obtain ⟨same, later⟩ := h
    obtain rfl : reply = (answer request s).1 := same
    exact ⟨_, each s request, ih later⟩

end InTurn

namespace Program

/-- With the exchanges of a list, a program computes a value. -/
inductive Transcript : Program Reply α → List (Exchange Reply) → α → Prop
  | done (value : α) : Transcript (.done value) [] value
  | ask {request : Request} {next : Reply request → Program Reply α} {t : List (Exchange Reply)}
      {value : α} (reply : Reply request) :
      Transcript (next reply) t value → Transcript (.ask request next) (⟨request, reply⟩ :: t) value

@[simp] theorem transcript_done {value other : α} {t : List (Exchange Reply)} :
    (Program.done value).Transcript t other ↔ t = [] ∧ other = value := by
  constructor
  · rintro ⟨⟩
    exact ⟨rfl, rfl⟩
  · rintro ⟨rfl, rfl⟩
    exact .done _

@[simp] theorem transcript_ask {request : Request} {next : Reply request → Program Reply α}
    {t : List (Exchange Reply)} {value : α} :
    (Program.ask request next).Transcript t value ↔
      ∃ reply rest, t = ⟨request, reply⟩ :: rest ∧ (next reply).Transcript rest value := by
  constructor
  · rintro (_ | ⟨reply, h⟩)
    exact ⟨reply, _, rfl, h⟩
  · rintro ⟨reply, rest, rfl, h⟩
    exact .ask reply h

/-- **The transcripts of a sequence** are the transcripts of its first part, each followed by a
transcript of the second part. -/
theorem transcript_bind {p : Program Reply α} {f : α → Program Reply β}
    {t : List (Exchange Reply)} {value : β} :
    (p >>= f).Transcript t value ↔
      ∃ t₁ t₂ a, t = t₁ ++ t₂ ∧ p.Transcript t₁ a ∧ (f a).Transcript t₂ value := by
  induction p generalizing t with
  | done a =>
    simp only [bind_done, transcript_done]
    constructor
    · intro h
      exact ⟨[], t, a, rfl, ⟨rfl, rfl⟩, h⟩
    · rintro ⟨_, _, _, rfl, ⟨rfl, rfl⟩, h⟩
      exact h
  | ask request next ih =>
    simp only [bind_ask, transcript_ask, ih]
    constructor
    · rintro ⟨reply, _, rfl, t₁, t₂, a, rfl, h₁, h₂⟩
      exact ⟨⟨request, reply⟩ :: t₁, t₂, a, rfl, ⟨reply, t₁, rfl, h₁⟩, h₂⟩
    · rintro ⟨_, t₂, a, rfl, ⟨reply, t₁, rfl, h₁⟩, h₂⟩
      exact ⟨reply, t₁ ++ t₂, rfl, t₁, t₂, a, rfl, h₁, h₂⟩

/-- A program that starts with the same replies goes the same way: of two of its transcripts with
which the same list of exchanges begins, neither is longer than the other. -/
theorem Transcript.unique {p : Program Reply α} {t t' rest rest' : List (Exchange Reply)}
    {value value' : α} (h : p.Transcript t value) (h' : p.Transcript t' value')
    (same : t ++ rest = t' ++ rest') : t = t' ∧ value = value' := by
  induction h generalizing t' with
  | done =>
    cases h'
    exact ⟨rfl, rfl⟩
  | ask reply _ ih =>
    cases h' with
    | ask reply' later =>
      obtain ⟨first, others⟩ := List.cons.inj same
      cases first
      obtain ⟨rfl, rfl⟩ := ih later others
      exact ⟨rfl, rfl⟩

/-- **A program runs as one of its transcripts**: the one whose replies its surroundings give. -/
theorem run_eq_iff {answer : (request : Request) → σ → Reply request × σ} {p : Program Reply α}
    {s s' : σ} {value : α} :
    p.run answer s = (value, s') ↔ ∃ t, p.Transcript t value ∧ Answers answer s t s' := by
  induction p generalizing s with
  | done a =>
    constructor
    · rintro ⟨⟩
      exact ⟨[], .done _, rfl⟩
    · rintro ⟨_, ⟨⟩, rfl⟩
      rfl
  | ask request next ih =>
    constructor
    · intro h
      obtain ⟨t, ht, ha⟩ := (ih _).mp h
      exact ⟨_, .ask _ ht, rfl, ha⟩
    · rintro ⟨_, (_ | ⟨reply, ht⟩), hr, ha⟩
      obtain rfl : reply = (answer request s).1 := hr
      exact (ih _).mpr ⟨_, ht, ha⟩

end Program

end CardinalityAdvisor
