import CardinalityAdvisor.Proofs.Program.Transcript

/-!
# Programs under a discipline

A discipline says in each phase which requests may be asked, and to which phase a request with its
reply leads. A program obeys it if it asks only what is permitted, whatever the replies are. So a
program that is stopped on its way still obeys from the phase that it has reached.

## Main definitions

* `Discipline`: what is permitted in each phase, and where exchanges lead
* `Program.Obeys D Post phase p`: the program `p` obeys from a phase on, and ends with a value and
  a phase that `Post` relates

## Main results

* `Program.Obeys.bind`: a sequence obeys if its parts do
* `Program.obeys_of_requests`: so does a program that asks only what is permitted in one phase and
  does not leave it
-/

namespace CardinalityAdvisor

variable {Request : Type} {Reply : Request → Type} {Phase α β : Type}

/-- What may be asked in each phase, and to which phase an exchange leads. -/
structure Discipline (Reply : Request → Type) (Phase : Type) where
  Permits : Phase → Request → Prop
  after : Phase → Exchange Reply → Phase

namespace Program

variable {D : Discipline Reply Phase} {Post : α → Phase → Prop}

/-- From a phase on, a program asks only what is permitted, and it ends with a value and a phase
that `Post` relates. -/
def Obeys (D : Discipline Reply Phase) (Post : α → Phase → Prop) : Phase → Program Reply α → Prop
  | phase, .done value => Post value phase
  | phase, .ask request next =>
    D.Permits phase request ∧
      ∀ reply, (next reply).Obeys D Post (D.after phase ⟨request, reply⟩)

@[simp] theorem obeys_done {phase : Phase} {value : α} :
    (Program.done value).Obeys D Post phase ↔ Post value phase := Iff.rfl

@[simp] theorem obeys_ask {phase : Phase} {request : Request}
    {next : Reply request → Program Reply α} :
    (Program.ask request next).Obeys D Post phase ↔
      D.Permits phase request ∧
        ∀ reply, (next reply).Obeys D Post (D.after phase ⟨request, reply⟩) := Iff.rfl

theorem Obeys.mono {Post' : α → Phase → Prop} {phase : Phase} {p : Program Reply α}
    (h : p.Obeys D Post phase) (weaker : ∀ value phase, Post value phase → Post' value phase) :
    p.Obeys D Post' phase := by
  induction p generalizing phase with
  | done value => exact weaker value phase h
  | ask request next ih => exact ⟨h.1, fun reply => ih reply (h.2 reply)⟩

/-- **A sequence** obeys if its first part does and its second part goes on from there. -/
theorem Obeys.bind {Mid : α → Phase → Prop} {Post : β → Phase → Prop} {phase : Phase}
    {p : Program Reply α} {f : α → Program Reply β} (h : p.Obeys D Mid phase)
    (hf : ∀ value phase, Mid value phase → (f value).Obeys D Post phase) :
    (p >>= f).Obeys D Post phase := by
  induction p generalizing phase with
  | done value => exact hf value phase h
  | ask request next ih =>
    rw [bind_ask, obeys_ask]
    exact ⟨h.1, fun reply => ih reply (h.2 reply)⟩

/-- A program all of whose requests are permitted in a phase, and lead nowhere else, stays in that
phase. Since somebody replies to every request, each of them stands in a transcript. -/
theorem obeys_of_requests {P : Request → Prop} {phase : Phase} {p : Program Reply α}
    (someReply : (request : Request) → Reply request)
    (permitted : ∀ request, P request → D.Permits phase request)
    (stays : ∀ x : Exchange Reply, P x.request → D.after phase x = phase)
    (asks : ∀ t value, p.Transcript t value → ∀ x ∈ t, P x.request) :
    p.Obeys D (fun _ reached => reached = phase) phase := by
  induction p with
  | done value => rfl
  | ask request next ih =>
    obtain ⟨t, ht, -⟩ := run_eq_iff.mp
      (Eq.refl ((next (someReply request)).run (fun request u => (someReply request, u)) ()))
    have here : P request := asks _ _ (.ask _ ht) _ List.mem_cons_self
    refine ⟨permitted request here, fun reply => ?_⟩
    rw [stays ⟨request, reply⟩ here]
    apply ih
    intro t value ht x member
    exact asks _ _ (.ask reply ht) x (List.mem_cons_of_mem _ member)

end Program

end CardinalityAdvisor
