import CardinalityAdvisor.Proofs.Program.Transcript

/-!
# Programs that are under way

A program that others interrupt is known by the exchanges that it has had and by what is left to do
of it. Whatever is replied from there on, both together make a transcript of the whole.

## Main definitions

* `Program.Reaches p t rest`: after the exchanges `t`, all that is left to do of `p` is `rest`

## Main results

* `Program.Reaches.transcript`: a transcript of the rest is the end of one of the whole
* `Program.Reaches.of_asks`: what all requests have in common is true of the one that comes next
-/

namespace CardinalityAdvisor.Program

variable {Request : Type} {Reply : Request → Type} {α : Type}

/-- After some exchanges, this is what is left to do of a program. -/
inductive Reaches (p : Program Reply α) : List (Exchange Reply) → Program Reply α → Prop
  | here : Reaches p [] p
  | asked {t : List (Exchange Reply)} {request : Request} {next : Reply request → Program Reply α}
      (reply : Reply request) : Reaches p t (.ask request next) →
      Reaches p (t ++ [⟨request, reply⟩]) (next reply)

variable {p rest : Program Reply α} {t later : List (Exchange Reply)} {value : α}

/-- **A transcript of the rest** is the end of a transcript of the whole. -/
theorem Reaches.transcript (reached : p.Reaches t rest) (h : rest.Transcript later value) :
    p.Transcript (t ++ later) value := by
  induction reached generalizing later with
  | here => exact h
  | asked reply _ ih =>
    rw [List.append_assoc]
    exact ih (.ask reply h)

/-- A program that is done has had all of its exchanges. -/
theorem Reaches.done (reached : p.Reaches t (.done value)) : p.Transcript t value := by
  have whole := reached.transcript (.done value)
  rwa [List.append_nil] at whole

/-- If all requests of a program have a property, then the next one has it, wherever the program has
come to. Since somebody replies to every request, it stands in a transcript. -/
theorem Reaches.of_asks {P : Request → Prop} {request : Request}
    {next : Reply request → Program Reply α} (someReply : (request : Request) → Reply request)
    (asks : ∀ t value, p.Transcript t value → ∀ x ∈ t, P x.request)
    (reached : p.Reaches t (.ask request next)) : P request := by
  obtain ⟨later, h, -⟩ := run_eq_iff.mp
    (Eq.refl ((next (someReply request)).run (fun request u => (someReply request, u)) ()))
  have whole := reached.transcript (.ask (someReply request) h)
  exact asks _ _ whole ⟨request, someReply request⟩ (by simp)

end CardinalityAdvisor.Program
