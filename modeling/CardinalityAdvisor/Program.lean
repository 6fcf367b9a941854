/-!
# Programs that ask their surroundings

A program computes a value and may ask its surroundings on the way: the host, its parser, the
knowledge base, the clock. What it does next depends on the replies. Who answers is left open, so
that a program can be run against any surroundings, and programs can take turns.

## Main definitions

* `Program`: a computation that asks requests
* `Program.request`: the program that asks one request
* `Program.run`: a program run against surroundings with a state

## Main results

* `Program.run_bind`: a sequence of programs runs one after the other
-/

namespace CardinalityAdvisor

/-- A computation that asks requests and goes on with the replies. -/
inductive Program {Request : Type} (Reply : Request → Type) (α : Type) : Type where
  /-- The value was computed. -/
  | done (value : α)
  /-- A request is asked, and its reply decides how to go on. -/
  | ask (request : Request) (next : Reply request → Program Reply α)

namespace Program

variable {Request : Type} {Reply : Request → Type} {α β σ : Type}

/-- A program followed by another one, which depends on the value of the first. -/
protected def bind : Program Reply α → (α → Program Reply β) → Program Reply β
  | .done value, f => f value
  | .ask request next, f => .ask request fun reply => (next reply).bind f

instance : Monad (Program Reply) where
  pure := .done
  bind := Program.bind

/-- The program that asks one request. -/
def request (request : Request) : Program Reply (Reply request) := .ask request .done

/-- The value of a program and the state of its surroundings, which answer every request. -/
def run (answer : (request : Request) → σ → Reply request × σ) : Program Reply α → σ → α × σ
  | .done value, s => (value, s)
  | .ask request next, s =>
    let (reply, s) := answer request s
    (next reply).run answer s

@[simp] theorem bind_done (value : α) (f : α → Program Reply β) :
    (Program.done value >>= f) = f value := rfl

@[simp] theorem bind_ask (request : Request) (next : Reply request → Program Reply α)
    (f : α → Program Reply β) :
    (Program.ask request next >>= f) = .ask request fun reply => next reply >>= f := rfl

@[simp] theorem pure_eq (value : α) : (pure value : Program Reply α) = .done value := rfl

theorem bind_done_right (p : Program Reply α) : (p >>= .done) = p := by
  induction p with
  | done value => rfl
  | ask request next ih => simp only [bind_ask, ih]

theorem bind_assoc {γ : Type} (p : Program Reply α) (f : α → Program Reply β)
    (g : β → Program Reply γ) : (p >>= f >>= g) = p >>= fun a => f a >>= g := by
  induction p with
  | done value => rfl
  | ask request next ih => simp only [bind_ask, ih]

instance : LawfulMonad (Program Reply) :=
  LawfulMonad.mk' _ bind_done_right (fun _ _ => rfl) bind_assoc

/-- A sequence of programs runs one after the other. -/
theorem run_bind (answer : (request : Request) → σ → Reply request × σ) (p : Program Reply α)
    (f : α → Program Reply β) (s : σ) :
    (p >>= f).run answer s = (f (p.run answer s).1).run answer (p.run answer s).2 := by
  induction p generalizing s with
  | done value => rfl
  | ask request next ih => simp only [bind_ask, run, ih]

end Program

end CardinalityAdvisor
