import CardinalityAdvisor.Proofs.Program.Transcript
import CardinalityAdvisor.Session.Action

/-!
# Runs of actions

An action runs from a session with some exchanges to a result and a session. The replies are left
open: what holds of all runs holds whatever the surroundings reply.

## Main definitions

* `Action.Runs action s t result s'`: from the session `s`, with the exchanges `t`, the action ends
  with `result` in the session `s'`

## Main results

* `Action.runs_bind`: a sequence runs its second part after its first, unless the first fails
* `Action.runs_attempt`, `Action.runs_attempt_bind`: an attempt never fails, and gives the failure
  as a value
* `Action.exists_runs`, `Action.requests_of_runs`: actions always run, and with given replies there
  is one way to do so
-/

namespace CardinalityAdvisor

/-- A request of a session with its reply. -/
abbrev Asked := Exchange Request.Reply

namespace Action

variable {α β : Type} {s s' : Session} {t : List Asked}

/-- From the session `s`, with the exchanges `t`, an action ends with a result in the session
`s'`. -/
def Runs (action : Action α) (s : Session) (t : List Asked) (result : Except Fault α)
    (s' : Session) : Prop :=
  (action.run.run s).Transcript t (result, s')

/-- From one session and with the same replies, an action goes one way only. -/
theorem Runs.unique {action : Action α} {t' rest rest' : List Asked}
    {result result' : Except Fault α} {s₁ : Session} (run : Runs action s t result s')
    (run' : Runs action s t' result' s₁) (same : t ++ rest = t' ++ rest') :
    t = t' ∧ result = result' ∧ s' = s₁ := by
  obtain ⟨exchanges, ended⟩ := Program.Transcript.unique run run' same
  cases ended
  exact ⟨exchanges, rfl, rfl⟩

theorem runs_pure {value : α} {result : Except Fault α} :
    Runs (pure value) s t result s' ↔ t = [] ∧ result = .ok value ∧ s' = s := by
  show (Program.done (Except.ok value, s)).Transcript t (result, s') ↔ _
  rw [Program.transcript_done, Prod.mk.injEq]

theorem runs_throw {fault : Fault} {result : Except Fault α} :
    Runs (throw fault) s t result s' ↔ t = [] ∧ result = .error fault ∧ s' = s := by
  show (Program.done (Except.error fault, s)).Transcript t (result, s') ↔ _
  rw [Program.transcript_done, Prod.mk.injEq]

/-- **A sequence of actions** runs its second part after its first, or ends where its first part
fails. -/
theorem runs_bind {action : Action α} {f : α → Action β} {result : Except Fault β} :
    Runs (action >>= f) s t result s' ↔
      (∃ t₁ t₂ value s₁, t = t₁ ++ t₂ ∧ Runs action s t₁ (.ok value) s₁ ∧
        Runs (f value) s₁ t₂ result s') ∨
      ∃ fault, result = .error fault ∧ Runs action s t (.error fault) s' := by
  show ((action.run.run s >>= fun x => _ : Program Request.Reply _)).Transcript t _ ↔ _
  rw [Program.transcript_bind]
  constructor
  · rintro ⟨t₁, t₂, ⟨_ | value, s₁⟩, rfl, h₁, h₂⟩
    · obtain ⟨rfl, h⟩ := Program.transcript_done.mp h₂
      cases h
      rw [List.append_nil]
      exact .inr ⟨_, rfl, h₁⟩
    · exact .inl ⟨t₁, t₂, value, s₁, rfl, h₁, h₂⟩
  · rintro (⟨t₁, t₂, value, s₁, rfl, h₁, h₂⟩ | ⟨fault, rfl, h⟩)
    · exact ⟨t₁, t₂, (.ok value, s₁), rfl, h₁, h₂⟩
    · exact ⟨t, [], (.error fault, s'), by simp, h, .done _⟩

/-- An action whose failure is a value runs before what comes after it, failed or not. -/
theorem runs_run_bind {action : Action α} {f : Except Fault α → Action β}
    {result : Except Fault β} :
    Runs (ExceptT.mk (action.run >>= fun r => (f r).run)) s t result s' ↔
      ∃ t₁ t₂ r s₁, t = t₁ ++ t₂ ∧ Runs action s t₁ r s₁ ∧ Runs (f r) s₁ t₂ result s' := by
  show ((action.run.run s >>= fun x => (f x.1).run.run x.2 :
    Program Request.Reply _)).Transcript t _ ↔ _
  rw [Program.transcript_bind]
  constructor
  · rintro ⟨t₁, t₂, ⟨r, s₁⟩, rfl, h₁, h₂⟩
    exact ⟨t₁, t₂, r, s₁, rfl, h₁, h₂⟩
  · rintro ⟨t₁, t₂, r, s₁, rfl, h₁, h₂⟩
    exact ⟨t₁, t₂, (r, s₁), rfl, h₁, h₂⟩

/-! ## Actions followed by others

What comes after an action that cannot fail runs from where that action leads. -/

@[simp] theorem runs_pure_bind {value : α} {f : α → Action β} {result : Except Fault β} :
    Runs (pure value >>= f) s t result s' ↔ Runs (f value) s t result s' := Iff.rfl

@[simp] theorem runs_get_bind {f : Session → Action β} {result : Except Fault β} :
    Runs (get >>= f) s t result s' ↔ Runs (f s) s t result s' := Iff.rfl

@[simp] theorem runs_set_bind {new : Session} {f : PUnit → Action β} {result : Except Fault β} :
    Runs (set new >>= f) s t result s' ↔ Runs (f ⟨⟩) new t result s' := Iff.rfl

@[simp] theorem runs_modify_bind {change : Session → Session} {f : PUnit → Action β}
    {result : Except Fault β} :
    Runs (modify change >>= f) s t result s' ↔ Runs (f ⟨⟩) (change s) t result s' := Iff.rfl

@[simp] theorem runs_ask_bind {request : Request} {f : Request.Reply request → Action β}
    {result : Except Fault β} :
    Runs (ask request >>= f) s t result s' ↔
      ∃ reply rest, t = ⟨request, reply⟩ :: rest ∧ Runs (f reply) s rest result s' :=
  Program.transcript_ask

@[simp] theorem runs_knowledge_bind {call : Knowledge.Call}
    {f : Except Fault call.Reply → Action β} {result : Except Fault β} :
    Runs (knowledge call >>= f) s t result s' ↔
      ∃ reply rest, t = ⟨.knowledge call, reply⟩ :: rest ∧ Runs (f reply) s rest result s' :=
  Program.transcript_ask

@[simp] theorem runs_ok_bind {value : α} {f : α → Action β} {result : Except Fault β} :
    Runs (ofResult (.ok value) >>= f) s t result s' ↔ Runs (f value) s t result s' := Iff.rfl

@[simp] theorem runs_error_bind {fault : Fault} {f : α → Action β} {result : Except Fault β} :
    Runs (ofResult (.error fault) >>= f) s t result s' ↔
      t = [] ∧ result = .error fault ∧ s' = s := runs_throw

theorem runs_ofResult_bind {r : Except Fault α} {f : α → Action β} {result : Except Fault β} :
    Runs (ofResult r >>= f) s t result s' ↔
      (∃ value, r = .ok value ∧ Runs (f value) s t result s') ∨
      ∃ fault, r = .error fault ∧ t = [] ∧ result = .error fault ∧ s' = s := by
  cases r with
  | ok value => simp
  | error fault => simp

theorem runs_ofTree_bind {r : TreeResult α} {f : α → Action β} {result : Except Fault β} :
    Runs (ofTree r >>= f) s t result s' ↔
      (∃ value, r = .ok value ∧ Runs (f value) s t result s') ∨
      ∃ fault, CardinalityAdvisor.ofTree r = .error fault ∧ t = [] ∧ result = .error fault ∧
        s' = s := by
  unfold ofTree
  rw [runs_ofResult_bind]
  cases r with
  | ok value =>
    have read : CardinalityAdvisor.ofTree (.ok value : TreeResult α) = .ok value := rfl
    simp [read]
  | error fault =>
    have read : CardinalityAdvisor.ofTree (.error fault : TreeResult α) = .error (.tree fault) :=
      rfl
    simp [read]

/-! ## Single actions -/

theorem runs_modify {change : Session → Session} {result : Except Fault PUnit} :
    Runs (modify change : Action PUnit) s t result s' ↔
      t = [] ∧ result = .ok ⟨⟩ ∧ s' = change s := runs_pure (s := change s)

theorem runs_ask {request : Request} {result : Except Fault (Request.Reply request)} :
    Runs (ask request) s t result s' ↔ ∃ reply, t = [⟨request, reply⟩] ∧ result = .ok reply ∧
      s' = s := by
  show (Program.ask request fun reply => .done (Except.ok reply, s)).Transcript t _ ↔ _
  simp only [Program.transcript_ask, Program.transcript_done, Prod.mk.injEq]
  constructor
  · rintro ⟨reply, _, rfl, rfl, rfl, rfl⟩
    exact ⟨reply, rfl, rfl, rfl⟩
  · rintro ⟨reply, rfl, rfl, rfl⟩
    exact ⟨reply, [], rfl, rfl, rfl, rfl⟩

theorem runs_ofResult {r result : Except Fault α} :
    Runs (ofResult r) s t result s' ↔ t = [] ∧ result = r ∧ s' = s := by
  cases r with
  | ok value => exact runs_pure
  | error fault => exact runs_throw

/-- **An attempt** runs as what is attempted, and gives its result as a value. -/
theorem runs_attempt {action : Action α} {result : Except Fault (Except Fault α)} :
    Runs (attempt action) s t result s' ↔ ∃ r, result = .ok r ∧ Runs action s t r s' := by
  refine (runs_run_bind (f := fun r => pure r)).trans ?_
  constructor
  · rintro ⟨t₁, _, r, s₁, rfl, h, last⟩
    obtain ⟨rfl, rfl, rfl⟩ := runs_pure.mp last
    rw [List.append_nil]
    exact ⟨r, rfl, h⟩
  · rintro ⟨r, rfl, h⟩
    exact ⟨t, [], r, s', (List.append_nil t).symm, h, runs_pure.mpr ⟨rfl, rfl, rfl⟩⟩

/-- What comes after an attempt runs with the result of what is attempted, failed or not. -/
theorem runs_attempt_bind {action : Action α} {f : Except Fault α → Action β}
    {result : Except Fault β} :
    Runs (attempt action >>= f) s t result s' ↔
      ∃ t₁ t₂ r s₁, t = t₁ ++ t₂ ∧ Runs action s t₁ r s₁ ∧ Runs (f r) s₁ t₂ result s' := by
  rw [runs_bind]
  constructor
  · rintro (⟨t₁, t₂, r, s₁, rfl, tried, rest⟩ | ⟨_, -, failed⟩)
    · obtain ⟨_, same, tried⟩ := runs_attempt.mp tried
      cases same
      exact ⟨t₁, t₂, r, s₁, rfl, tried, rest⟩
    · obtain ⟨_, same, -⟩ := runs_attempt.mp failed
      cases same
  · rintro ⟨t₁, t₂, r, s₁, rfl, tried, rest⟩
    exact .inl ⟨t₁, t₂, r, s₁, rfl, runs_attempt.mpr ⟨r, rfl, tried⟩, rest⟩

/-! ## Runs in given surroundings -/

/-- How an action ends and in which session, if each request always gets the same reply. -/
def outcome (reply : (request : Request) → Request.Reply request) (action : Action α)
    (s : Session) : Except Fault α × Session :=
  ((action.run.run s).run (fun request u => (reply request, u)) ()).1

/-- Actions always run, whatever the surroundings reply. -/
theorem exists_runs (reply : (request : Request) → Request.Reply request) (action : Action α)
    (s : Session) :
    ∃ t, Runs action s t (outcome reply action s).1 (outcome reply action s).2 ∧
      ∀ x ∈ t, x.reply = reply x.request := by
  obtain ⟨t, run, answers⟩ := Program.run_eq_iff.mp
    (Eq.refl ((action.run.run s).run (fun request u => (reply request, u)) ()))
  refine ⟨t, run, ?_⟩
  clear run
  induction t with
  | nil => simp
  | cons x rest ih => exact List.forall_mem_cons.mpr ⟨answers.1, ih answers.2⟩

/-- An action that gives a value in such surroundings has a run that gives it. -/
theorem exists_runs_ok {reply : (request : Request) → Request.Reply request} {action : Action α}
    {value : α} (given : (outcome reply action s).1.toOption = some value) :
    ∃ t, Runs action s t (.ok value) (outcome reply action s).2 ∧
      ∀ x ∈ t, x.reply = reply x.request := by
  obtain ⟨t, run, replies⟩ := exists_runs reply action s
  cases ended : (outcome reply action s).1 with
  | error fault =>
    rw [ended] at given
    cases given
  | ok found =>
    rw [ended] at given run
    cases given
    exact ⟨t, run, replies⟩

/-- What an action asks if each request always gets the same reply. -/
def requests (reply : (request : Request) → Request.Reply request) (action : Action α)
    (s : Session) : List Request :=
  ((action.run.run s).run (fun request asked => (reply request, asked ++ [request])) []).2

/-- A run in which each request gets the same reply asks what the action asks with these replies. -/
theorem requests_of_runs {reply : (request : Request) → Request.Reply request}
    {action : Action α} {result : Except Fault α} (run : Runs action s t result s')
    (replies : ∀ x ∈ t, x.reply = reply x.request) :
    requests reply action s = t.map (·.request) := by
  suffices recorded : ∀ asked, Answers (fun request asked => (reply request, asked ++ [request]))
      asked t (asked ++ t.map (·.request)) by
    have runs := Program.run_eq_iff.mpr ⟨t, run, recorded []⟩
    rw [requests, runs, List.nil_append]
  clear run
  induction t with
  | nil =>
    intro asked
    exact (List.append_nil asked).symm
  | cons x rest ih =>
    intro asked
    obtain ⟨first, later⟩ := List.forall_mem_cons.mp replies
    have goesOn := ih later (asked ++ [x.request])
    rw [List.append_assoc] at goesOn
    exact ⟨first, goesOn⟩

end Action

/-- Surroundings with a knowledge base that holds nothing, a clock that stands still and a host
whose estimates are all the same. -/
def nothingStored : (request : Request) → Request.Reply request
  | .parse _ => .parsed (.object [])
  | .now => 0
  | .log _ _ | .warn _ => ()
  | .selectivity _ _ | .native _ _ => .ok 0.5
  | .predict _ request => .ok (.refused request.sampleKey)
  | .knowledge .isInstalled => .ok true
  | .knowledge (.findClass _) | .knowledge (.loadSample _ _) => .ok none
  | .knowledge (.upsertClass _) | .knowledge (.recordText _ _)
  | .knowledge (.storeSample _ _ _) | .knowledge (.lockClass _ _)
  | .knowledge (.unlockClass _) => .ok ()
  | .knowledgeRelations => []

/-- The session after an action in such surroundings. -/
def Session.after {α : Type} (s : Session) (action : Action α) : Session :=
  (Action.outcome nothingStored action s).2

/-- A session in which new classes are learned and predicted. -/
def learning : Session := { settings := { mode := .mode .learn } }

/-- A session in which only stored classes take part. -/
def controlling : Session := {}

end CardinalityAdvisor
