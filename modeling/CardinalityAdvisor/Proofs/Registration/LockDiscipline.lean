import CardinalityAdvisor.Proofs.Program.Discipline
import CardinalityAdvisor.Proofs.Session.ReservedRelations

/-!
# The lock discipline of a classification

A classification takes at most one lock, that of the class of its query, and gives it back however
it ends. Under the lock it stores the class only after it has found that none is stored, and it
stores no other class.

## Main definitions

* `LockPhase`: the lock that a classification holds, and whether it has found no class under it
* `lockDiscipline`: which calls to the knowledge base each phase permits
* `Action.Obeys D Post phase action`: an action obeys a discipline in every session

## Main results

* `classify_givesBack`: every classification obeys the discipline, and ends without a lock
-/

namespace CardinalityAdvisor

/-! ## Actions under a discipline -/

namespace Action

variable {α β Phase : Type} {D : Discipline Request.Reply Phase} {phase : Phase}

/-- From a phase on, an action asks only what is permitted, in every session, and its result is
related to the phase that it ends in. -/
def Obeys (D : Discipline Request.Reply Phase) (Post : Except Fault α → Phase → Prop)
    (phase : Phase) (action : Action α) : Prop :=
  ∀ s, (action.run.run s).Obeys D (fun ended => Post ended.1) phase

variable {Post : Except Fault α → Phase → Prop}

theorem obeys_pure {value : α} (h : Post (.ok value) phase) :
    Obeys D Post phase (pure value : Action α) := fun _ => h

theorem obeys_throw {fault : Fault} (h : Post (.error fault) phase) :
    Obeys D Post phase (throw fault : Action α) := fun _ => h

theorem obeys_ofResult {result : Except Fault α} (h : Post result phase) :
    Obeys D Post phase (ofResult result : Action α) := by
  cases result with
  | ok value => exact obeys_pure h
  | error fault => exact obeys_throw h

theorem obeys_knowledge_bind {call : Knowledge.Call} {f : Except Fault call.Reply → Action α}
    (permitted : D.Permits phase (.knowledge call))
    (hf : ∀ reply, Obeys D Post (D.after phase ⟨.knowledge call, reply⟩) (f reply)) :
    Obeys D Post phase (knowledge call >>= f) := fun s => ⟨permitted, fun reply => hf reply s⟩

theorem Obeys.mono {Post' : Except Fault α → Phase → Prop} {action : Action α}
    (h : Obeys D Post phase action) (weaker : ∀ result phase, Post result phase →
      Post' result phase) : Obeys D Post' phase action :=
  fun s => (h s).mono fun ended reached => weaker ended.1 reached

/-- **A sequence of actions** obeys if its first part does, its second part goes on from there, and
it may end where the first part fails. -/
theorem Obeys.bind {Mid : Except Fault α → Phase → Prop} {Post : Except Fault β → Phase → Prop}
    {action : Action α} {f : α → Action β} (h : Obeys D Mid phase action)
    (hf : ∀ value reached, Mid (.ok value) reached → Obeys D Post reached (f value))
    (failed : ∀ fault reached, Mid (.error fault) reached → Post (.error fault) reached) :
    Obeys D Post phase (action >>= f) := by
  intro s
  refine Program.Obeys.bind (h s) ?_
  rintro ⟨_ | value, s₁⟩ reached mid
  · exact failed _ reached mid
  · exact hf value reached mid s₁

theorem obeys_ofResult_bind {r : Except Fault β} {f : β → Action α}
    (hf : ∀ value, r = .ok value → Obeys D Post phase (f value))
    (failed : ∀ fault, r = .error fault → Post (.error fault) phase) :
    Obeys D Post phase (ofResult r >>= f) := by
  cases r with
  | ok value => exact hf value rfl
  | error fault => exact fun _ => failed fault rfl

/-- An attempt obeys as what is attempted, and hands its failure on as a value. -/
theorem Obeys.attempt {action : Action α} (h : Obeys D Post phase action) :
    Obeys D (fun result reached => ∃ r, result = .ok r ∧ Post r reached) phase
      (attempt action) := by
  intro s
  refine Program.Obeys.bind (h s) ?_
  rintro ⟨result, s₁⟩ reached post
  exact ⟨result, rfl, post⟩

/-- An action all of whose requests are permitted in a phase, and lead nowhere else. -/
theorem obeys_of_asks {P : Request → Prop} {action : Action α} (asks : Asks P action)
    (permitted : ∀ request, P request → D.Permits phase request)
    (stays : ∀ x : Asked, P x.request → D.after phase x = phase) :
    Obeys D (fun _ reached => reached = phase) phase action :=
  fun _ => Program.obeys_of_requests nothingStored permitted stays fun _ _ run => asks run

end Action

/-! ## The discipline -/

/-- The lock that a classification holds. -/
inductive LockPhase where
  | free
  /-- The lock of a class is held, and the class may be known not to be stored. -/
  | held (hash : Int) (absent : Bool)
  deriving DecidableEq, Repr

namespace LockPhase

/-- The locks that are held. -/
def locks : LockPhase → List Int
  | .free => []
  | .held hash _ => [hash]

/-- The calls to the knowledge base that a phase permits. A class is stored only under its own lock,
and only if it is known not to be stored. -/
def Permits : LockPhase → Knowledge.Call → Prop
  | .free, .isInstalled | .free, .findClass _ | .free, .loadSample _ _ | .free, .lockClass _ _ =>
    True
  | .held _ _, .isInstalled => True
  | .held hash _, .findClass other | .held hash _, .recordText other _
  | .held hash _, .unlockClass other => other = hash
  | .held hash absent, .upsertClass c => absent = true ∧ c.queryHash = hash
  | _, _ => False

/-- The phase after a call to the knowledge base. -/
def after : LockPhase → (call : Knowledge.Call) → Except Fault call.Reply → LockPhase
  | .free, .lockClass hash _, .ok () => .held hash false
  | .held hash _, .findClass _, .ok none => .held hash true
  | .held hash _, .upsertClass _, .ok () => .held hash false
  | .held _ _, .unlockClass _, _ => .free
  | phase, _, _ => phase

end LockPhase

/-- The lock discipline. Requests that do not go to the knowledge base are always permitted. -/
def lockDiscipline : Discipline Request.Reply LockPhase where
  Permits
    | phase, .knowledge call => phase.Permits call
    | _, _ => True
  after
    | phase, ⟨.knowledge call, reply⟩ => phase.after call reply
    | phase, _ => phase

/-- To ask whether the knowledge base is there is always permitted, as is what does not concern it,
and tells nothing about locks. -/
theorem lockDiscipline_permits_of_spares {phase : LockPhase} (request : Request)
    (spares : request.Spares) : lockDiscipline.Permits phase request := by
  cases request with
  | knowledge call =>
    obtain rfl := spares call rfl
    cases phase <;> trivial
  | _ => trivial

theorem lockDiscipline_after_of_spares {phase : LockPhase} (x : Asked)
    (spares : x.request.Spares) : lockDiscipline.after phase x = phase := by
  obtain ⟨request, reply⟩ := x
  cases request with
  | knowledge call =>
    obtain rfl := spares call rfl
    cases phase <;> rfl
  | _ => rfl

/-- Logging tells nothing about locks. -/
theorem logClassification_obeys (phase : LockPhase) (entries : List Value) :
    (logClassification entries).Obeys lockDiscipline (fun _ reached => reached = phase) phase :=
  Action.obeys_of_asks (asks_logClassification entries) lockDiscipline_permits_of_spares
    lockDiscipline_after_of_spares

/-- An action that begins and ends without a lock, and obeys the discipline. -/
def GivesBack {α : Type} (action : Action α) : Prop :=
  action.Obeys lockDiscipline (fun _ phase => phase = LockPhase.free) LockPhase.free

namespace GivesBack

variable {α β : Type}

/-- An action that at most asks whether the knowledge base is there takes no lock. -/
theorem of_spares {action : Action α} (asks : action.Asks Request.Spares) : GivesBack action :=
  Action.obeys_of_asks asks lockDiscipline_permits_of_spares lockDiscipline_after_of_spares

theorem pure (value : α) : GivesBack (Pure.pure value : Action α) := Action.obeys_pure rfl

theorem throw (fault : Fault) : GivesBack (throw fault : Action α) := Action.obeys_throw rfl

theorem bind {action : Action α} {f : α → Action β} (h : GivesBack action)
    (hf : ∀ value, GivesBack (f value)) : GivesBack (action >>= f) := by
  refine Action.Obeys.bind h ?_ (fun _ _ ended => ended)
  rintro value _ rfl
  exact hf value

theorem ite {c : Prop} [Decidable c] {a b : Action α} (ha : GivesBack a) (hb : GivesBack b) :
    GivesBack (if c then a else b) := by
  split
  · exact ha
  · exact hb

theorem get : GivesBack (get : Action Session) := of_spares Action.asks_get

theorem modify (change : Session → Session) : GivesBack (modify change : Action PUnit) :=
  fun _ => rfl

theorem ofResult (result : Except Fault α) : GivesBack (ofResult result : Action α) :=
  Action.obeys_ofResult rfl

theorem ofTree (result : TreeResult α) : GivesBack (Action.ofTree result) := ofResult _

theorem log (entries : List Value) : GivesBack (logClassification entries) :=
  of_spares (asks_logClassification entries)

theorem now : GivesBack (Action.ask .now) := by
  apply of_spares
  apply Action.asks_ask
  rintro _ ⟨⟩

end GivesBack

/-! ## The registration of a class -/

/-- A phase in which the lock of a class is held. -/
def LockPhase.Under (hash : Int) (phase : LockPhase) : Prop := ∃ absent, phase = .held hash absent

/-- An action under the lock of a class, which does not give it back. -/
def StaysUnder {α : Type} (hash : Int) (absent : Bool) (action : Action α) : Prop :=
  action.Obeys lockDiscipline (fun _ => LockPhase.Under hash) (LockPhase.held hash absent)

/-- Recording a text needs the lock, and tells nothing about the class. -/
theorem recordText_staysUnder (hash : Int) (absent : Bool) (text : String) :
    StaysUnder hash absent (do ofResult (← Action.knowledge (.recordText hash text))) := by
  apply Action.obeys_knowledge_bind rfl
  intro reply
  exact Action.obeys_ofResult ⟨absent, rfl⟩

/-- The text is recorded if there is one, whether or not the class was found. -/
def recordAnyText (hash : Int) (text : Option String) : Action Unit :=
  match text with
  | some text => do ofResult (← Action.knowledge (.recordText hash text))
  | none => pure ()

theorem recordAnyText_staysUnder (hash : Int) (absent : Bool) (text : Option String) :
    StaysUnder hash absent (recordAnyText hash text) := by
  cases text with
  | none => exact Action.obeys_pure ⟨absent, rfl⟩
  | some text => exact recordText_staysUnder hash absent text

/-- **Under the lock**, the class is stored only where it was not found. -/
theorem registerUnderLock_staysUnder (policy : PlanningPolicy) (text : Option String) :
    StaysUnder policy.queryHash false (registerUnderLock policy text) := by
  apply Action.obeys_knowledge_bind rfl
  intro reply
  refine Action.obeys_ofResult_bind ?_ fun fault failed => ?_
  · rintro (_ | stored) rfl
    · show StaysUnder policy.queryHash true (do
        ofResult (← Action.knowledge (.upsertClass policy.queryClass))
        logClassification [.text "Registered query class", .int policy.queryHash]
        recordAnyText policy.queryHash text)
      refine Action.obeys_knowledge_bind ⟨rfl, rfl⟩ fun reply => ?_
      refine Action.obeys_ofResult_bind ?_ fun _ failed => ?_
      · rintro _ rfl
        refine Action.Obeys.bind (logClassification_obeys _ _) ?_ ?_
        · rintro _ _ rfl
          exact recordAnyText_staysUnder policy.queryHash false text
        · rintro fault _ rfl
          exact ⟨false, rfl⟩
      · rw [failed]
        exact ⟨true, rfl⟩
    · exact recordAnyText_staysUnder policy.queryHash false text
  · rw [failed]
    exact ⟨false, rfl⟩

/-- **The registration of a class** gives the lock back however it ends, and takes none if it is
not given it. -/
theorem registerClass_givesBack (policy : PlanningPolicy) (text : Option String) :
    GivesBack (registerClass policy text) := by
  have locked (timeout : Value) :
      GivesBack (Action.withLock policy.queryHash timeout (registerUnderLock policy text)) := by
    refine Action.obeys_knowledge_bind trivial fun granted => ?_
    refine Action.obeys_ofResult_bind ?_ fun _ refused => ?_
    swap
    · rw [refused]
      rfl
    rintro _ rfl
    refine Action.Obeys.bind (registerUnderLock_staysUnder policy text).attempt ?_ ?_
    · rintro result _ ⟨_, ⟨⟩, absent, rfl⟩
      refine Action.obeys_knowledge_bind rfl fun unlocked => ?_
      exact Action.obeys_ofResult_bind (fun _ _ => Action.obeys_ofResult rfl) fun _ _ => rfl
    · rintro fault _ ⟨_, ⟨⟩, -⟩
  unfold registerClass
  refine GivesBack.get.bind fun s => Action.Obeys.bind (locked _).attempt ?_ ?_
  · rintro result _ ⟨_, ⟨⟩, rfl⟩
    split
    · exact GivesBack.pure true
    · exact (GivesBack.log _).bind fun _ => .pure false
    · exact GivesBack.throw _
  · rintro fault _ ⟨_, ⟨⟩, -⟩

/-! ## The classification -/

theorem lookUpPolicy_givesBack (mode : Mode) (start : PlanningPolicy) (text : Option String) :
    GivesBack (lookUpPolicy mode start text) := by
  refine GivesBack.get.bind fun s => Action.obeys_knowledge_bind trivial fun found => ?_
  show GivesBack _
  split
  · exact (GivesBack.log _).bind fun _ => .pure _
  · exact GivesBack.throw _
  · rename_i stored
    have deactivate : GivesBack
        (deactivateIfIdle start.queryHash stored s.settings.forcesCollection) :=
      .ite ((GivesBack.log _).bind fun _ => .modify _) (.pure _)
    refine deactivate.bind fun _ => .ite ?_ (.pure _)
    exact (registerClass_givesBack _ text).bind fun _ => .ite (.pure _) (.pure _)

theorem resolvePolicy_givesBack (mode : Mode) (start : PlanningPolicy) (text : Option String) :
    GivesBack (resolvePolicy mode start text) := by
  have stamp (settings : Settings) (policy : PlanningPolicy) :
      GivesBack (stampStart settings policy) := by
    have finish (timed : Bool) : GivesBack (do
        if timed then return { policy with start := some (← Action.ask .now) }
        else return policy) := .ite (GivesBack.now.bind fun _ => .pure _) (.pure _)
    exact .ite ((GivesBack.ofResult _).bind finish) ((GivesBack.pure true).bind finish)
  have settle (settings : Settings) (found : PlanningPolicy × Bool) :
      GivesBack (settlePolicy settings found) :=
    .ite (.pure _) ((GivesBack.log _).bind fun _ => stamp _ _)
  rw [resolvePolicy_eq]
  refine GivesBack.get.bind fun s => ?_
  split
  · exact (GivesBack.pure _).bind (settle _)
  · exact (lookUpPolicy_givesBack mode start text).bind (settle _)

theorem classifyHash_givesBack (mode : Mode) (hash : Int) (explained : Bool)
    (text : Option String) : GivesBack (classifyHash mode hash explained text) := by
  refine GivesBack.get.bind fun s => .ite ?_ (.ite ?_ ?_)
  · exact (GivesBack.log _).bind fun _ => .pure _
  · exact (GivesBack.log _).bind fun _ => .pure _
  · refine (GivesBack.log _).bind fun _ => (GivesBack.modify _).bind fun _ => ?_
    exact (resolvePolicy_givesBack _ _ text).bind fun _ => .pure _

theorem resolve_givesBack (query : Query) : GivesBack query.resolve := by
  unfold Query.resolve
  split
  · exact .pure _
  · apply GivesBack.bind
    · apply GivesBack.of_spares
      apply Action.asks_ask
      rintro _ ⟨⟩
    · exact fun _ => .ofResult _
  · exact .throw _

/-- **Every classification** obeys the lock discipline and ends without a lock. -/
theorem classify_givesBack (query : Query) : GivesBack (classify query) := by
  refine GivesBack.get.bind fun s => (GivesBack.ofResult _).bind fun mode => ?_
  refine (resolve_givesBack query).bind fun tree => (GivesBack.ofTree _).bind ?_
  rintro ⟨stmt, explained⟩
  refine (GivesBack.of_spares (asks_skipReason stmt mode)).bind fun reason => ?_
  cases reason with
  | some reason => exact (GivesBack.log _).bind fun _ => .pure _
  | none =>
    refine (GivesBack.modify _).bind fun _ => (GivesBack.ofTree _).bind fun hash => ?_
    exact classifyHash_givesBack mode hash explained query.text

end CardinalityAdvisor
