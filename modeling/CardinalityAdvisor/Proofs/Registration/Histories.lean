import CardinalityAdvisor.Proofs.Program.Progress
import CardinalityAdvisor.Proofs.Registration.Exclusion
import CardinalityAdvisor.Proofs.Registration.NewClasses
import CardinalityAdvisor.Proofs.Session.Deactivation

/-!
# The classifications within a run of sessions

In a run, the turns of all sessions are mixed. The classification that one session is engaged in
has begun at an earlier moment, from the state that the session had then, and its exchanges are
those that the session has had since. So what is known of all classifications of a single session
holds of each classification within a run, and each of its replies was given by the knowledge base
as it was at some earlier moment.

## Main definitions

* `Engaged σ₀ i query s asked events`: a session is classifying a query, which it began in the
  state `s`, and has had the exchanges `asked`
* `Ended σ₀ i v events`: a session has just ended the classification of a verdict
* `Answered σ₀ x σ`: an exchange took place at a moment of a run that led to `σ`
* `StoredUnder σ₀ i mode c events`: a session has stored a class in a classification under a mode

## Main results

* `engaged_of_run`, `exists_ended`: every classification within a run is one of its session
* `Run.answered`: every exchange took place at a moment of the run
* `stored_of_step`, `Run.stored`: a class that was not there at first was stored as a mode makes it
-/

namespace CardinalityAdvisor.Shared

open CardinalityAdvisor.Action
open Knowledge (Store)

variable {ι : Type}

/-- The session whose turn it was. -/
def Event.session : Event ι → Option ι
  | .begins i _ | .asks i _ | .ends i _ => some i
  | .elsewhere => none

variable [DecidableEq ι] {σ₀ σ σ' : System ι} {events : List (Event ι)} {i : ι}

/-! ## Classifications that are in progress -/

/-- A session is classifying a query. It began in some state, and has had some exchanges since. -/
inductive Engaged (σ₀ : System ι) (i : ι) (query : Query) (s : Session) :
    List Asked → List (Event ι) → Prop
  | begins {events : List (Event ι)} {σ : System ι} : Run σ₀ events σ → σ.clients i = .resting s →
      Engaged σ₀ i query s [] (.begins i query :: events)
  | asks {asked : List Asked} {events : List (Event ι)} (x : Asked) :
      Engaged σ₀ i query s asked events →
      Engaged σ₀ i query s (asked ++ [x]) (.asks i x :: events)
  | others {asked : List Asked} {events : List (Event ι)} {e : Event ι} : e.session ≠ some i →
      Engaged σ₀ i query s asked events → Engaged σ₀ i query s asked (e :: events)

/-- What is left to do for a session is left of a classification that the session is engaged in. -/
def EngagedIn (σ₀ : System ι) (i : ι) (events : List (Event ι))
    (rest : Program Request.Reply (Except Fault Classified × Session)) : Prop :=
  ∃ query s asked, Engaged σ₀ i query s asked events ∧
    ((classify query).run.run s).Reaches asked rest

theorem EngagedIn.others {rest : Program Request.Reply (Except Fault Classified × Session)}
    {e : Event ι} (other : e.session ≠ some i) (h : EngagedIn σ₀ i events rest) :
    EngagedIn σ₀ i (e :: events) rest := by
  obtain ⟨query, s, asked, engaged, reached⟩ := h
  exact ⟨query, s, asked, .others other engaged, reached⟩

/-- A turn of another session leaves a session engaged in the same classification. -/
theorem engaged_of_goOn {store : Store} {j : ι} {client : Client} {e : Event ι}
    (before : ∀ i rest, σ.clients i = .classifying rest → EngagedIn σ₀ i events rest)
    (turn : e.session = some j)
    (own : ∀ rest, client = .classifying rest → EngagedIn σ₀ j (e :: events) rest) (i : ι)
    (rest : Program Request.Reply (Except Fault Classified × Session))
    (doing : (σ.goOn store j client).clients i = .classifying rest) :
    EngagedIn σ₀ i (e :: events) rest := by
  by_cases same : i = j
  · subst same
    have changed : (σ.goOn store i client).clients i = client := Function.update_self ..
    exact own rest (changed.symm.trans doing)
  · have unchanged : (σ.goOn store j client).clients i = σ.clients i :=
      Function.update_of_ne same ..
    have other : e.session ≠ some i := by
      rw [turn]
      exact fun h => same (Option.some.inj h).symm
    exact (before i rest (unchanged.symm.trans doing)).others other

/-- **Whoever is classifying** is engaged in a classification that began within the run. -/
theorem engaged_of_run (rest : σ₀.AtRest) (run : Run σ₀ events σ) :
    ∀ i left, σ.clients i = .classifying left → EngagedIn σ₀ i events left := by
  induction run with
  | start =>
    intro i left doing
    obtain ⟨s, resting⟩ := rest i
    rw [resting] at doing
    cases doing
  | @step events e σ₁ σ' run step ih =>
    cases step with
    | @begins j s query resting =>
      refine engaged_of_goOn ih rfl fun left doing => ?_
      cases doing
      exact ⟨query, s, [], .begins run resting, .here⟩
    | @asks j request reply store next asking =>
      refine engaged_of_goOn ih rfl fun left doing => ?_
      cases doing
      obtain ⟨query, s, asked, engaged, reached⟩ := ih j _ asking
      exact ⟨query, s, _, .asks _ engaged, .asked reply reached⟩
    | ends =>
      refine engaged_of_goOn ih rfl fun left doing => ?_
      cases doing
    | elsewhere elsewhere =>
      intro i left doing
      obtain same | ⟨s, s', -, resting⟩ := elsewhere.clients i
      · rw [same] at doing
        exact (ih i left doing).others nofun
      · rw [resting] at doing
        cases doing

/-- All exchanges of a classification in progress are among the events. -/
theorem Engaged.mem {query : Query} {s : Session} {asked : List Asked}
    (h : Engaged σ₀ i query s asked events) : ∀ x ∈ asked, Event.asks i x ∈ events := by
  induction h with
  | begins => exact fun x member => nomatch member
  | asks y _ ih =>
    intro x member
    rcases List.mem_append.mp member with member | member
    · exact List.mem_cons_of_mem _ (ih x member)
    · rw [List.mem_singleton.mp member]
      exact List.mem_cons_self
  | others _ _ ih => exact fun x member => List.mem_cons_of_mem _ (ih x member)

/-! ## Classifications that have ended -/

/-- A session has just ended the classification of a verdict, which began within the run. -/
def Ended (σ₀ : System ι) (i : ι) (v : Verdict) (events : List (Event ι)) : Prop :=
  v.Holds ∧ ∃ before, events = .ends i v.result :: before ∧
    Engaged σ₀ i v.query v.before v.asked before

/-- **Whatever a session returns** is the result of a classification that began within the run. -/
theorem exists_ended {result : Except Fault Classified} (rest : σ₀.AtRest)
    (run : Run σ₀ (.ends i result :: events) σ) :
    ∃ v, Ended σ₀ i v (.ends i result :: events) ∧ v.result = result := by
  cases run with
  | step run step =>
    cases step with
    | @ends _ _ s' done =>
      obtain ⟨query, s, asked, engaged, reached⟩ := engaged_of_run rest run i _ done
      exact ⟨⟨query, s, asked, result, s'⟩, ⟨reached.done, events, rfl, engaged⟩, rfl⟩

/-! ## Moments of a run -/

/-- An exchange took place at a moment of a run, and the run went on from there. -/
def Answered (σ₀ : System ι) (x : Asked) (σ : System ι) : Prop :=
  ∃ i before σ₁ σ₂ later, Run σ₀ before σ₁ ∧ Step σ₁ (.asks i x) σ₂ ∧ Run σ₂ later σ

/-- **Every exchange** took place at a moment of the run. -/
theorem Run.answered {x : Asked} (run : Run σ₀ events σ) (member : .asks i x ∈ events) :
    Answered σ₀ x σ := by
  induction run with
  | start => cases member
  | @step events e σ₁ σ' run step ih =>
    rcases List.mem_cons.mp member with rfl | member
    · exact ⟨i, events, σ₁, σ', [], run, step, .start⟩
    · obtain ⟨j, before, σ₂, σ₃, later, first, asked, goesOn⟩ := ih member
      exact ⟨j, before, σ₂, σ₃, e :: later, first, asked, goesOn.step step⟩

/-- The exchanges of a classification that has ended took place within the run. -/
theorem Ended.answered {v : Verdict} (h : Ended σ₀ i v events) (run : Run σ₀ events σ)
    {x : Asked} (member : x ∈ v.asked) : Answered σ₀ x σ := by
  obtain ⟨-, before, rfl, engaged⟩ := h
  exact run.answered (List.mem_cons_of_mem _ (engaged.mem x member))

theorem Step.serves {x : Asked} (step : Step σ (.asks i x) σ') :
    Serves σ.store x σ'.store := by
  cases step with
  | asks _ serves => exact serves

theorem Serves.handles {store store' : Store} {x : Asked} (h : Serves store x store') :
    store.Handles x store' := by
  cases h with
  | answered call => exact .answered call
  | failed call fault => exact .failed call fault (.inl rfl)
  | other x outside => exact .other x outside

/-- A class that was looked for was stored at that moment, or it was not. -/
theorem Serves.lookup {store store' : Store} {hash : Int} {found : Option QueryClass}
    (h : Serves store ⟨.knowledge (.findClass hash), .ok found⟩ store') :
    store.classes.lookup hash = found ∧ store' = store := by
  have answer := h.handles.answer_eq
  exact ⟨Except.ok.inj (congrArg Prod.fst answer), (congrArg Prod.snd answer).symm⟩

/-! ## The classes that are stored -/

/-- Only storing a class changes what is found under its hash. -/
theorem Serves.lookup_classes {store store' : Store} {x : Asked} (h : Serves store x store')
    {hash : Int} {c : QueryClass} (found : store'.classes.lookup hash = some c) :
    store.classes.lookup hash = some c ∨
      x = ⟨.knowledge (.upsertClass c), .ok ()⟩ ∧ c.queryHash = hash := by
  cases h with
  | failed | other => exact .inl found
  | answered call =>
    obtain same | ⟨-, fault, same⟩ := answer_cases store call
    swap
    · rw [same] at found
      exact .inl found
    rw [same] at found ⊢
    cases call with
    | isInstalled | findClass | loadSample | storeSample | unlockClass => exact .inl found
    | recordText other text =>
      simp only [Store.reply, Store.recordText] at found
      split at found <;> exact .inl found
    | lockClass other timeout =>
      obtain ⟨fault, refused⟩ | ⟨-, taken⟩ := lockClass_cases store other timeout
      · simp only [Store.reply, refused] at found
        exact .inl found
      · simp only [Store.reply, taken] at found
        exact .inl found
    | upsertClass new =>
      change (put new.queryHash new store.classes).lookup hash = some c at found
      rw [lookup_put] at found
      split at found
      · rename_i own
        cases found
        exact .inr ⟨rfl, own.symm⟩
      · exact .inl found

/-- A session has stored a class in a classification that it began under a mode. -/
def StoredUnder (σ₀ : System ι) (i : ι) (mode : Mode) (c : QueryClass) (events : List (Event ι)) :
    Prop :=
  ∃ later before query s asked,
    events = later ++ .asks i ⟨.knowledge (.upsertClass c), .ok ()⟩ :: before ∧
      Engaged σ₀ i query s asked before ∧ s.settings.resolvedMode = .ok mode

theorem StoredUnder.cons {mode : Mode} {c : QueryClass} (e : Event ι)
    (h : StoredUnder σ₀ i mode c events) : StoredUnder σ₀ i mode c (e :: events) := by
  obtain ⟨later, before, query, s, asked, rfl, engaged, known⟩ := h
  exact ⟨e :: later, before, query, s, asked, rfl, engaged, known⟩

/-- **One turn** stores a class only as the mode makes it under which its session is classifying. -/
theorem stored_of_step {e : Event ι} {hash : Int} {c : QueryClass} (rest : σ₀.AtRest)
    (run : Run σ₀ events σ) (step : Step σ e σ') (found : σ'.store.classes.lookup hash = some c) :
    σ.store.classes.lookup hash = some c ∨
      ∃ i mode, StoredUnder σ₀ i mode c (e :: events) ∧ c = .ofNew hash mode := by
  cases step with
  | begins | ends => exact .inl found
  | elsewhere elsewhere =>
    rw [elsewhere.registry.classes] at found
    exact .inl found
  | @asks i request reply store next asking serves =>
    obtain before | ⟨stores, rfl⟩ := serves.lookup_classes found
    · exact .inl before
    obtain ⟨query, s, asked, engaged, reached⟩ := engaged_of_run rest run i _ asking
    have own := reached.of_asks nothingStored fun t v h => storesOnly_classify h
    obtain ⟨mode, known, made⟩ := own c (congrArg Exchange.request stores)
    rw [stores]
    exact .inr ⟨i, mode, ⟨[], events, query, s, asked, rfl, engaged, known⟩, made⟩

/-- **Every class** was stored at first, or a session has stored it in the course of the run. -/
theorem Run.stored {hash : Int} {c : QueryClass} (run : Run σ₀ events σ) (rest : σ₀.AtRest)
    (found : σ.store.classes.lookup hash = some c) :
    σ₀.store.classes.lookup hash = some c ∨
      ∃ i mode, StoredUnder σ₀ i mode c events ∧ c = .ofNew hash mode := by
  induction run with
  | start => exact .inl found
  | @step events e σ₁ σ' run step ih =>
    obtain before | now := stored_of_step rest run step found
    · obtain first | ⟨i, mode, stored, made⟩ := ih before
      · exact .inl first
      · exact .inr ⟨i, mode, stored.cons e, made⟩
    · exact .inr now

/-! ## What is known from an exchange -/

/-- From a system at rest without locks, a run does not change what is stored on its way. -/
theorem Run.kept {later : List (Event ι)} (run : Run σ₀ events σ) (rest : σ₀.AtRest)
    (unlocked : σ₀.store.locked = []) (goesOn : Run σ later σ') : Kept σ.store σ'.store := by
  have guarded := ((Guarded.start rest unlocked).run run).1
  exact (guarded.run goesOn).2

namespace Answered

variable {hash : Int} {c : QueryClass}

/-- A class that was found is still stored. -/
theorem found (h : Answered σ₀ ⟨.knowledge (.findClass hash), .ok (some c)⟩ σ) (rest : σ₀.AtRest)
    (unlocked : σ₀.store.locked = []) : σ.store.classes.lookup hash = some c := by
  obtain ⟨i, before, σ₁, σ₂, later, run, step, goesOn⟩ := h
  obtain ⟨found, same⟩ := step.serves.lookup
  rw [← same] at found
  exact ((run.step step).kept rest unlocked goesOn).classes hash c found

/-- A class that was stored still is. -/
theorem stored (h : Answered σ₀ ⟨.knowledge (.upsertClass c), .ok ()⟩ σ) (rest : σ₀.AtRest)
    (unlocked : σ₀.store.locked = []) : σ.store.classes.lookup c.queryHash = some c := by
  obtain ⟨i, before, σ₁, σ₂, later, run, step, goesOn⟩ := h
  refine ((run.step step).kept rest unlocked goesOn).classes _ _ ?_
  have changed : σ₁.store.putClass c = σ₂.store :=
    congrArg Prod.snd step.serves.handles.answer_eq
  rw [← changed]
  show (put c.queryHash c σ₁.store.classes).lookup c.queryHash = some c
  rw [lookup_put, if_pos rfl]

/-- A class that was not found was not stored at first. -/
theorem missing (h : Answered σ₀ ⟨.knowledge (.findClass hash), .ok none⟩ σ) (rest : σ₀.AtRest)
    (unlocked : σ₀.store.locked = []) : σ₀.store.classes.lookup hash = none := by
  obtain ⟨i, before, σ₁, σ₂, later, run, step, -⟩ := h
  obtain ⟨none, -⟩ := step.serves.lookup
  cases first : σ₀.store.classes.lookup hash with
  | none => rfl
  | some c =>
    have kept := (Run.start.kept rest unlocked run).classes hash c first
    rw [none] at kept
    cases kept

end Answered

/-! ## What was just returned -/

/-- The session that has just ended a classification, with what it returned. -/
def returned? : List (Event ι) → Option (ι × Classified)
  | .ends i (.ok classified) :: _ => some (i, classified)
  | _ => none

omit [DecidableEq ι] in
theorem exists_of_returned {classified : Classified}
    (h : returned? events = some (i, classified)) :
    ∃ before, events = .ends i (.ok classified) :: before := by
  unfold returned? at h
  split at h
  · cases h
    exact ⟨_, rfl⟩
  · cases h

/-- Turns add only exchanges and ends to the events. -/
theorem exists_turns (m : List (Event ι) × System ι) (schedule : List ι) :
    ∃ later, (schedule.foldl turn m).1 = later ++ m.1 ∧
      ∀ e ∈ later, ∀ i query, e ≠ .begins i query := by
  induction schedule generalizing m with
  | nil => exact ⟨[], rfl, by simp⟩
  | cons i rest ih =>
    obtain ⟨later, events, none⟩ := ih (turn m i)
    have added : ∃ now, (turn m i).1 = now ++ m.1 ∧ ∀ e ∈ now, ∀ i query, e ≠ .begins i query := by
      unfold turn
      split
      · exact ⟨[], rfl, by simp⟩
      · exact ⟨[.ends i _], rfl, by simp⟩
      · exact ⟨[.asks i _], rfl, by simp⟩
    obtain ⟨now, turned, neither⟩ := added
    refine ⟨later ++ now, ?_, List.forall_mem_append.mpr ⟨none, neither⟩⟩
    rw [List.foldl_cons, events, turned, List.append_assoc]

/-- A session that began once only, and first of all, began in the state that it had at first. -/
theorem Engaged.of_first {query first : Query} {s : Session} {asked : List Asked}
    {later : List (Event ι)} (h : Engaged σ₀ i query s asked (later ++ [.begins i first]))
    (once : ∀ query, .begins i query ∉ later) : σ₀.clients i = .resting s := by
  generalize same : later ++ [.begins i first] = events at h
  induction h generalizing later with
  | begins run resting =>
    cases later with
    | nil =>
      cases same
      cases run
      exact resting
    | cons e later =>
      cases same
      exact absurd List.mem_cons_self (once _)
  | asks x _ ih =>
    cases later with
    | nil => cases same
    | cons e later =>
      cases same
      exact ih (fun query member => once query (List.mem_cons_of_mem _ member)) rfl
  | others other _ ih =>
    cases later with
    | nil =>
      cases same
      exact absurd rfl other
    | cons e later =>
      cases same
      exact ih (fun query member => once query (List.mem_cons_of_mem _ member)) rfl

/-- A session that classifies a query as the first of all. -/
def begun (σ : System ι) (i : ι) (query : Query) (s : Session) : List (Event ι) × System ι :=
  ([.begins i query], σ.goOn σ.store i (.classifying ((classify query).run.run s)))

theorem Run.begun {query : Query} {s : Session} (resting : σ₀.clients i = .resting s) :
    Run σ₀ (begun σ₀ i query s).1 (begun σ₀ i query s).2 := Run.start.step (.begins query resting)

end CardinalityAdvisor.Shared
