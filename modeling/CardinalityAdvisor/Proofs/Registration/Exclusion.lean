import CardinalityAdvisor.Proofs.Registration.Consistency

/-!
# The registration of classes

Sessions that share a knowledge base look for a class without its lock and register it under the
lock. In whatever order they take turns, and however they fail, the class is registered once.

## Main definitions

* `Guarded σ₀ events σ`: what holds at every moment of a run
* `turn`: a turn of a session in given surroundings

## Main results

* `Guarded.step`, `Guarded.run`: one turn and a whole run keep it
* `registrations_exclusive`: stored classes and texts stay, every class is stored at most once, and
  no lock is held by two sessions or left behind
-/

namespace CardinalityAdvisor.Shared

open Knowledge (Store)

variable {ι : Type}

/-! ## Runs -/

/-- A session at rest holds no lock, and what is left of a classification obeys the lock
discipline. -/
def Client.Obeys (phase : LockPhase) : Client → Prop
  | .resting _ => phase = .free
  | .classifying rest =>
    rest.Obeys lockDiscipline (fun _ reached => reached = LockPhase.free) phase

variable [DecidableEq ι] {σ₀ σ σ' : System ι} {e : Event ι} {events later : List (Event ι)}

/-- What holds at every moment of a run from a system at rest without locks. -/
structure Guarded (σ₀ : System ι) (events : List (Event ι)) (σ : System ι) : Prop where
  obeys : ∀ i, (σ.clients i).Obeys (phases events i)
  locks : ∀ i, locksOf events i = (phases events i).locks
  consistent : Consistent (phases events) σ.store
  written : Written σ₀.store events σ.store
  kept : Kept σ₀.store σ.store

namespace Guarded

theorem start (rest : σ₀.AtRest) (unlocked : σ₀.store.locked = []) : Guarded σ₀ [] σ₀ where
  obeys i := by
    obtain ⟨s, resting⟩ := rest i
    rw [resting]
    rfl
  locks _ := rfl
  consistent := by
    constructor
    · simp [unlocked, phases, LockPhase.locks]
    · simp [unlocked]
    · simp [phases, LockPhase.locks]
    · simp [phases]
  written := ⟨by simp [writers], fun _ _ => rfl, fun _ _ => rfl⟩
  kept := .refl σ₀.store

/-- What relates two families relates them after both were changed at one place. -/
theorem forall_update_both {α β : Type} {R : α → β → Prop} {f : ι → α} {g : ι → β} {i : ι} {a : α}
    {b : β} (h : ∀ j, R (f j) (g j)) (new : R a b) (j : ι) :
    R (Function.update f i a j) (Function.update g i b j) := by
  by_cases own : j = i
  · rw [own, Function.update_self, Function.update_self]
    exact new
  · rw [Function.update_of_ne own, Function.update_of_ne own]
    exact h j

/-- The locks that the events tell are those of the phases. -/
theorem locksAfter_locks {store store' : Store} {phase phase' : LockPhase} {x : Asked}
    (effect : Effect store phase x phase' store') :
    locksAfter phase.locks x = phase'.locks := by
  cases effect with
  | neutral neutral | missing neutral | recorded neutral => exact neutral.locks _
  | locked | wrote => rfl
  | unlocked => simp [locksAfter, LockPhase.locks]

/-- A session goes on, and nothing else changes. -/
theorem goOn {i : ι} {client : Client} (h : Guarded σ₀ events σ)
    (phases' : phases (e :: events) = phases events)
    (locks' : locksOf (e :: events) = locksOf events)
    (writers' : ∀ hash, writers hash (e :: events) = writers hash events)
    (obeys : client.Obeys (phases events i)) :
    Guarded σ₀ (e :: events) (σ.goOn σ.store i client) where
  obeys := by
    rw [phases']
    exact (Function.forall_update_iff σ.clients fun j c => c.Obeys (phases events j)).mpr
      ⟨obeys, fun j _ => h.obeys j⟩
  locks := by
    rw [phases', locks']
    exact h.locks
  consistent := by
    rw [phases']
    exact h.consistent
  written := h.written.same writers' (.refl _)
  kept := h.kept

/-- **One turn** keeps all of it, and does not change what is stored. -/
theorem step (h : Guarded σ₀ events σ) (step : Step σ e σ') :
    Guarded σ₀ (e :: events) σ' ∧ Kept σ.store σ'.store := by
  cases step with
  | @begins i s query resting =>
    have free : phases events i = .free := by
      have := h.obeys i
      rw [resting] at this
      exact this
    refine ⟨h.goOn rfl rfl (fun _ => rfl) ?_, .refl _⟩
    rw [free]
    exact classify_givesBack query s
  | @ends i result s done =>
    refine ⟨h.goOn rfl rfl (fun _ => rfl) ?_, .refl _⟩
    have := h.obeys i
    rw [done] at this
    exact this
  | @asks i request reply store next asking serves =>
    have obeys := h.obeys i
    rw [asking] at obeys
    obtain ⟨permitted, goesOn⟩ := obeys
    have effect := Effect.of_serves permitted serves
    have kept := h.consistent.kept effect
    refine ⟨?_, kept⟩
    constructor
    · exact forall_update_both h.obeys (goesOn reply)
    · refine forall_update_both (R := fun locks (phase : LockPhase) => locks = phase.locks)
        h.locks ?_
      rw [h.locks, locksAfter_locks effect]
    · exact h.consistent.effect effect
    · exact h.written.effect h.kept h.consistent effect
    · exact h.kept.trans kept
  | elsewhere elsewhere =>
    have kept := elsewhere.registry.kept
    refine ⟨⟨fun i => ?_, h.locks, ?_, h.written.same (fun _ => rfl) kept, h.kept.trans kept⟩, kept⟩
    · obtain same | ⟨s, s', resting, resting'⟩ := elsewhere.clients i
      · rw [same]
        exact h.obeys i
      · rw [resting']
        have obeys := h.obeys i
        rw [resting] at obeys
        exact obeys
    · refine h.consistent.sameLocks (fun _ => rfl) elsewhere.registry.locked fun i hash found => ?_
      rw [elsewhere.registry.classes]
      exact h.consistent.missing i hash found

/-- A run that goes on keeps all of it, and does not change what is stored. -/
theorem run (h : Guarded σ₀ events σ) (run : Run σ later σ') :
    Guarded σ₀ (later ++ events) σ' ∧ Kept σ.store σ'.store := by
  induction run with
  | start => exact ⟨h, .refl _⟩
  | step _ step ih =>
    obtain ⟨guarded, kept⟩ := ih.1.step step
    exact ⟨guarded, ih.2.trans kept⟩

/-- Sessions at rest hold no locks. -/
theorem unlocked (h : Guarded σ₀ events σ) (rest : σ.AtRest) : σ.store.locked = [] := by
  apply List.eq_nil_iff_forall_not_mem.mpr
  intro hash held
  obtain ⟨i, held⟩ := (h.consistent.held hash).mp held
  obtain ⟨s, resting⟩ := rest i
  have free := h.obeys i
  rw [resting] at free
  rw [show phases events i = .free from free] at held
  cases held

end Guarded

/-- **The registration of classes.** Sessions classify queries against one knowledge base in any
order, from a system at rest without locks. However many of them time out or fail, at every moment
of the run and whatever comes later: stored classes and recorded texts are never changed or removed.
Every class is stored at most once, and not at all if it was stored before. No two sessions are
between taking and giving back the lock of one class, and these are the locks that are held. So no
lock is held once no classification is in progress. -/
theorem registrations_exclusive (rest : σ₀.AtRest) (unlocked : σ₀.store.locked = [])
    (run : Run σ₀ events σ) :
    (∀ later σ', Run σ later σ' → Kept σ.store σ'.store) ∧
      (∀ hash, (writers hash events).length ≤ 1) ∧
      (∀ hash, (σ₀.store.classes.lookup hash).isSome → writers hash events = []) ∧
      (∀ hash i j, hash ∈ locksOf events i → hash ∈ locksOf events j → i = j) ∧
      (∀ hash, hash ∈ σ.store.locked ↔ ∃ i, hash ∈ locksOf events i) ∧
      (σ.AtRest → σ.store.locked = []) := by
  have guarded : Guarded σ₀ events σ := by
    have := ((Guarded.start rest unlocked).run run).1
    rwa [List.append_nil] at this
  refine ⟨fun later σ' run => (guarded.run run).2, guarded.written.once, guarded.written.known,
    ?_, ?_, guarded.unlocked⟩
  · intro hash i j
    rw [guarded.locks, guarded.locks]
    exact guarded.consistent.exclusive hash i j
  · intro hash
    simp only [guarded.locks]
    exact guarded.consistent.held hash

/-! ## Schedules -/

/-- The reply of a store to a call, and that of surroundings in which nothing is stored to
everything else. -/
def replyOf (store : Store) : (request : Request) → request.Reply × Store
  | .knowledge call => store.answer call
  | request => (nothingStored request, store)

theorem serves_replyOf (store : Store) (request : Request) :
    Serves store ⟨request, (replyOf store request).1⟩ (replyOf store request).2 := by
  cases request with
  | knowledge call => exact .answered call
  | _ => exact .other _ (by simp)

/-- A system and its events so far after a turn of a session, unless the session is at rest. -/
def turn (m : List (Event ι) × System ι) (i : ι) : List (Event ι) × System ι :=
  match m.2.clients i with
  | .resting _ => m
  | .classifying (.done (result, s)) => (.ends i result :: m.1, m.2.goOn m.2.store i (.resting s))
  | .classifying (.ask request next) =>
    let (reply, store) := replyOf m.2.store request
    (.asks i ⟨request, reply⟩ :: m.1, m.2.goOn store i (.classifying (next reply)))

/-- Sessions that take turns in some order run. -/
theorem Run.turns {m : List (Event ι) × System ι} (run : Run σ₀ m.1 m.2) (schedule : List ι) :
    Run σ₀ (schedule.foldl turn m).1 (schedule.foldl turn m).2 := by
  induction schedule generalizing m with
  | nil => exact run
  | cons i rest ih =>
    apply ih
    unfold turn
    split
    · exact run
    · rename_i done
      exact run.step (.ends done)
    · rename_i request next asking
      exact run.step (.asks asking (serves_replyOf m.2.store request))

/-- Three sessions and an empty knowledge base. -/
def threeSessions : System (Fin 3) := ⟨{}, fun _ => .resting learning⟩

/-- A query with a text. -/
def sharedQuery : Query := ⟨some (.object [("SelectStmt", .object [])]), some "SELECT"⟩

/-- The three sessions, each about to classify the query. -/
def threeBegun : List (Event (Fin 3)) × System (Fin 3) :=
  [0, 1, 2].foldl (fun m i =>
    (.begins i sharedQuery :: m.1, m.2.goOn m.2.store i
      (.classifying ((classify sharedQuery).run.run learning)))) ([], threeSessions)

/-- The first session looks for the class before the second one takes its lock. The third one does
not get the lock in time. The first one takes it last, when the class is stored. -/
def race : List (Fin 3) :=
  List.replicate 3 0 ++ List.replicate 4 1 ++ List.replicate 5 2 ++ List.replicate 6 1 ++
    List.replicate 6 0

/-- Only the second session has stored the class, and in the end no lock is held. -/
theorem registrations_exclusive_race :
    ∃ events σ, Run threeSessions events σ ∧ σ.AtRest ∧
      writers (Fingerprint.expressionKey (.object [("SelectStmt", .object [])])) events = [1] ∧
      σ.store.locked = [] := by
  have begun : Run threeSessions threeBegun.1 threeBegun.2 :=
    ((Run.start.step (.begins sharedQuery rfl)).step (.begins sharedQuery rfl)).step
      (.begins sharedQuery rfl)
  have run := begun.turns race
  have rest : threeSessions.AtRest := fun _ => ⟨learning, rfl⟩
  have ended : (race.foldl turn threeBegun).2.AtRest := .of_isResting (by decide +kernel)
  obtain ⟨-, -, -, -, -, unlocked⟩ := registrations_exclusive rest rfl run
  exact ⟨_, _, run, ended, by decide +kernel, unlocked ended⟩

end CardinalityAdvisor.Shared
