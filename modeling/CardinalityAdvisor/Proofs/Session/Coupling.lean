import CardinalityAdvisor.Proofs.Knowledge.Exchanges
import CardinalityAdvisor.Proofs.ParseTree.Views
import CardinalityAdvisor.Proofs.Session.Classification

/-!
# Two runs side by side

Two actions are coupled if they cannot be told apart by how they end: started from sessions that
agree in all but the times of their policies, with knowledge bases that hold the same classes, both
succeed or both fail, and what they leave behind agrees again. Clocks and logs may say something
else on each side, and the texts of queries may differ. The knowledge base answers all calls.

## Main definitions

* `PlanningPolicy.SameButTimes`, `Session.SameButTimes`: equal but for times
* `Scene.Agree`: two sessions with their knowledge bases agree
* `Action.Performs own action m result m'`: an action is performed with a knowledge base
* `Action.Coupled own ground ground' R a a'`: two actions end alike, with values that `R` relates

## Main results

* `Action.Coupled.bind`: sequences are coupled if their parts are
* `Action.Coupled.withLock`: so are actions under the lock of a class
-/

namespace CardinalityAdvisor

open CardinalityAdvisor.Action
open Knowledge (Store)

/-! ## What may differ -/

namespace PlanningPolicy

/-- A policy without the times that it holds. Whether there is a start of planning is kept. -/
def timeless (p : PlanningPolicy) : PlanningPolicy :=
  { p with start := p.start.map fun _ => 0, planningTime := -1 }

/-- Two policies agree in every field but the times. -/
def SameButTimes (p p' : PlanningPolicy) : Prop := p.timeless = p'.timeless

variable {p p' : PlanningPolicy}

theorem SameButTimes.queryHash (h : SameButTimes p p') : p.queryHash = p'.queryHash := by
  have same := congrArg (fun p => p.queryHash) h
  exact same

theorem SameButTimes.isSome_start (h : SameButTimes p p') : p.start.isSome = p'.start.isSome := by
  have same := congrArg (fun p => p.start.isSome) h
  simpa [timeless] using same

end PlanningPolicy

/-- Two sessions agree in all but the times of their policies. -/
def Session.SameButTimes (s s' : Session) : Prop :=
  ∃ policies, s' = { s with policies } ∧ ∀ id, (s.policies id).SameButTimes (policies id)

/-- Two knowledge bases hold the same classes and the same locks. -/
structure Knowledge.Store.SameClasses (store store' : Store) : Prop where
  installed : store.installed = store'.installed
  classes : store.classes = store'.classes
  locked : store.locked = store'.locked

namespace Knowledge.Store.SameClasses

variable {store store' store₁ : Store}

theorem symm (h : store.SameClasses store') : store'.SameClasses store :=
  ⟨h.installed.symm, h.classes.symm, h.locked.symm⟩

theorem trans (h : store.SameClasses store') (h' : store'.SameClasses store₁) :
    store.SameClasses store₁ :=
  ⟨h.installed.trans h'.installed, h.classes.trans h'.classes, h.locked.trans h'.locked⟩

end Knowledge.Store.SameClasses

/-- A knowledge base holds the samples that it held before, and it is still set up if it was. -/
structure Knowledge.Store.SameRest (store store' : Store) : Prop where
  installed : store'.installed = store.installed
  samples : store'.samples = store.samples

theorem Knowledge.Store.SameRest.trans {store store' store₁ : Store} (h : store.SameRest store')
    (h' : store'.SameRest store₁) : store.SameRest store₁ :=
  ⟨h'.installed.trans h.installed, h'.samples.trans h.samples⟩

/-- Two sessions with their knowledge bases agree: in the sessions only times may differ, and in
the knowledge bases only texts and samples. -/
structure Scene.Agree (m m' : Scene) : Prop where
  session : m.session.SameButTimes m'.session
  store : m.store.SameClasses m'.store

/-- Two scenes agree that came from knowledge bases with the same samples as they have now. -/
structure Scene.AgreeFrom (ground ground' : Store) (m m' : Scene) : Prop extends m.Agree m' where
  rest : ground.SameRest m.store
  rest' : ground'.SameRest m'.store

namespace Scene

variable {ground ground' store store' : Store} {m m' : Scene}

theorem Agree.from (h : m.Agree m') : m.AgreeFrom m.store m'.store m' :=
  ⟨h, ⟨rfl, rfl⟩, ⟨rfl, rfl⟩⟩

theorem AgreeFrom.withSessions (h : m.AgreeFrom ground ground' m') {s s' : Session}
    (same : s.SameButTimes s') :
    Scene.AgreeFrom ground ground' { m with session := s } { m' with session := s' } :=
  ⟨⟨same, h.store⟩, h.rest, h.rest'⟩

theorem AgreeFrom.withStores (h : m.AgreeFrom ground ground' m') (same : store.SameClasses store')
    (rest : m.store.SameRest store) (rest' : m'.store.SameRest store') :
    Scene.AgreeFrom ground ground' { m with store } { m' with store := store' } :=
  ⟨⟨h.session, same⟩, h.rest.trans rest, h.rest'.trans rest'⟩

end Scene

/-- Two faults are the same, or both say what is wrong with a tree. -/
inductive Fault.Alike : Fault → Fault → Prop
  | same (fault : Fault) : Alike fault fault
  | tree (cause cause' : TreeFault) : Alike (.tree cause) (.tree cause')

/-! ## Actions with a knowledge base -/

namespace Knowledge.Store

/-- How an exchange goes with a knowledge base that answers all calls and uses some relations
itself. What the others reply is left open. -/
def Replies (own : List String) (store : Store) : Asked → Store → Prop
  | ⟨.knowledge call, reply⟩, store' =>
    reply = (store.answer call).1 ∧ store' = (store.answer call).2
  | ⟨.knowledgeRelations, reply⟩, store' => reply = own ∧ store' = store
  | _, store' => store' = store

/-- How some exchanges go, one after the other. -/
abbrev RepliesAll (own : List String) : Store → List Asked → Store → Prop := InTurn (Replies own)

end Knowledge.Store

/-- A request that passes nothing on: the time is asked, or something is logged. -/
def Request.IsPassing : Request → Prop
  | .now | .log _ _ => True
  | _ => False

theorem Request.IsPassing.store {request : Request} (h : request.IsPassing) {own : List String}
    {reply : Request.Reply request} {store store' : Store}
    (replied : store.Replies own ⟨request, reply⟩ store') : store' = store := by
  cases request with
  | now | log => exact replied
  | _ => exact h.elim

/-- A call that concerns classes and their locks alone. -/
def Knowledge.Call.OfClasses : Knowledge.Call → Prop
  | .isInstalled | .findClass _ | .upsertClass _ | .lockClass _ _ | .unlockClass _ => True
  | .recordText _ _ | .loadSample _ _ | .storeSample _ _ _ => False

theorem Knowledge.Store.sameRest_answer (store : Store) {call : Knowledge.Call}
    (ofClasses : call.OfClasses) : store.SameRest (store.answer call).2 := by
  obtain same | ⟨-, fault, same⟩ := Shared.answer_cases store call
  · rw [same]
    cases call with
    | lockClass queryHash timeout =>
      obtain ⟨fault, held⟩ | ⟨-, taken⟩ := Shared.lockClass_cases store queryHash timeout
      · simp only [Store.reply, held]
        exact ⟨rfl, rfl⟩
      · simp only [Store.reply, taken]
        exact ⟨rfl, rfl⟩
    | isInstalled | findClass | upsertClass | unlockClass => exact ⟨rfl, rfl⟩
    | recordText | loadSample | storeSample => exact ofClasses.elim
  · rw [same]
    exact ⟨rfl, rfl⟩

/-- Stores with the same classes give the same replies and still hold the same classes. -/
theorem Knowledge.Store.SameClasses.answer {store store' : Store} (h : store.SameClasses store')
    {call : Knowledge.Call} (ofClasses : call.OfClasses) :
    (store.answer call).1 = (store'.answer call).1 ∧
      (store.answer call).2.SameClasses (store'.answer call).2 := by
  obtain ⟨installed, classes, locked⟩ := h
  cases call with
  | isInstalled => exact ⟨congrArg Except.ok installed, installed, classes, locked⟩
  | unlockClass queryHash => exact ⟨rfl, installed, classes, congrArg (·.erase queryHash) locked⟩
  | findClass queryHash =>
    unfold Store.answer
    rw [← installed]
    split
    · exact ⟨rfl, installed, classes, locked⟩
    · have found : store.classes.lookup queryHash = store'.classes.lookup queryHash := by
        rw [classes]
      exact ⟨congrArg Except.ok found, installed, classes, locked⟩
  | upsertClass c =>
    unfold Store.answer
    rw [← installed]
    split
    · exact ⟨rfl, installed, classes, locked⟩
    · exact ⟨rfl, installed, congrArg (put c.queryHash c) classes, locked⟩
  | lockClass queryHash timeout =>
    show (store.reply (.lockClass queryHash timeout)).1 =
        (store'.reply (.lockClass queryHash timeout)).1 ∧
      (store.reply (.lockClass queryHash timeout)).2.SameClasses
        (store'.reply (.lockClass queryHash timeout)).2
    simp only [Store.reply, Store.lockClass]
    cases checkTimeout timeout with
    | error fault => exact ⟨rfl, installed, classes, locked⟩
    | ok _ =>
      simp only [bind, Except.bind, ← locked]
      cases store.locked.contains queryHash with
      | true => exact ⟨rfl, installed, classes, locked⟩
      | false => exact ⟨rfl, installed, classes, rfl⟩
  | recordText | loadSample | storeSample => exact ofClasses.elim

namespace Action

variable {α β : Type} {own : List String} {m m' : Scene}

/-- An action is performed with a knowledge base, and leads to a result. -/
def Performs (own : List String) (action : Action α) (m : Scene) (result : Except Fault α)
    (m' : Scene) : Prop :=
  ∃ t, Runs action m.session t result m'.session ∧ m.store.RepliesAll own t m'.store

theorem performs_silent {action : Action α} {r result : Except Fault α} {s' : Session}
    (silent : ∀ t s₁, Runs action m.session t result s₁ ↔ t = [] ∧ result = r ∧ s₁ = s') :
    Performs own action m result m' ↔ result = r ∧ m' = { m with session := s' } := by
  constructor
  · rintro ⟨t, run, replied⟩
    obtain ⟨rfl, same, session⟩ := (silent t _).mp run
    obtain ⟨_, _⟩ := m'
    cases session
    cases replied
    exact ⟨same, rfl⟩
  · rintro ⟨same, rfl⟩
    exact ⟨[], (silent [] _).mpr ⟨rfl, same, rfl⟩, rfl⟩

theorem performs_pure {value : α} {result : Except Fault α} :
    Performs own (pure value) m result m' ↔ result = .ok value ∧ m' = m :=
  performs_silent fun _ _ => runs_pure

theorem performs_throw {fault : Fault} {result : Except Fault α} :
    Performs own (throw fault) m result m' ↔ result = .error fault ∧ m' = m :=
  performs_silent fun _ _ => runs_throw

theorem performs_ofResult {r result : Except Fault α} :
    Performs own (ofResult r) m result m' ↔ result = r ∧ m' = m :=
  performs_silent fun _ _ => runs_ofResult

theorem performs_modify {change : Session → Session} {result : Except Fault PUnit} :
    Performs own (modify change) m result m' ↔
      result = .ok ⟨⟩ ∧ m' = { m with session := change m.session } :=
  performs_silent fun _ _ => runs_modify

theorem performs_bind {action : Action α} {f : α → Action β} {result : Except Fault β} :
    Performs own (action >>= f) m result m' ↔
      (∃ value m₁, Performs own action m (.ok value) m₁ ∧ Performs own (f value) m₁ result m') ∨
      ∃ fault, result = .error fault ∧ Performs own action m (.error fault) m' := by
  constructor
  · rintro ⟨t, run, replied⟩
    obtain ⟨t₁, t₂, value, s₁, rfl, first, later⟩ | ⟨fault, rfl, failed⟩ := runs_bind.mp run
    · obtain ⟨store₁, here, there⟩ := inTurn_append.mp replied
      exact .inl ⟨value, ⟨s₁, store₁⟩, ⟨t₁, first, here⟩, t₂, later, there⟩
    · exact .inr ⟨fault, rfl, t, failed, replied⟩
  · rintro (⟨value, m₁, ⟨t₁, first, here⟩, t₂, later, there⟩ | ⟨fault, rfl, t, failed, replied⟩)
    · exact ⟨t₁ ++ t₂, runs_bind.mpr (.inl ⟨t₁, t₂, value, m₁.session, rfl, first, later⟩),
        inTurn_append.mpr ⟨m₁.store, here, there⟩⟩
    · exact ⟨t, runs_bind.mpr (.inr ⟨fault, rfl, failed⟩), replied⟩

theorem performs_ask {request : Request} {result : Except Fault (Request.Reply request)} :
    Performs own (ask request) m result m' ↔ ∃ reply, result = .ok reply ∧
      m'.session = m.session ∧ m.store.Replies own ⟨request, reply⟩ m'.store := by
  constructor
  · rintro ⟨t, run, replied⟩
    obtain ⟨reply, rfl, same, session⟩ := runs_ask.mp run
    obtain ⟨store₁, here, last⟩ := replied
    cases last
    exact ⟨reply, same, session, here⟩
  · rintro ⟨reply, same, session, replied⟩
    exact ⟨_, runs_ask.mpr ⟨reply, rfl, same, session⟩, m'.store, replied, rfl⟩

/-- A call is answered by the knowledge base. -/
theorem performs_knowledge {call : Knowledge.Call}
    {result : Except Fault (Except Fault call.Reply)} :
    Performs own (knowledge call) m result m' ↔ result = .ok (m.store.answer call).1 ∧
      m' = { m with store := (m.store.answer call).2 } := by
  refine performs_ask.trans ?_
  obtain ⟨s', store'⟩ := m'
  constructor
  · rintro ⟨_, rfl, rfl, rfl, rfl⟩
    exact ⟨rfl, rfl⟩
  · rintro ⟨rfl, same⟩
    cases same
    exact ⟨_, rfl, rfl, rfl, rfl⟩

theorem performs_attempt {action : Action α} {result : Except Fault (Except Fault α)} :
    Performs own (attempt action) m result m' ↔
      ∃ r, result = .ok r ∧ Performs own action m r m' := by
  constructor
  · rintro ⟨t, run, replied⟩
    obtain ⟨r, rfl, tried⟩ := runs_attempt.mp run
    exact ⟨r, rfl, t, tried, replied⟩
  · rintro ⟨r, rfl, t, tried, replied⟩
    exact ⟨t, runs_attempt.mpr ⟨r, rfl, tried⟩, replied⟩

/-- What an action leads to with a knowledge base that answers all calls, if the others always give
the same replies. -/
def performed (others : (request : Request) → request.Reply) (action : Action α) (m : Scene) :
    Except Fault α × Scene :=
  let ((result, session), store) :=
    (action.run.run m.session).run (Store.surroundings others) m.store
  (result, ⟨session, store⟩)

/-- **Actions can always be performed**, whatever the others reply. -/
theorem performs_performed (others : (request : Request) → request.Reply)
    (relations : others .knowledgeRelations = own) (action : Action α) (m : Scene) :
    Performs own action m (performed others action m).1 (performed others action m).2 := by
  have replied {t : List Asked} {store store' : Store}
      (h : Answers (Store.surroundings others) store t store') : store.RepliesAll own t store' := by
    refine h.inTurn fun store request => ?_
    cases request with
    | knowledge call => exact ⟨rfl, rfl⟩
    | knowledgeRelations => exact ⟨relations, rfl⟩
    | _ => rfl
  obtain ⟨t, run, answers⟩ := Program.run_eq_iff.mp
    (Eq.refl ((action.run.run m.session).run (Store.surroundings others) m.store))
  exact ⟨t, run, replied answers⟩

/-! ## Coupled actions -/

/-- Two actions are coupled: performed in scenes that agree, they both succeed with values that are
related, or both fail in the same way, and they leave scenes that agree. The scenes have come from
two given knowledge bases. -/
def Coupled (own : List String) (ground ground' : Store) (R : α → β → Prop) (a : Action α)
    (a' : Action β) : Prop :=
  ∀ ⦃m m' r r' m₁ m₁'⦄, m.AgreeFrom ground ground' m' → Performs own a m r m₁ →
    Performs own a' m' r' m₁' → BothEnd Fault.Alike R r r' ∧ m₁.AgreeFrom ground ground' m₁'

section Coupled

variable {γ δ : Type} {ground ground' : Store} {R : α → β → Prop} {Q : γ → δ → Prop}
  {a : Action α} {a' : Action β}

theorem coupled_pure {value : α} {value' : β} (h : R value value') :
    Coupled own ground ground' R (pure value) (pure value') := by
  intro m m' r r' m₁ m₁' agree run run'
  obtain ⟨rfl, rfl⟩ := performs_pure.mp run
  obtain ⟨rfl, rfl⟩ := performs_pure.mp run'
  exact ⟨.ok h, agree⟩

theorem coupled_throw {fault fault' : Fault} (alike : fault.Alike fault') :
    Coupled own ground ground' R (throw fault : Action α) (throw fault' : Action β) := by
  intro m m' r r' m₁ m₁' agree run run'
  obtain ⟨rfl, rfl⟩ := performs_throw.mp run
  obtain ⟨rfl, rfl⟩ := performs_throw.mp run'
  exact ⟨.error alike, agree⟩

theorem coupled_ofResult {r : Except Fault α} {r' : Except Fault β}
    (h : BothEnd Fault.Alike R r r') :
    Coupled own ground ground' R (ofResult r) (ofResult r') := by
  intro m m' r r' m₁ m₁' agree run run'
  obtain ⟨rfl, rfl⟩ := performs_ofResult.mp run
  obtain ⟨rfl, rfl⟩ := performs_ofResult.mp run'
  exact ⟨h, agree⟩

theorem coupled_given (r : Except Fault α) :
    Coupled own ground ground' Eq (ofResult r) (ofResult r) := by
  apply coupled_ofResult
  cases r with
  | ok value => exact .ok rfl
  | error fault => exact .error (.same fault)

/-- What is read from trees may fail with different words. -/
theorem coupled_ofTree {r : TreeResult α} {r' : TreeResult β}
    (h : BothEnd (fun _ _ => True) R r r') :
    Coupled own ground ground' R (ofTree r) (ofTree r') := by
  apply coupled_ofResult
  cases h with
  | ok related => exact .ok related
  | error => exact .error (.tree _ _)

/-- **Sequences are coupled** if their parts are. -/
theorem Coupled.bind {c : Action γ} {c' : Action δ} {f : γ → Action α} {f' : δ → Action β}
    (h : Coupled own ground ground' Q c c')
    (hf : ∀ value value', Q value value' → Coupled own ground ground' R (f value) (f' value')) :
    Coupled own ground ground' R (c >>= f) (c' >>= f') := by
  intro m m' r r' m₁ m₁' agree run run'
  obtain ⟨value, m₂, first, later⟩ | ⟨fault, rfl, failed⟩ := performs_bind.mp run
  · obtain ⟨value', m₂', first', later'⟩ | ⟨fault', rfl, failed'⟩ := performs_bind.mp run'
    · obtain ⟨ends, agree₂⟩ := h agree first first'
      cases ends with
      | ok related => exact hf value value' related agree₂ later later'
    · obtain ⟨ends, -⟩ := h agree first failed'
      cases ends
  · obtain ⟨value', m₂', first', later'⟩ | ⟨fault', rfl, failed'⟩ := performs_bind.mp run'
    · obtain ⟨ends, -⟩ := h agree failed first'
      cases ends
    · obtain ⟨ends, after⟩ := h agree failed failed'
      cases ends with
      | error alike => exact ⟨.error alike, after⟩

theorem Coupled.ite {c c' : Prop} [Decidable c] [Decidable c'] {b : Action α} {b' : Action β}
    (same : c ↔ c') (ha : Coupled own ground ground' R a a')
    (hb : Coupled own ground ground' R b b') :
    Coupled own ground ground' R (if c then a else b) (if c' then a' else b') := by
  by_cases here : c
  · rw [if_pos here, if_pos (same.mp here)]
    exact ha
  · rw [if_neg here, if_neg (mt same.mpr here)]
    exact hb

/-- What is read of the state are two sessions that agree. -/
theorem Coupled.get_bind {f : Session → Action α} {f' : Session → Action β}
    (h : ∀ s s', s.SameButTimes s' → Coupled own ground ground' R (f s) (f' s')) :
    Coupled own ground ground' R (get >>= f) (get >>= f') := by
  intro m m' r r' m₁ m₁' agree run run'
  obtain ⟨t, run, replied⟩ := run
  obtain ⟨t', run', replied'⟩ := run'
  exact h _ _ agree.session agree ⟨t, runs_get_bind.mp run, replied⟩
    ⟨t', runs_get_bind.mp run', replied'⟩

theorem coupled_modify {change change' : Session → Session}
    (h : ∀ s s', s.SameButTimes s' → (change s).SameButTimes (change' s')) :
    Coupled own ground ground' (fun _ _ => True) (modify change : Action PUnit)
      (modify change' : Action PUnit) := by
  intro m m' r r' m₁ m₁' agree run run'
  obtain ⟨rfl, rfl⟩ := performs_modify.mp run
  obtain ⟨rfl, rfl⟩ := performs_modify.mp run'
  exact ⟨.ok trivial, agree.withSessions (h _ _ agree.session)⟩

/-- A change that has nothing to do with policies is the same on both sides. -/
theorem coupled_modify_aside {change : Session → Session}
    (aside : ∀ s policies, change { s with policies } = { change s with policies })
    (kept : ∀ s, (change s).policies = s.policies) :
    Coupled own ground ground' (fun _ _ => True) (modify change : Action PUnit)
      (modify change : Action PUnit) := by
  apply coupled_modify
  rintro s _ ⟨policies, rfl, times⟩
  refine ⟨policies, aside s policies, fun id => ?_⟩
  rw [kept]
  exact times id

theorem coupled_set {s s' : Session} (same : s.SameButTimes s') :
    Coupled own ground ground' (fun _ _ => True) (set s : Action PUnit)
      (set s' : Action PUnit) := by
  show Coupled own ground ground' _ (modify fun _ => s : Action PUnit)
    (modify fun _ => s' : Action PUnit)
  exact coupled_modify fun _ _ _ => same

theorem Coupled.attempt (h : Coupled own ground ground' R a a') :
    Coupled own ground ground' (BothEnd Fault.Alike R) (attempt a) (attempt a') := by
  intro m m' r r' m₁ m₁' agree run run'
  obtain ⟨r, rfl, tried⟩ := performs_attempt.mp run
  obtain ⟨r', rfl, tried'⟩ := performs_attempt.mp run'
  obtain ⟨ends, after⟩ := h agree tried tried'
  exact ⟨.ok ends, after⟩

/-! ## Coupled requests -/

/-- **Both sides get the same reply** to a call that concerns classes and locks alone. -/
theorem coupled_knowledge (call : Knowledge.Call) (h : call.OfClasses) :
    Coupled own ground ground' Eq (knowledge call) (knowledge call) := by
  intro m m' r r' m₁ m₁' agree run run'
  obtain ⟨rfl, rfl⟩ := performs_knowledge.mp run
  obtain ⟨rfl, rfl⟩ := performs_knowledge.mp run'
  obtain ⟨reply, after⟩ := agree.store.answer h
  exact ⟨.ok reply, agree.withStores after (m.store.sameRest_answer h) (m'.store.sameRest_answer h)⟩

/-- Where the knowledge base is not set up, both sides are told so. -/
theorem coupled_refused (missing : ground.installed = false) (call : Knowledge.Call)
    (h : Store.needsInstallation call = true) :
    Coupled own ground ground' (fun r r' => r = .error (.unavailable .notInstalled) ∧ r' = r)
      (knowledge call) (knowledge call) := by
  intro m m' r r' m₁ m₁' agree run run'
  obtain ⟨rfl, rfl⟩ := performs_knowledge.mp run
  obtain ⟨rfl, rfl⟩ := performs_knowledge.mp run'
  have refused {store : Store} (there : store.installed = false) :
      store.answer call = (.error (.unavailable .notInstalled), store) := by
    rw [Store.answer, h, there]
    rfl
  have there : m.store.installed = false := agree.rest.installed.trans missing
  rw [refused there, refused (agree.store.installed.symm.trans there)]
  exact ⟨.ok ⟨rfl, rfl⟩, agree⟩

theorem coupled_relations :
    Coupled own ground ground' Eq (ask .knowledgeRelations) (ask .knowledgeRelations) := by
  rintro m m' r r' ⟨s₁, store₁⟩ ⟨s₁', store₁'⟩ agree run run'
  obtain ⟨_, rfl, rfl, rfl, rfl⟩ := performs_ask.mp run
  obtain ⟨_, rfl, rfl, rfl, rfl⟩ := performs_ask.mp run'
  exact ⟨.ok rfl, agree⟩

/-- The time may differ, and so may what is logged. -/
theorem coupled_ask (request request' : Request) (h : request.IsPassing) (h' : request'.IsPassing) :
    Coupled own ground ground' (fun _ _ => True) (ask request) (ask request') := by
  rintro m m' r r' ⟨s₁, store₁⟩ ⟨s₁', store₁'⟩ agree run run'
  obtain ⟨_, rfl, rfl, replied⟩ := performs_ask.mp run
  obtain ⟨_, rfl, rfl, replied'⟩ := performs_ask.mp run'
  obtain rfl := h.store replied
  obtain rfl := h'.store replied'
  exact ⟨.ok trivial, agree⟩

/-- What is logged may differ, but not whether anything is. -/
theorem coupled_logClassification (entries entries' : List Value) :
    Coupled own ground ground' (fun _ _ => True) (logClassification entries)
      (logClassification entries') := by
  apply Coupled.get_bind
  rintro s _ ⟨policies, rfl, -⟩
  exact .ite Iff.rfl (coupled_ask (.log _ _) (.log _ _) trivial trivial) (coupled_pure trivial)

/-- **Under the lock of a class**, actions that are coupled stay so. -/
theorem Coupled.withLock (h : Coupled own ground ground' R a a') (queryHash : Int)
    (timeout : Value) : Coupled own ground ground' R (withLock queryHash timeout a)
      (withLock queryHash timeout a') := by
  have call (call : Knowledge.Call) (h : call.OfClasses) : Coupled own ground ground' Eq
      (do ofResult (← knowledge call)) (do ofResult (← knowledge call)) := by
    refine (coupled_knowledge call h).bind ?_
    rintro reply _ rfl
    exact coupled_given reply
  refine (call (.lockClass _ _) trivial).bind fun _ _ _ => h.attempt.bind fun r r' ends => ?_
  exact (call (.unlockClass _) trivial).bind fun _ _ _ => coupled_ofResult ends

end Coupled

end Action

end CardinalityAdvisor
