import CardinalityAdvisor.Proofs.Planning.Hooks
import CardinalityAdvisor.Proofs.Registration.Footprint
import Mathlib.Logic.Relation

/-!
# What planning changes in the knowledge base

A classification changes nothing in the knowledge base but the class and the text of its own query,
and those only from missing to what the mode makes of the class and to the text as it was given.
Hooks ask for samples, and the end of a planning call asks for the time. So planning under a mode
that registers nothing by itself, and without statistics for all queries, never changes the
knowledge base, however calls are nested and whatever fails.

## Main definitions

* `Settings.Passive`: no class is registered under some settings
* `KeptButOwn query mode settings t store store'`: what a classification keeps of a store
* `PlanningStep scene scene'`: one step of planning

## Main results

* `kept_of_classify`: what every classification keeps
* `PlanningStep.store`: one step under passive settings changes nothing
* `knowledge_base_kept`: both of it, for whole runs of planning
-/

namespace CardinalityAdvisor

open CardinalityAdvisor.Action
open Knowledge (Store)

/-! ## Classifications -/

/-- What a classification keeps of a store: all samples, and under each hash the class and the text,
unless the hash is that of the query, classes are registered, and nothing was found under it. Then
the class is the one that the mode makes of the hash, and the text is that of the query. -/
structure KeptButOwn (query : Query) (mode : Mode) (settings : Settings) (t : List Asked)
    (store store' : Store) : Prop where
  samples : store'.samples = store.samples
  classes : ∀ hash, store'.classes.lookup hash = store.classes.lookup hash ∨
    query.classIn t = some hash ∧ settings.Registers mode ∧ store.classes.lookup hash = none ∧
      store'.classes.lookup hash = some (.ofNew hash mode)
  texts : ∀ hash, store'.texts.lookup hash = store.texts.lookup hash ∨
    query.classIn t = some hash ∧ settings.Registers mode ∧ store.texts.lookup hash = none ∧
      ∃ raw, query.text = some raw ∧ store'.texts.lookup hash = some raw

/-- **Every classification** keeps all else than the class of its query, whatever fails. -/
theorem kept_of_classify {query : Query} {mode : Mode} {s s' : Session} {t : List Asked}
    {result : Except Fault Classified} {store store' : Store}
    (known : s.settings.resolvedMode = .ok mode) (run : Runs (classify query) s t result s')
    (handled : store.HandlesAll t store') : KeptButOwn query mode s.settings t store store' := by
  obtain rfl | ⟨own, named, registers, registered⟩ := classify_footprint known run handled
  · exact ⟨rfl, fun _ => .inl rfl, fun _ => .inl rfl⟩
  refine ⟨registered.samples, fun hash => ?_, fun hash => ?_⟩
  · obtain same | ⟨rfl, missing, stored⟩ := registered.lookup_classes hash
    · exact .inl same
    · exact .inr ⟨named, registers, missing, stored⟩
  · obtain same | ⟨rfl, missing, recorded⟩ := registered.lookup_texts hash
    · exact .inl same
    · exact .inr ⟨named, registers, missing, recorded⟩

/-- In disabled mode nothing is looked up, even if statistics or times are collected. -/
theorem spares_classifyHash_disabled (hash : Int) (explained : Bool) (text : Option String) :
    Asks Request.Spares (classifyHash .disabled hash explained text) := by
  have resolve (start : PlanningPolicy) :
      Asks Request.Spares (resolvePolicy .disabled start text) := by
    rw [resolvePolicy_eq]
    exact asks_get.bind fun s => (asks_pure (start.disable, true)).bind (spares_settlePolicy _)
  refine asks_get.bind fun s => .ite ?_ (.ite ?_ ?_)
  · exact (asks_logClassification _).bind fun _ => asks_pure _
  · exact (asks_logClassification _).bind fun _ => asks_pure _
  · refine (asks_logClassification _).bind fun _ => (asks_modify _).bind fun _ => ?_
    exact (resolve _).bind fun _ => asks_pure _

/-- **A classification in disabled mode** asks the knowledge base at most whether it is there. -/
theorem spares_of_disabled {query : Query} {s s' : Session} {t : List Asked}
    {result : Except Fault Classified} (off : s.settings.resolvedMode = .ok .disabled)
    (run : Runs (classify query) s t result s') : ∀ x ∈ t, x.request.Spares := by
  cases Guarded.of_runs run with
  | failed fault failed => exact asks_admission query failed
  | stopped reason exchanges stopped spared =>
    subst exchanges
    exact List.forall_mem_append.mpr ⟨asks_admission query stopped, spared⟩
  | admitted a exchanges admitted goesOn =>
    subst exchanges
    obtain ⟨known, -⟩ := Admission.of_runs admitted
    have disabled : a.mode = .disabled := Except.ok.inj (known.symm.trans off)
    rw [disabled] at goesOn
    refine List.forall_mem_append.mpr ⟨asks_admission query admitted, ?_⟩
    exact spares_classifyHash_disabled _ _ _ goesOn

/-! ## Runs of planning -/

/-- No class is registered under some settings: their mode does not do that by itself, and
statistics are not collected for all queries. -/
structure Settings.Passive (settings : Settings) : Prop where
  mode : ∀ mode, settings.resolvedMode = .ok mode → mode ≠ .intelligent ∧ mode ≠ .learn
  unforced : settings.forcesCollection = false

theorem Settings.Passive.registers {settings : Settings} (h : settings.Passive) {mode : Mode}
    (known : settings.resolvedMode = .ok mode) : ¬ settings.Registers mode := by
  rintro (intelligent | learn | ⟨-, forced⟩)
  · exact (h.mode mode known).1 intelligent
  · exact (h.mode mode known).2 learn
  · rw [h.unforced] at forced
    cases forced

/-- One step of planning. Between the calls and the hooks, anything may happen to the session, so
calls may begin and end in any order, and settings may change, as long as they are passive whenever
a query is classified. -/
inductive PlanningStep : Scene → Scene → Prop
  /-- A planning call begins, or it does not because its query cannot be classified. -/
  | opened {query : Query} {s s' : Session} {t : List Asked} {result : Except Fault PlanningCall}
      {store store' : Store} : s.settings.Passive → Runs (openCall query) s t result s' →
      store.HandlesAll t store' → PlanningStep ⟨s, store⟩ ⟨s', store'⟩
  | closed {call : PlanningCall} {s s' : Session} {t : List Asked} {result : Except Fault Unit}
      {store store' : Store} : Runs (closeCall call) s t result s' → store.HandlesAll t store' →
      PlanningStep ⟨s, store⟩ ⟨s', store'⟩
  | hooked {α : Type} {action : Action α} {s s' : Session} {t : List Asked}
      {result : Except Fault α} {store store' : Store} : HookCall action →
      Runs action s t result s' → store.HandlesAll t store' →
      PlanningStep ⟨s, store⟩ ⟨s', store'⟩
  | elsewhere {s : Session} (s' : Session) {store : Store} : PlanningStep ⟨s, store⟩ ⟨s', store⟩

theorem Request.OfHook.reads {request : Request} (h : request.OfHook) : request.Reads := by
  rintro call rfl
  cases call with
  | loadSample => trivial
  | _ => exact h.elim

/-- The end of a planning call asks at most for the time. -/
theorem reads_closeCall (call : PlanningCall) : Asks Request.Reads (closeCall call) := by
  have popped : Asks Request.Reads popPolicy := by
    refine asks_get.bind fun s => ?_
    split
    · exact (asks_set _).bind fun _ => asks_pure _
    · exact asks_throw _
  have noted : Asks Request.Reads (noteTime call.policy) := by
    refine asks_get.bind fun s => ?_
    split
    · refine Asks.bind (asks_ask ?_) fun _ => asks_modify _
      rintro _ ⟨⟩
    · exact asks_pure _
  refine popped.bind fun _ => ?_
  split
  · exact (asks_modify _).bind fun _ => noted
  · exact noted

/-- A planning call that begins under passive settings changes nothing, and neither does one that
does not begin. -/
theorem store_of_openCall {query : Query} {s s' : Session} {t : List Asked}
    {result : Except Fault PlanningCall} {store store' : Store} (passive : s.settings.Passive)
    (run : Runs (openCall query) s t result s') (handled : store.HandlesAll t store') :
    store' = store := by
  have classified {r : Except Fault Classified} {s₁ : Session}
      (run : Runs (classify query) s t r s₁) : store' = store := by
    cases known : s.settings.resolvedMode with
    | error fault =>
      rw [classify, runs_get_bind, known] at run
      obtain ⟨rfl, -, -⟩ := runs_error_bind.mp run
      exact handled
    | ok mode =>
      obtain same | ⟨_, _, registers, _⟩ := classify_footprint known run handled
      · exact same
      · exact absurd registers (passive.registers known)
  obtain ⟨_, _, begun, -, -⟩ | ⟨_, -, failed⟩ := runs_openCall.mp run
  · exact classified begun
  · exact classified failed

/-- **One step of planning** under passive settings changes nothing in the knowledge base. -/
theorem PlanningStep.store {scene scene' : Scene} (h : PlanningStep scene scene') :
    scene'.store = scene.store := by
  cases h with
  | opened passive run handled => exact store_of_openCall passive run handled
  | closed run handled => exact handled.of_reads (reads_closeCall _ run)
  | hooked call run handled =>
    exact handled.of_reads fun x member => (asks_of_hookCall call run x member).reads
  | elsewhere => rfl

/-- **What planning changes in the knowledge base.** A classification under a known mode keeps all
samples, and all classes and texts but those of the hash of its own query. Under this hash, a class
comes only where there was none, as the mode makes it, and a text where there was none, the text of
the query; and only if the mode registers classes by itself, or if statistics are collected for all
queries in another mode than disabled mode. That holds whatever calls fail. In disabled mode the
knowledge base is at most asked whether it is there. A run of planning calls and hooks under passive
settings changes nothing. -/
theorem knowledge_base_kept :
    (∀ (query : Query) (mode : Mode) (s s' : Session) (t : List Asked)
      (result : Except Fault Classified) (store store' : Store),
      s.settings.resolvedMode = .ok mode → Runs (classify query) s t result s' →
      store.HandlesAll t store' →
      KeptButOwn query mode s.settings t store store' ∧
        (mode = .disabled → ∀ x ∈ t, x.request.Spares)) ∧
    ∀ scene scene', Relation.ReflTransGen PlanningStep scene scene' →
      scene'.store = scene.store := by
  constructor
  · intro query mode s s' t result store store' known run handled
    refine ⟨kept_of_classify known run handled, ?_⟩
    rintro rfl
    exact spares_of_disabled known run
  · intro scene scene' run
    -- The induction is on the run: each step leaves the store as the steps before it did.
    induction run with
    | refl => rfl
    | tail _ step ih => rw [step.store, ih]

/-- How the classification of a query without conditions ends, with nothing stored before. -/
def learned : (Except Fault Classified × Session) × Store :=
  ((classify (bareQuery .select)).run.run learning).run (Store.surroundings nothingStored) {}

/-- A class is stored as the mode makes it. Then a query of it is planned in controlled mode, which
leaves it as it is. -/
theorem knowledge_base_kept_learned :
    ∃ t, Runs (classify (bareQuery .select)) learning t learned.1.1 learned.1.2 ∧
      ({} : Store).HandlesAll t learned.2 ∧
      learned.2.classes.lookup bareHash = some (.ofNew bareHash .learn) ∧
      ∃ scene, Relation.ReflTransGen PlanningStep ⟨controlling, learned.2⟩ scene ∧
        scene.session.calls ≠ [] ∧ scene.store = learned.2 := by
  obtain ⟨classifications, runs⟩ := knowledge_base_kept
  obtain ⟨t, run, handled⟩ :=
    exists_handled nothingStored (classify (bareQuery .select)) learning {}
  obtain ⟨kept, -⟩ := classifications _ .learn _ _ _ _ _ _ rfl run handled
  have found : (learned.2.classes.lookup bareHash).isSome = true := by decide +kernel
  have stored : learned.2.classes.lookup bareHash = some (.ofNew bareHash .learn) := by
    obtain same | ⟨-, -, -, stored⟩ := kept.classes bareHash
    · change learned.2.classes.lookup bareHash = none at same
      rw [same] at found
      cases found
    · exact stored
  obtain ⟨t', opening, handled'⟩ :=
    exists_handled nothingStored (openCall (bareQuery .select)) controlling learned.2
  have passive : controlling.settings.Passive := by
    refine ⟨?_, rfl⟩
    rintro mode ⟨⟩
    decide
  have begun : ((((openCall (bareQuery .select)).run.run controlling).run
      (Store.surroundings nothingStored) learned.2).1.2).calls ≠ [] := by decide +kernel
  have planned := Relation.ReflTransGen.single (PlanningStep.opened passive opening handled')
  exact ⟨t, run, handled, stored, _, planned, begun, runs _ _ planned⟩

end CardinalityAdvisor
