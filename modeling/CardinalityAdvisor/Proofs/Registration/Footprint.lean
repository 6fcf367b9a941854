import CardinalityAdvisor.Proofs.Knowledge.Exchanges
import CardinalityAdvisor.Proofs.Session.Admission

/-!
# What a classification changes in the knowledge base

A classification changes the knowledge base only where it registers the class of its query. The
class is stored as the mode alone makes it: that statistics are collected for all queries is added
to the policy of the call later, and is not stored. What is stored under other hashes stays, and so
do a class and a text that are there already, whatever fails on the way.

## Main definitions

* `QueryClass.ofNew`: the class that a mode makes of a hash that is not stored
* `Settings.Registers settings mode`: whether classes that are not stored are registered
* `Registered c text store store'`: at most a class and a text came to a store
* `Footprint registers c text store store'`: nothing changed, or classes are registered and this one
  was
* `AskedByLookUp settings mode start text t`: a look-up is all of some exchanges that concerns what
  is stored

## Main results

* `affects_registerClass`: what a registration does, whatever fails
* `askedByLookUp_of_classify`: what a classification asks about what is stored
* `classify_footprint`: what a classification does
-/

namespace CardinalityAdvisor

open CardinalityAdvisor.Action
open Knowledge (Store)

/-- The class that a mode makes of a hash that is not stored. -/
def QueryClass.ofNew (hash : Int) (mode : Mode) : QueryClass :=
  let flags := ClassFlags.ofNew hash mode
  ⟨hash, flags.spaceHash, flags.usePrediction, flags.learn, flags.autoTune, flags.collectStat⟩

/-- Whether classes that are not stored are registered: two modes do that by themselves, and the
others, but for disabled mode, if statistics are collected for all queries. -/
def Settings.Registers (settings : Settings) (mode : Mode) : Prop :=
  mode = .intelligent ∨ mode = .learn ∨ mode ≠ .disabled ∧ settings.forcesCollection = true

theorem ClassFlags.ofNew_persist (hash : Int) (mode : Mode) :
    (ofNew hash mode).persist = true ↔ mode = .intelligent ∨ mode = .learn := by
  cases mode with
  | intelligent | learn => simp [ofNew]
  | disabled | forced | controlled | frozen => simp [ofNew]

/-! ## Stores to which a class came -/

/-- At most a class and the text of a query came to a store, each only if there was none. Locks do
not count. -/
structure Registered (c : QueryClass) (text : Option String) (store store' : Store) : Prop where
  samples : store'.samples = store.samples
  classes : store'.classes = store.classes ∨
    store.classes.lookup c.queryHash = none ∧ store'.classes = put c.queryHash c store.classes
  texts : store'.texts = store.texts ∨ ∃ raw, text = some raw ∧
    store.texts.lookup c.queryHash = none ∧ store'.texts = put c.queryHash raw store.texts

namespace Registered

variable {c : QueryClass} {text : Option String}

instance : Std.Refl (Registered c text) := ⟨fun _ => ⟨rfl, .inl rfl, .inl rfl⟩⟩

/-- What came is there from then on, so it does not come again. -/
instance : IsTrans Store (Registered c text) where
  trans store store₁ store' h h' := by
    refine ⟨h'.samples.trans h.samples, ?_, ?_⟩
    · rcases h.classes with same | ⟨missing, stored⟩
      · rw [← same]
        exact h'.classes
      · rcases h'.classes with same | ⟨none, -⟩
        · exact .inr ⟨missing, same.trans stored⟩
        · rw [stored, lookup_put, if_pos rfl] at none
          cases none
    · rcases h.texts with same | ⟨raw, given, missing, recorded⟩
      · rw [← same]
        exact h'.texts
      · rcases h'.texts with same | ⟨_, -, none, -⟩
        · exact .inr ⟨raw, given, missing, same.trans recorded⟩
        · rw [recorded, lookup_put, if_pos rfl] at none
          cases none

theorem of_locked (store : Store) (locked : List Int) :
    Registered c text store { store with locked } := ⟨rfl, .inl rfl, .inl rfl⟩

theorem putClass {store : Store} (missing : store.classes.lookup c.queryHash = none) :
    Registered c text store (store.putClass c) := ⟨rfl, .inr ⟨missing, rfl⟩, .inl rfl⟩

theorem recordText (store : Store) {raw : String} (given : text = some raw) :
    Registered c text store (store.recordText c.queryHash raw) := by
  unfold Store.recordText
  split
  · exact refl_of _ store
  · rename_i missing
    rw [Option.not_isSome_iff_eq_none] at missing
    exact ⟨rfl, .inl rfl, .inr ⟨raw, given, missing, rfl⟩⟩

/-- A class is found as before, or it is the one that came. -/
theorem lookup_classes {store store' : Store} (h : Registered c text store store') (hash : Int) :
    store'.classes.lookup hash = store.classes.lookup hash ∨
      hash = c.queryHash ∧ store.classes.lookup hash = none ∧
        store'.classes.lookup hash = some c := by
  rcases h.classes with same | ⟨missing, stored⟩
  · exact .inl (by rw [same])
  · rw [stored, lookup_put]
    split
    · rename_i own
      rw [own]
      exact .inr ⟨rfl, missing, rfl⟩
    · exact .inl rfl

/-- A text is found as before, or it is the one that came. -/
theorem lookup_texts {store store' : Store} (h : Registered c text store store') (hash : Int) :
    store'.texts.lookup hash = store.texts.lookup hash ∨
      hash = c.queryHash ∧ store.texts.lookup hash = none ∧
        ∃ raw, text = some raw ∧ store'.texts.lookup hash = some raw := by
  rcases h.texts with same | ⟨raw, given, missing, recorded⟩
  · exact .inl (by rw [same])
  · rw [recorded, lookup_put]
    split
    · rename_i own
      rw [own]
      exact .inr ⟨rfl, missing, raw, given, rfl⟩
    · exact .inl rfl

end Registered

/-- Nothing changed, or classes are registered and this one was. -/
def Footprint (registers : Prop) (c : QueryClass) (text : Option String)
    (store store' : Store) : Prop :=
  store' = store ∨ registers ∧ Registered c text store store'

namespace Footprint

variable {registers : Prop} {c : QueryClass} {text : Option String}

instance : Std.Refl (Footprint registers c text) := ⟨fun _ => .inl rfl⟩

instance : IsTrans Store (Footprint registers c text) where
  trans store store₁ store' h h' := by
    rcases h with rfl | ⟨allowed, first⟩
    · exact h'
    · rcases h' with rfl | ⟨-, second⟩
      · exact .inr ⟨allowed, first⟩
      · exact .inr ⟨allowed, trans_of _ first second⟩

end Footprint

/-! ## The registration of a class -/

theorem reads_logClassification (entries : List Value) :
    Asks Request.Reads (logClassification entries) :=
  (asks_logClassification entries).mono fun _ => Request.Spares.reads

theorem affects_recordAnyText (c : QueryClass) (text : Option String) :
    Affects (Registered c text) (recordAnyText c.queryHash text) := by
  cases text with
  | none => exact affects_of_reads (asks_pure ())
  | some raw =>
    apply affects_call
    intro reply store store' handled
    obtain rfl | rfl := handled.effect
    · exact refl_of _ _
    · exact Registered.recordText store rfl

/-- **Under the lock**, a class that is found missing is stored, and then its text is recorded. A
class that is found is left alone. -/
theorem affects_registerUnderLock (policy : PlanningPolicy) (text : Option String) :
    Affects (Registered policy.queryClass text) (registerUnderLock policy text) := by
  intro s t result s' store store' run handled
  obtain ⟨reply, rest, rfl, goesOn⟩ := runs_knowledge_bind.mp run
  obtain ⟨store₁, asked, later⟩ := handled
  have kept : store₁ = store := by
    apply asked.of_reads
    rintro _ ⟨⟩
    trivial
  obtain ⟨found, rfl, goesOn⟩ | ⟨fault, -, rfl, -, -⟩ := runs_ofResult_bind.mp goesOn
  swap
  · obtain rfl : store' = store₁ := later
    rw [kept]
    exact refl_of _ _
  have answered : store.classes.lookup policy.queryHash = found :=
    Except.ok.inj (congrArg Prod.fst asked.answer_eq)
  rw [kept] at later
  cases found with
  | some stored => exact affects_recordAnyText policy.queryClass text goesOn later
  | none =>
    -- Nobody else uses the store, so what was missing a moment ago is missing now.
    change Runs (do
      ofResult (← knowledge (.upsertClass policy.queryClass))
      logClassification [.text "Registered query class", .int policy.queryHash]
      recordAnyText policy.queryHash text) s rest result s' at goesOn
    obtain ⟨reply, last, rfl, finishing⟩ := runs_knowledge_bind.mp goesOn
    obtain ⟨store₂, upserted, finished⟩ := later
    have stored : Registered policy.queryClass text store store₂ := by
      obtain rfl | rfl := upserted.effect
      · exact refl_of _ _
      · exact Registered.putClass answered
    have finish : Affects (Registered policy.queryClass text) (do
        ofResult reply
        logClassification [.text "Registered query class", .int policy.queryHash]
        recordAnyText policy.queryHash text) := by
      refine (affects_of_reads (asks_ofResult _)).bind fun _ => ?_
      refine (affects_of_reads (reads_logClassification _)).bind fun _ => ?_
      exact affects_recordAnyText policy.queryClass text
    exact trans_of _ stored (finish finishing finished)

/-- **A registration** stores at most its class and its text, whatever fails. -/
theorem affects_registerClass (policy : PlanningPolicy) (text : Option String) :
    Affects (Registered policy.queryClass text) (registerClass policy text) := by
  refine (affects_of_reads asks_get).bind fun s => ?_
  have locked := (affects_registerUnderLock policy text).withLock Registered.of_locked
    policy.queryHash s.settings.lockTimeout
  refine locked.attempt.bind fun r => ?_
  split
  · exact affects_of_reads (asks_pure _)
  · refine affects_of_reads ?_
    exact (reads_logClassification _).bind fun _ => asks_pure _
  · exact affects_of_reads (asks_throw _)

/-! ## The policy of a class -/

/-- A look-up registers the class that it does not find, if the mode or the settings want it. -/
theorem lookUpPolicy_footprint {mode : Mode} {start : PlanningPolicy} {text : Option String}
    {s s' : Session} {t : List Asked} {found : Except Fault (PlanningPolicy × Bool)}
    {store store' : Store} (on : mode ≠ .disabled)
    (run : Runs (lookUpPolicy mode start text) s t found s') (handled : store.HandlesAll t store') :
    Footprint (s.settings.Registers mode) (start.underMode mode none).queryClass text
      store store' := by
  rw [lookUpPolicy, runs_get_bind] at run
  refine Affects.bind (affects_of_reads (asks_ask ?_)) (fun reply => ?_) run handled
  · rintro _ ⟨⟩
    trivial
  show Affects _ _
  split
  · exact affects_of_reads ((reads_logClassification _).bind fun _ => asks_pure _)
  · exact affects_of_reads (asks_throw _)
  rename_i stored
  have idle : Asks Request.Reads
      (deactivateIfIdle start.queryHash stored s.settings.forcesCollection) :=
    .ite ((reads_logClassification _).bind fun _ => asks_modify _) (asks_pure _)
  refine (affects_of_reads idle).bind fun _ => ?_
  cases stored with
  | some c => exact affects_of_reads (asks_pure _)
  | none =>
    dsimp only
    split
    · rename_i wanted
      have registers : s.settings.Registers mode := by
        rw [Option.isNone_none, Bool.true_and, Bool.or_eq_true] at wanted
        rcases wanted with persist | forced
        · exact ((ClassFlags.ofNew_persist start.queryHash mode).mp persist).imp_right .inl
        · exact .inr (.inr ⟨on, forced⟩)
      refine Affects.bind (fun s t result s' store store' run handled => ?_) fun _ => ?_
      · exact .inr ⟨registers, affects_registerClass _ _ run handled⟩
      · exact affects_of_reads (.ite (asks_pure _) (asks_pure _))
    · exact affects_of_reads (asks_pure _)

theorem spares_settlePolicy (settings : Settings) (found : PlanningPolicy × Bool) :
    Asks Request.Spares (settlePolicy settings found) := by
  have now : Asks Request.Spares (Action.ask .now) := by
    apply asks_ask
    rintro _ ⟨⟩
  have stamped (timed : Bool) (policy : PlanningPolicy) : Asks Request.Spares (do
      if timed then return { policy with start := some (← Action.ask .now) }
      else return policy) := .ite (now.bind fun _ => asks_pure _) (asks_pure _)
  refine .ite (asks_pure _) ((asks_logClassification _).bind fun _ => ?_)
  exact .ite ((asks_ofResult _).bind fun timed => stamped timed _)
    ((asks_pure _).bind fun timed => stamped timed _)

/-! ## The whole classification -/

/-- Some exchanges are those of a look-up, but for some before it and after it that do not concern
what is stored. In disabled mode nothing is looked up. -/
def AskedByLookUp (settings : Settings) (mode : Mode) (start : PlanningPolicy)
    (text : Option String) (t : List Asked) : Prop :=
  mode ≠ .disabled ∧ ∃ before part after s found s', t = before ++ (part ++ after) ∧
    (∀ x ∈ before, x.request.Spares) ∧ (∀ x ∈ after, x.request.Spares) ∧
    s.settings = settings ∧ Runs (lookUpPolicy mode start text) s part found s'

namespace AskedByLookUp

variable {settings : Settings} {mode : Mode} {start : PlanningPolicy} {text : Option String}
  {t : List Asked}

theorem prepend (h : AskedByLookUp settings mode start text t) {early : List Asked}
    (spared : ∀ x ∈ early, x.request.Spares) :
    AskedByLookUp settings mode start text (early ++ t) := by
  obtain ⟨on, before, part, after, s, found, s', rfl, first, last, same, run⟩ := h
  refine ⟨on, early ++ before, part, after, s, found, s', ?_, ?_, last, same, run⟩
  · rw [List.append_assoc]
  · exact List.forall_mem_append.mpr ⟨spared, first⟩

theorem append (h : AskedByLookUp settings mode start text t) {late : List Asked}
    (spared : ∀ x ∈ late, x.request.Spares) :
    AskedByLookUp settings mode start text (t ++ late) := by
  obtain ⟨on, before, part, after, s, found, s', rfl, first, last, same, run⟩ := h
  refine ⟨on, before, part, after ++ late, s, found, s', ?_, first, ?_, same, run⟩
  · simp only [List.append_assoc]
  · exact List.forall_mem_append.mpr ⟨last, spared⟩

end AskedByLookUp

theorem askedByLookUp_of_resolvePolicy {mode : Mode} {start : PlanningPolicy}
    {text : Option String} {s s' : Session} {t : List Asked}
    {result : Except Fault PlanningPolicy}
    (run : Runs (resolvePolicy mode start text) s t result s') :
    (∀ x ∈ t, x.request.Spares) ∨ AskedByLookUp s.settings mode start text t := by
  rw [resolvePolicy_eq, runs_get_bind] at run
  split at run
  · rw [runs_pure_bind] at run
    exact .inl (spares_settlePolicy _ _ run)
  rename_i on
  have looking {part : List Asked} {found : Except Fault (PlanningPolicy × Bool)} {s₁ : Session}
      (lookUp : Runs (lookUpPolicy mode start text) s part found s₁) :
      AskedByLookUp s.settings mode start text part :=
    ⟨on, [], part, [], s, found, s₁, by simp, by simp, by simp, rfl, lookUp⟩
  obtain ⟨part, rest, found, s₁, rfl, lookUp, settle⟩ | ⟨_, -, failed⟩ := runs_bind.mp run
  · exact .inr ((looking lookUp).append (spares_settlePolicy _ _ settle))
  · exact .inr (looking failed)

theorem askedByLookUp_of_classifyHash {mode : Mode} {hash : Int} {explained : Bool}
    {text : Option String} {s s' : Session} {t : List Asked} {result : Except Fault Classified}
    (run : Runs (classifyHash mode hash explained text) s t result s') :
    (∀ x ∈ t, x.request.Spares) ∨ AskedByLookUp s.settings mode
      { queryHash := hash, spaceHash := hash, explainOnly := explained } text t := by
  have passedOver {entries : List Value} {t : List Asked} (run : Runs (do
      logClassification entries
      return .passedOver hash) s t result s') : ∀ x ∈ t, x.request.Spares :=
    (asks_logClassification _).bind (fun _ => asks_pure _) run
  rw [classifyHash, runs_get_bind] at run
  split at run
  · exact .inl (passedOver run)
  split at run
  · exact .inl (passedOver run)
  obtain ⟨early, rest, _, s₁, rfl, logged, goesOn⟩ | ⟨_, -, failed⟩ := runs_bind.mp run
  swap
  · exact .inl (asks_logClassification _ failed)
  obtain rfl : s = s₁ := within_logClassification _ logged
  have spared := asks_logClassification _ logged
  rw [runs_modify_bind] at goesOn
  suffices resolved : (∀ x ∈ rest, x.request.Spares) ∨ AskedByLookUp s.settings mode
      { queryHash := hash, spaceHash := hash, explainOnly := explained } text rest from
    resolved.imp (fun none => List.forall_mem_append.mpr ⟨spared, none⟩) (·.prepend spared)
  obtain ⟨part, _, policy, _, rfl, resolve, last⟩ | ⟨_, -, failed⟩ := runs_bind.mp goesOn
  · obtain ⟨rfl, -, -⟩ := runs_pure.mp last
    rw [List.append_nil]
    have asked := askedByLookUp_of_resolvePolicy resolve
    exact asked
  · have asked := askedByLookUp_of_resolvePolicy failed
    exact asked

/-- **What a classification asks** about what is stored is asked by the look-up of the class of its
query. -/
theorem askedByLookUp_of_classify {query : Query} {s s' : Session} {t : List Asked}
    {result : Except Fault Classified} (run : Runs (classify query) s t result s') :
    (∀ x ∈ t, x.request.Spares) ∨ ∃ mode hash explained, s.settings.resolvedMode = .ok mode ∧
      query.classIn t = some hash ∧ AskedByLookUp s.settings mode
        { queryHash := hash, spaceHash := hash, explainOnly := explained } query.text t := by
  cases Guarded.of_runs run with
  | failed fault failed => exact .inl (asks_admission query failed)
  | stopped reason exchanges stopped spared =>
    subst exchanges
    exact .inl (List.forall_mem_append.mpr ⟨asks_admission query stopped, spared⟩)
  | admitted a exchanges admitted goesOn =>
    subst exchanges
    have spared := asks_admission query admitted
    obtain ⟨resolved, -⟩ := Admission.of_runs admitted
    have checked : SameButChecked s _ := within_admission query admitted
    obtain none | asked := askedByLookUp_of_classifyHash goesOn
    · exact .inl (List.forall_mem_append.mpr ⟨spared, none⟩)
    · rw [checked.settings] at asked
      exact .inr ⟨a.mode, a.hash, a.explained, resolved, Admission.classIn rfl admitted,
        asked.prepend spared⟩

/-- **A classification** leaves the knowledge base as it is, or it registers the class of its query
as the mode makes it. -/
theorem classify_footprint {query : Query} {mode : Mode} {s s' : Session} {t : List Asked}
    {result : Except Fault Classified} {store store' : Store}
    (known : s.settings.resolvedMode = .ok mode) (run : Runs (classify query) s t result s')
    (handled : store.HandlesAll t store') :
    store' = store ∨ ∃ hash, query.classIn t = some hash ∧ s.settings.Registers mode ∧
      Registered (.ofNew hash mode) query.text store store' := by
  obtain spared | ⟨_, hash, explained, resolved, named, on, asked⟩ := askedByLookUp_of_classify run
  · exact .inl (handled.of_reads fun x member => (spared x member).reads)
  obtain ⟨before, part, after, s₁, found, s₂, exchanges, first, last, settings, lookUp⟩ := asked
  obtain rfl := Except.ok.inj (resolved.symm.trans known)
  rw [exchanges] at handled
  obtain ⟨store₁, early, handled⟩ := inTurn_append.mp handled
  obtain ⟨store₂, handled, late⟩ := inTurn_append.mp handled
  obtain rfl := Store.HandlesAll.of_reads early fun x member => (first x member).reads
  obtain rfl := Store.HandlesAll.of_reads late fun x member => (last x member).reads
  obtain same | ⟨registers, registered⟩ := lookUpPolicy_footprint on lookUp handled
  · exact .inl same
  · rw [settings] at registers
    exact .inr ⟨hash, named, registers, registered⟩

end CardinalityAdvisor
