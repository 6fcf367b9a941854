import CardinalityAdvisor.Proofs.Registration.Footprint
import CardinalityAdvisor.Proofs.Session.LookUp
import Mathlib.Logic.Relation

/-!
# Whether a registration is all or nothing

A registration stores a class and then the text of its query. Each call can be refused, and a call
that is refused has no effect. A registration that succeeds has stored both. One that is reported as
failed has stored neither, unless the class was stored before something else was refused: the text,
which is then missing, or the return of the lock, when nothing is missing at all. A class that was
left behind like that is found by the queries that come later, so none of them registers it again,
and a text that is missing stays missing.

## Main definitions

* `Knowledge.Store.Meets store x store'`, `MeetsAll`: what exchanges do to a store, if what is
  refused has no effect
* `Knowledge.Store.register store c text`: the store after a class was registered with a text
* `SameButLocked store store'`: all that is stored is the same
* `UnderLock`, `Registration c text store t result store'`: how the registration of a missing class
  can end, under its lock and as a whole
* `Classifies store store'`: a classification leads from one store to another

## Main results

* `Registration.of_runs`: these are all the ways that there are
* `Classifies.kept`: a class that is stored stays as it is, with its text or without
* `registration_complete_or_reported`: what a registration has stored, by what it reports
-/

namespace CardinalityAdvisor

open CardinalityAdvisor.Action
open Knowledge (Store)

/-! ## Calls that are refused without effect -/

namespace Knowledge.Store

/-- What an exchange does to a store. A call is answered, or it is refused as if it had not been
made. All other requests do nothing. -/
inductive Meets (store : Store) : Asked → Store → Prop
  | answered (call : Call) :
      Meets store ⟨.knowledge call, (store.answer call).1⟩ (store.answer call).2
  | refused (call : Call) (cause : Unavailability) :
      Meets store ⟨.knowledge call, .error (.unavailable cause)⟩ store
  | other (x : Asked) : x.request.IsElsewhere → Meets store x store

/-- What some exchanges do to a store, one after the other. -/
abbrev MeetsAll : Store → List Asked → Store → Prop := InTurn Meets

variable {store store' : Store}

theorem Meets.handles {x : Asked} (h : store.Meets x store') : store.Handles x store' := by
  cases h with
  | answered call => exact .answered call
  | refused call cause => exact .failed call _ (.inl rfl)
  | other x elsewhere => exact .other x elsewhere

theorem MeetsAll.handlesAll {t : List Asked} (h : store.MeetsAll t store') :
    store.HandlesAll t store' := h.mono fun _ _ _ => Meets.handles

/-- A call that fails has no effect. -/
theorem Meets.of_error {call : Call} {fault : Fault}
    (h : store.Meets ⟨.knowledge call, .error fault⟩ store') : store' = store := by
  generalize asked : (⟨.knowledge call, .error fault⟩ : Asked) = x at h
  cases h with
  | refused => rfl
  | other => rfl
  | answered other =>
    obtain same | ⟨-, _, same⟩ := Shared.answer_cases store other
    · rw [same] at asked ⊢
      obtain ⟨request, failed⟩ := Exchange.mk.inj asked
      cases request
      cases call with
      | lockClass hash timeout =>
        obtain ⟨_, free⟩ | ⟨-, free⟩ := Shared.lockClass_cases store hash timeout
        · simp only [reply, free]
        · simp only [reply, free] at failed
          cases eq_of_heq failed
      | _ => cases eq_of_heq failed
    · rw [same]

/-- Surroundings with a store that answers all calls but those that are refused. All other requests
always get the same replies. -/
def refusing (refuses : Call → Bool) (others : (request : Request) → request.Reply) :
    (request : Request) → Store → request.Reply × Store
  | .knowledge call, store =>
    if refuses call then (.error (.unavailable (.refused "call")), store) else store.answer call
  | request, store => (others request, store)

theorem MeetsAll.of_answers {refuses : Call → Bool} {others : (request : Request) → request.Reply}
    {t : List Asked} (h : Answers (refusing refuses others) store t store') :
    store.MeetsAll t store' := by
  refine h.inTurn fun store request => ?_
  cases request with
  | knowledge call =>
    simp only [refusing]
    split
    · exact .refused call _
    · exact .answered call
  | _ => exact .other _ nofun

/-- The store after a class was registered with the text of its query. -/
def register (store : Store) (c : QueryClass) : Option String → Store
  | some raw => (store.putClass c).recordText c.queryHash raw
  | none => store.putClass c

end Knowledge.Store

/-! ## Stores up to their locks -/

/-- All that is stored is the same, whatever locks are held. -/
def SameButLocked (store store' : Store) : Prop :=
  store' = { store with locked := store'.locked }

namespace SameButLocked

variable {store store₁ store' : Store}

theorem trans (h : SameButLocked store store₁) (h' : SameButLocked store₁ store') :
    SameButLocked store store' := by
  unfold SameButLocked at h h' ⊢
  rw [h', h]

theorem putClass (h : SameButLocked store store') (c : QueryClass) :
    SameButLocked (store.putClass c) (store'.putClass c) := by
  unfold SameButLocked at h ⊢
  rw [h]
  rfl

theorem recordText (h : SameButLocked store store') (hash : Int) (raw : String) :
    SameButLocked (store.recordText hash raw) (store'.recordText hash raw) := by
  unfold SameButLocked at h ⊢
  rw [h]
  unfold Store.recordText
  split <;> rfl

theorem register (h : SameButLocked store store') (c : QueryClass) (text : Option String) :
    SameButLocked (store.register c text) (store'.register c text) := by
  cases text with
  | none => exact h.putClass c
  | some raw => exact (h.putClass c).recordText c.queryHash raw

end SameButLocked

/-! ## Under the lock -/

/-- What comes after a line of the log meets the same store. -/
theorem meets_logged {α : Type} {entries : List Value} {f : Unit → Action α} {s s' : Session}
    {t : List Asked} {r : Except Fault α} {store store' : Store}
    (run : Runs (logClassification entries >>= f) s t r s') (met : store.MeetsAll t store') :
    ∃ rest ⊆ t, Runs (f ()) s rest r s' ∧ store.MeetsAll rest store' := by
  obtain ⟨t₁, t₂, _, s₁, rfl, logged, goesOn⟩ | ⟨_, -, failed⟩ := runs_bind.mp run
  · obtain rfl : s = s₁ := within_logClassification _ logged
    obtain ⟨store₁, first, last⟩ := inTurn_append.mp met
    obtain rfl := (Store.MeetsAll.handlesAll first).of_reads (reads_logClassification _ logged)
    exact ⟨t₂, List.subset_append_right _ _, goesOn, last⟩
  · exact (failsWith_logClassification (A := fun _ => True) (P := fun _ => False) entries failed
      fun _ _ => trivial).elim

/-- How the registration of a missing class can end under its lock, with what is stored then. -/
inductive UnderLock (c : QueryClass) (text : Option String) (store : Store) (t : List Asked) :
    Except Fault Unit → Store → Prop
  /-- The class and the text are stored. -/
  | complete : ⟨.knowledge (.upsertClass c), .ok ()⟩ ∈ t →
      UnderLock c text store t (.ok ()) (store.register c text)
  /-- The class is not stored. -/
  | undone (fault : Fault) : ⟨.knowledge (.upsertClass c), .ok ()⟩ ∉ t →
      UnderLock c text store t (.error fault) store
  /-- The class is stored, and the text is refused. -/
  | halved {raw : String} (fault : Fault) : text = some raw →
      ⟨.knowledge (.upsertClass c), .ok ()⟩ ∈ t →
      ⟨.knowledge (.recordText c.queryHash raw), .error fault⟩ ∈ t →
      UnderLock c text store t (.error fault) (store.putClass c)

theorem UnderLock.of_runs {policy : PlanningPolicy} {text : Option String} {s s' : Session}
    {t : List Asked} {r : Except Fault Unit} {store store' : Store}
    (missing : store.classes.lookup policy.queryHash = none)
    (run : Runs (registerUnderLock policy text) s t r s') (met : store.MeetsAll t store') :
    UnderLock policy.queryClass text store t r store' := by
  obtain ⟨looked, rest, rfl, goesOn⟩ := runs_knowledge_bind.mp run
  obtain ⟨store₁, asked, later⟩ := met
  obtain ⟨found, rfl, goesOn⟩ | ⟨fault, rfl, rfl, rfl, -⟩ := runs_ofResult_bind.mp goesOn
  swap
  · obtain rfl := asked.of_error
    obtain rfl : store' = store₁ := later
    exact .undone fault (by simp)
  have answered := asked.handles.answer_eq
  obtain rfl : store = store₁ := congrArg Prod.snd answered
  obtain rfl : none = found := missing.symm.trans (Except.ok.inj (congrArg Prod.fst answered))
  change Runs (do
    ofResult (← knowledge (.upsertClass policy.queryClass))
    logClassification [.text "Registered query class", .int policy.queryHash]
    recordAnyText policy.queryHash text) s rest r s' at goesOn
  obtain ⟨upserted, rest, rfl, storing⟩ := runs_knowledge_bind.mp goesOn
  obtain ⟨store₂, asked, later⟩ := later
  obtain ⟨_, rfl, stored⟩ | ⟨fault, rfl, rfl, rfl, -⟩ := runs_ofResult_bind.mp storing
  swap
  · obtain rfl := asked.of_error
    obtain rfl : store' = store₂ := later
    exact .undone fault (by simp)
  obtain rfl : store.putClass policy.queryClass = store₂ :=
    congrArg Prod.snd asked.handles.answer_eq
  obtain ⟨part, within, recording, last⟩ := meets_logged stored later
  cases text with
  | none =>
    obtain ⟨rfl, rfl, -⟩ := runs_pure.mp recording
    obtain rfl : store' = store.putClass policy.queryClass := last
    exact .complete (by simp)
  | some raw =>
    obtain ⟨recorded, _, rfl, ending⟩ := runs_knowledge_bind.mp recording
    obtain ⟨rfl, rfl, -⟩ := runs_ofResult.mp ending
    obtain ⟨store₂, asked, rfl⟩ := last
    cases r with
    | ok _ =>
      obtain rfl := congrArg Prod.snd asked.handles.answer_eq
      exact .complete (by simp)
    | error fault =>
      obtain rfl := asked.of_error
      have recorded := within List.mem_cons_self
      exact .halved fault rfl (by simp)
        (List.mem_cons_of_mem _ (List.mem_cons_of_mem _ recorded))

/-! ## The whole registration -/

/-- Taking a lock changes nothing that is stored. -/
theorem sameButLocked_of_lock {hash : Int} {timeout : Value} {store store' : Store}
    {reply : Except Fault Unit}
    (met : store.Meets ⟨.knowledge (.lockClass hash timeout), reply⟩ store') :
    SameButLocked store store' := by
  obtain rfl | rfl := met.handles.effect
  · rfl
  · obtain ⟨_, refused⟩ | ⟨-, granted⟩ := Shared.lockClass_cases store hash timeout
    · simp only [Store.reply, refused]
      rfl
    · simp only [Store.reply, granted]
      rfl

/-- Giving a lock back changes nothing that is stored. -/
theorem sameButLocked_of_unlock {hash : Int} {store store' : Store} {reply : Except Fault Unit}
    (met : store.Meets ⟨.knowledge (.unlockClass hash), reply⟩ store') :
    SameButLocked store store' := by
  obtain rfl | rfl := met.handles.effect
  · rfl
  · rfl

/-- An action under a lock does not run at all, or it runs while the lock is held, and then the lock
is given back. -/
theorem meets_withLock {α : Type} {action : Action α} {hash : Int} {timeout : Value}
    {s s' : Session} {t : List Asked} {r : Except Fault α} {store store' : Store}
    (run : Runs (withLock hash timeout action) s t r s') (met : store.MeetsAll t store') :
    (∃ fault, r = .error fault ∧ t = [⟨.knowledge (.lockClass hash timeout), .error fault⟩] ∧
      SameButLocked store store') ∨
    ∃ part result returned s₁ store₁ store₂,
      t = ⟨.knowledge (.lockClass hash timeout), .ok ()⟩ ::
        (part ++ [⟨.knowledge (.unlockClass hash), returned⟩]) ∧
      SameButLocked store store₁ ∧ Runs action s part result s₁ ∧ store₁.MeetsAll part store₂ ∧
      SameButLocked store₂ store' ∧
      (returned = .ok () ∧ r = result ∨
        ∃ fault, returned = .error fault ∧ r = .error fault) := by
  obtain ⟨reply, rest, rfl, taking⟩ := runs_knowledge_bind.mp run
  obtain ⟨store₁, asked, later⟩ := met
  have taken : SameButLocked store store₁ := sameButLocked_of_lock asked
  obtain ⟨_, rfl, holding⟩ | ⟨fault, rfl, rfl, rfl, -⟩ := runs_ofResult_bind.mp taking
  swap
  · obtain rfl : store' = store₁ := later
    exact .inl ⟨fault, rfl, rfl, taken⟩
  obtain ⟨part, last, result, s₁, rfl, locked, leaving⟩ := runs_attempt_bind.mp holding
  obtain ⟨store₂, first, last⟩ := inTurn_append.mp later
  obtain ⟨returned, rest, rfl, returning⟩ := runs_knowledge_bind.mp leaving
  obtain ⟨store₃, unlocked, ended⟩ := last
  have given : SameButLocked store₂ store₃ := sameButLocked_of_unlock unlocked
  obtain ⟨rfl, counts⟩ : rest = [] ∧ (returned = .ok () ∧ r = result ∨
      ∃ fault, returned = .error fault ∧ r = .error fault) := by
    obtain ⟨_, same, left⟩ | ⟨fault, same, nothing, failed, -⟩ := runs_ofResult_bind.mp returning
    · obtain ⟨nothing, ended, -⟩ := runs_ofResult.mp left
      exact ⟨nothing, .inl ⟨same, ended⟩⟩
    · exact ⟨nothing, .inr ⟨fault, same, failed⟩⟩
  obtain rfl : store' = store₃ := ended
  exact .inr ⟨part, result, returned, s₁, store₁, store₂, rfl, taken, locked, first, given, counts⟩

/-- How the registration of a missing class can end, with what is stored then. -/
inductive Registration (c : QueryClass) (text : Option String) (store : Store) (t : List Asked)
    (result : Except Fault Bool) (store' : Store) : Prop
  /-- The class and the text are stored. -/
  | complete : result = .ok true → SameButLocked (store.register c text) store' →
      Registration c text store t result store'
  /-- The class is not stored. -/
  | undone : result ≠ .ok true → ⟨.knowledge (.upsertClass c), .ok ()⟩ ∉ t →
      SameButLocked store store' → Registration c text store t result store'
  /-- The class is stored, and the text is refused. -/
  | halved {raw : String} (fault : Fault) : result ≠ .ok true → text = some raw →
      ⟨.knowledge (.upsertClass c), .ok ()⟩ ∈ t →
      ⟨.knowledge (.recordText c.queryHash raw), .error fault⟩ ∈ t →
      SameButLocked (store.putClass c) store' → Registration c text store t result store'
  /-- The class and the text are stored, and the lock is not taken back. -/
  | unreturned (fault : Fault) : result ≠ .ok true →
      ⟨.knowledge (.upsertClass c), .ok ()⟩ ∈ t →
      ⟨.knowledge (.unlockClass c.queryHash), .error fault⟩ ∈ t →
      SameButLocked (store.register c text) store' → Registration c text store t result store'

/-- A registration reports success if its action under the lock succeeds. All that it asks after
that does not concern what is stored. -/
theorem runs_registerClass {policy : PlanningPolicy} {text : Option String} {s s' : Session}
    {t : List Asked} {result : Except Fault Bool}
    (run : Runs (registerClass policy text) s t result s') :
    ∃ part rest r s₁, t = part ++ rest ∧ (∀ x ∈ rest, x.request.Spares) ∧
      Runs (withLock policy.queryHash s.settings.lockTimeout (registerUnderLock policy text)) s
        part r s₁ ∧ (result = .ok true ↔ r = .ok ()) := by
  rw [registerClass, runs_get_bind] at run
  obtain ⟨part, rest, r, s₁, rfl, locked, last⟩ := runs_attempt_bind.mp run
  refine ⟨part, rest, r, s₁, rfl, ?_, locked, ?_⟩
  · split at last
    · exact asks_pure _ last
    · exact (asks_logClassification _).bind (fun _ => asks_pure _) last
    · exact asks_throw _ last
  · split at last
    · obtain ⟨-, rfl, -⟩ := runs_pure.mp last
      simp
    · obtain ⟨_, -, last⟩ := runs_logged_bind last
      obtain ⟨-, rfl, -⟩ := runs_pure.mp last
      simp
    · obtain ⟨-, rfl, -⟩ := runs_throw.mp last
      simp

/-- **A registration** of a missing class ends in one of these ways. -/
theorem Registration.of_runs {policy : PlanningPolicy} {text : Option String} {s s' : Session}
    {t : List Asked} {result : Except Fault Bool} {store store' : Store}
    (missing : store.classes.lookup policy.queryHash = none)
    (run : Runs (registerClass policy text) s t result s') (met : store.MeetsAll t store') :
    Registration policy.queryClass text store t result store' := by
  obtain ⟨locking, rest, r, s₁, rfl, spared, locked, reported⟩ := runs_registerClass run
  obtain ⟨store₁, met, later⟩ := inTurn_append.mp met
  obtain rfl := (Store.MeetsAll.handlesAll later).of_reads fun x member => (spared x member).reads
  have unstored : (⟨.knowledge (.upsertClass policy.queryClass), .ok ()⟩ : Asked) ∉ rest := by
    intro member
    cases spared _ member _ rfl
  have failed {fault : Fault} (same : r = .error fault) : result ≠ .ok true := by
    rw [Ne, reported, same]
    exact nofun
  obtain ⟨fault, refused, rfl, same⟩ |
    ⟨part, r₁, returned, s₂, store₁, store₂, rfl, taken, under, inside, given, counts⟩ :=
      meets_withLock locked met
  · exact .undone (failed refused) (by simp [unstored]) same
  have missing : store₁.classes.lookup policy.queryHash = none := by
    rw [taken]
    exact missing
  -- Whether the lock is given back counts more than what was done under it.
  have failed_under {fault : Fault} (same : r₁ = .error fault) : result ≠ .ok true := by
    obtain ⟨-, ended⟩ | ⟨_, -, ended⟩ := counts
    · exact failed (ended.trans same)
    · exact failed ended
  cases UnderLock.of_runs missing under inside with
  | complete stored =>
    have kept := (taken.register policy.queryClass text).trans given
    obtain ⟨-, ended⟩ | ⟨fault, rfl, ended⟩ := counts
    · exact .complete (reported.mpr ended) kept
    · exact .unreturned fault (failed ended) (by simp [stored])
        (by simp [PlanningPolicy.queryClass]) kept
  | undone fault unasked =>
    exact .undone (failed_under rfl) (by simp [unasked, unstored]) (taken.trans given)
  | halved fault named stored refused =>
    exact .halved fault (failed_under rfl) named (by simp [stored]) (by simp [refused])
      ((taken.putClass policy.queryClass).trans given)

/-! ## The whole classification -/

/-- A look-up asks for the class, and then for nothing more that concerns what is stored, unless the
class is missing and is registered. -/
theorem runs_lookUpPolicy {mode : Mode} {start : PlanningPolicy} {text : Option String}
    {s s' : Session} {t : List Asked} {found : Except Fault (PlanningPolicy × Bool)}
    (run : Runs (lookUpPolicy mode start text) s t found s') :
    ∃ reply rest, t = ⟨.knowledge (.findClass start.queryHash), reply⟩ :: rest ∧
      ((∀ x ∈ rest, x.request.Spares) ∨ reply = .ok none ∧ ∃ r s₁,
        Runs (registerClass (start.underMode mode none) text) s rest r s₁) := by
  rw [lookUpPolicy, runs_get_bind] at run
  obtain ⟨reply, rest, rfl, goesOn⟩ := runs_knowledge_bind.mp run
  refine ⟨reply, rest, rfl, ?_⟩
  split at goesOn
  · exact .inl ((asks_logClassification _).bind (fun _ => asks_pure _) goesOn)
  · exact .inl (asks_throw _ goesOn)
  rename_i stored
  cases stored with
  | some c =>
    have idle : Asks Request.Spares
        (deactivateIfIdle start.queryHash (some c) s.settings.forcesCollection) :=
      .ite ((asks_logClassification _).bind fun _ => asks_modify _) (asks_pure _)
    exact .inl (idle.bind (fun _ => asks_pure _) goesOn)
  | none =>
    rw [deactivateIfIdle, Option.any_none] at goesOn
    simp only [Bool.false_eq_true, if_false, runs_pure_bind] at goesOn
    split at goesOn
    · refine .inr ⟨rfl, ?_⟩
      obtain ⟨part, last, done, s₁, rfl, register, ending⟩ | ⟨_, -, failed⟩ := runs_bind.mp goesOn
      · obtain rfl : last = [] := by
          cases done <;> exact (runs_pure.mp ending).1
        rw [List.append_nil]
        exact ⟨_, s₁, register⟩
      · exact ⟨_, s', failed⟩
    · exact .inl (asks_pure _ goesOn)

/-- A classification only reads what is stored, or it finds the class of its query missing and then
registers it as the mode makes it. -/
theorem registers_of_classify {query : Query} {s s' : Session} {t : List Asked}
    {result : Except Fault Classified} (run : Runs (classify query) s t result s') :
    (∀ x ∈ t, x.request.Reads) ∨
    ∃ mode hash policy before part after registered s₁ s₂,
      s.settings.resolvedMode = .ok mode ∧ query.classIn t = some hash ∧
      policy.queryClass = .ofNew hash mode ∧
      t = before ++ ⟨.knowledge (.findClass hash), .ok none⟩ :: (part ++ after) ∧
      (∀ x ∈ before, x.request.Reads) ∧ (∀ x ∈ after, x.request.Reads) ∧
      Runs (registerClass policy query.text) s₁ part registered s₂ := by
  have reads {t : List Asked} (spared : ∀ x ∈ t, x.request.Spares) : ∀ x ∈ t, x.request.Reads :=
    fun x member => (spared x member).reads
  obtain spared | ⟨mode, hash, explained, known, named, -, asked⟩ := askedByLookUp_of_classify run
  · exact .inl (reads spared)
  obtain ⟨before, _, after, s₁, found, s₂, rfl, first, last, -, lookUp⟩ := asked
  obtain ⟨reply, part, rfl, spared | ⟨rfl, registered, s₃, register⟩⟩ := runs_lookUpPolicy lookUp
  · refine .inl (List.forall_mem_append.mpr ⟨reads first, List.forall_mem_append.mpr ⟨?_, ?_⟩⟩)
    · refine List.forall_mem_cons.mpr ⟨?_, reads spared⟩
      rintro _ ⟨⟩
      trivial
    · exact reads last
  · exact .inr ⟨mode, hash, _, before, part, after, registered, s₁, s₃, known, named, rfl, rfl,
      reads first, reads last, register⟩

/-! ## Classifications that come later -/

/-- A classification in some session leads from one store to another, whatever fails. -/
def Classifies (store store' : Store) : Prop :=
  ∃ query s t result s', Runs (classify query) s t result s' ∧ store.HandlesAll t store'

/-- **A class that is stored** is not registered again: it stays as it is, and so does its text,
recorded or missing. -/
theorem Classifies.kept {hash : Int} {c : QueryClass} {store store' : Store}
    (stored : store.classes.lookup hash = some c) (h : Classifies store store') :
    store'.classes.lookup hash = some c ∧
      store'.texts.lookup hash = store.texts.lookup hash := by
  obtain ⟨query, s, t, result, s', run, handled⟩ := h
  obtain reads | ⟨mode, own, policy, before, part, after, _, _, _, known, named, -, rfl, first, -⟩
    := registers_of_classify run
  · rw [handled.of_reads reads]
    exact ⟨stored, rfl⟩
  have other : hash ≠ own := by
    rintro rfl
    obtain ⟨store₁, early, later⟩ := inTurn_append.mp handled
    obtain rfl := Store.HandlesAll.of_reads early first
    obtain ⟨store₂, looked, -⟩ := later
    have missing : store₁.classes.lookup hash = none :=
      Except.ok.inj (congrArg Prod.fst looked.answer_eq)
    rw [stored] at missing
    cases missing
  obtain rfl | ⟨_, same, -, registered⟩ := classify_footprint known run handled
  · exact ⟨stored, rfl⟩
  obtain rfl := Option.some.inj (named.symm.trans same)
  obtain keptClass | ⟨same, -⟩ := registered.lookup_classes hash
  · obtain keptText | ⟨same, -⟩ := registered.lookup_texts hash
    · exact ⟨keptClass.trans stored, keptText⟩
    · exact absurd same other
  · exact absurd same other

/-- What stays in one classification stays in all that come later. -/
theorem kept_of_classifies {hash : Int} {c : QueryClass} {store later : Store}
    (stored : store.classes.lookup hash = some c)
    (classified : Relation.ReflTransGen Classifies store later) :
    later.classes.lookup hash = some c ∧ later.texts.lookup hash = store.texts.lookup hash := by
  induction classified with
  | refl => exact ⟨stored, rfl⟩
  | tail _ step ih =>
    obtain ⟨found, same⟩ := step.kept ih.1
    exact ⟨found, same.trans ih.2⟩

/-- A registration that has stored its class has left it in the store. -/
theorem Registration.lookup_classes {c : QueryClass} {text : Option String} {store store' : Store}
    {t : List Asked} {result : Except Fault Bool}
    (h : Registration c text store t result store')
    (stored : ⟨.knowledge (.upsertClass c), .ok ()⟩ ∈ t) :
    store'.classes.lookup c.queryHash = some c := by
  have put : (store.putClass c).classes.lookup c.queryHash = some c := by
    show (put c.queryHash c store.classes).lookup c.queryHash = some c
    rw [lookup_put, if_pos rfl]
  have registered : (store.register c text).classes = (store.putClass c).classes := by
    cases text with
    | none => rfl
    | some raw =>
      show ((store.putClass c).recordText c.queryHash raw).classes = _
      unfold Store.recordText
      split <;> rfl
  cases h with
  | undone _ unasked => exact absurd stored unasked
  | complete _ same | unreturned _ _ _ _ same => rw [same, registered, put]
  | halved _ _ _ _ _ same => rw [same, put]

/-! ## All or nothing -/

/-- **Whatever a classification changes** in the knowledge base comes from the registration of the
class of its query, which was missing. A registration that reports success has stored the class with
its text. One that does not has stored nothing, unless the class was stored before the text or the
return of the lock was refused. A class that is left behind is never registered again: in all later
classifications its text stays as it was left, recorded or missing. -/
theorem registration_complete_or_reported {query : Query} {s s' : Session} {t : List Asked}
    {result : Except Fault Classified} {store store' : Store}
    (run : Runs (classify query) s t result s') (met : store.MeetsAll t store') :
    (∀ x ∈ t, x.request.Reads) ∧ store' = store ∨
    ∃ mode hash policy part registered s₁ s₂,
      s.settings.resolvedMode = .ok mode ∧ query.classIn t = some hash ∧
      policy.queryClass = .ofNew hash mode ∧ part ⊆ t ∧
      Runs (registerClass policy query.text) s₁ part registered s₂ ∧
      store.classes.lookup hash = none ∧
      Registration (.ofNew hash mode) query.text store part registered store' ∧
      (⟨.knowledge (.upsertClass (.ofNew hash mode)), .ok ()⟩ ∈ part →
        ∀ later, Relation.ReflTransGen Classifies store' later →
          later.classes.lookup hash = some (.ofNew hash mode) ∧
            later.texts.lookup hash = store'.texts.lookup hash) := by
  obtain reads | ⟨mode, hash, policy, before, part, after, registered, s₁, s₂, known, named, made,
    exchanges, first, last, register⟩ := registers_of_classify run
  · exact .inl ⟨reads, met.handlesAll.of_reads reads⟩
  rw [exchanges] at met
  obtain ⟨store₁, early, store₂, looked, met⟩ := inTurn_append.mp met
  obtain ⟨store₃, met, late⟩ := inTurn_append.mp met
  obtain rfl := (Store.MeetsAll.handlesAll early).of_reads first
  obtain rfl := (Store.MeetsAll.handlesAll late).of_reads last
  have answered := looked.handles.answer_eq
  obtain rfl : store₁ = store₂ := congrArg Prod.snd answered
  have missing : store₁.classes.lookup hash = none := Except.ok.inj (congrArg Prod.fst answered)
  have own : policy.queryHash = hash := congrArg QueryClass.queryHash made
  rw [← own] at missing
  have ended := Registration.of_runs missing register met
  rw [made] at ended
  rw [own] at missing
  have within : part ⊆ t := by
    rw [exchanges]
    exact List.subset_append_of_subset_right _
      (List.subset_cons_of_subset _ (List.subset_append_left _ _))
  refine .inr ⟨mode, hash, policy, part, registered, s₁, s₂, known, named, made, within, register,
    missing, ended, fun stored later classified => ?_⟩
  exact kept_of_classifies (ended.lookup_classes stored) classified

/-- What an action leaves in a store that refuses some calls. -/
def Action.leaves {α : Type} (refuses : Knowledge.Call → Bool) (action : Action α) (s : Session)
    (store : Store) : Store :=
  ((action.run.run s).run (Store.refusing refuses nothingStored) store).2

/-- Actions always run, with a store that refuses some calls. -/
theorem exists_met {α : Type} (refuses : Knowledge.Call → Bool) (action : Action α) (s : Session)
    (store : Store) :
    ∃ t result s', Runs action s t result s' ∧
      store.MeetsAll t (action.leaves refuses s store) := by
  obtain ⟨t, run, answers⟩ := Program.run_eq_iff.mp
    (Eq.refl ((action.run.run s).run (Store.refusing refuses nothingStored) store))
  exact ⟨t, _, _, run, .of_answers answers⟩

/-- Whether a call records a text. -/
def Knowledge.Call.records : Knowledge.Call → Bool
  | .recordText _ _ => true
  | _ => false

/-- A query with a text that selects something. -/
def textQuery : Query := { bareQuery .select with text := some "SELECT" }

/-- A class whose text was refused once is stored, and its text is missing ever after. -/
theorem registration_complete_or_reported_halved :
    ∃ t result s' store', Runs (classify textQuery) learning t result s' ∧
      Store.MeetsAll {} t store' ∧
      ∀ later, Relation.ReflTransGen Classifies store' later →
        later.classes.lookup bareHash = some (.ofNew bareHash .learn) ∧
          later.texts.lookup bareHash = none := by
  have found : ((classify textQuery).leaves Knowledge.Call.records learning {}).classes.lookup
      bareHash = some (.ofNew bareHash .learn) := by decide +kernel
  have textless : ((classify textQuery).leaves Knowledge.Call.records learning {}).texts.lookup
      bareHash = none := by decide +kernel
  obtain ⟨t, result, s', run, met⟩ :=
    exists_met Knowledge.Call.records (classify textQuery) learning {}
  refine ⟨t, result, s', _, run, met, fun later classified => ?_⟩
  obtain ⟨-, same⟩ | ⟨mode, hash, _, _, _, _, _, known, named, _, _, _, _, registration, stays⟩ :=
    registration_complete_or_reported run met
  · rw [same] at found
    cases found
  obtain rfl : bareHash = hash := Option.some.inj ((classIn_bareQuery t).symm.trans named)
  obtain rfl : .learn = mode := Except.ok.inj known
  -- The class is in the store now, and was not before, so it was stored by the registration.
  cases registration with
  | undone _ _ same =>
    rw [same] at found
    cases found
  | halved _ _ _ stored =>
    rw [← textless]
    exact stays stored later classified
  | unreturned _ _ stored =>
    rw [← textless]
    exact stays stored later classified
  | complete _ same =>
    have recorded : (Store.register {} (.ofNew bareHash .learn) textQuery.text).texts.lookup
        bareHash = some "SELECT" := by decide +kernel
    rw [same] at textless
    cases recorded.symm.trans textless

end CardinalityAdvisor
