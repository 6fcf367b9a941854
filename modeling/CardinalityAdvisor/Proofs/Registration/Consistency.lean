import CardinalityAdvisor.Proofs.Registration.Interleaving
import Mathlib.Data.List.Nodup

/-!
# What an exchange keeps

The locks of a knowledge base are those that the sessions hold, and a class that a session has found
missing under its lock is missing until the session itself stores it. So an exchange that the lock
discipline permits changes nothing that is stored.

## Main definitions

* `Kept store store'`: stored classes and recorded texts are still the same
* `Consistent phases store`: the locks of the store are those that the sessions hold
* `Written before events store`: every class was stored at most once

## Main results

* `Consistent.effect`, `Consistent.kept`, `Written.effect`: what a permitted exchange keeps
-/

namespace CardinalityAdvisor.Shared

open Knowledge (Store)

variable {ι : Type}

/-! ## What is stored stays -/

/-- Stored classes and recorded texts are still the same. -/
structure Kept (store store' : Store) : Prop where
  classes : ∀ hash c, store.classes.lookup hash = some c → store'.classes.lookup hash = some c
  texts : ∀ hash text, store.texts.lookup hash = some text →
    store'.texts.lookup hash = some text

theorem Kept.refl (store : Store) : Kept store store := ⟨fun _ _ h => h, fun _ _ h => h⟩

theorem Kept.trans {store store₁ store' : Store} (h : Kept store store₁)
    (h' : Kept store₁ store') : Kept store store' :=
  ⟨fun hash c found => h'.classes hash c (h.classes hash c found),
    fun hash text found => h'.texts hash text (h.texts hash text found)⟩

theorem SameRegistry.kept {store store' : Store} (h : SameRegistry store store') :
    Kept store store' := by
  refine ⟨fun hash c found => ?_, fun hash text found => ?_⟩
  · rw [h.classes, found]
  · rw [h.texts, found]

theorem recordText_kept (store : Store) (hash : Int) (text : String) :
    Kept store (store.recordText hash text) := by
  unfold Store.recordText
  split
  · exact .refl store
  · rename_i unrecorded
    refine ⟨fun _ _ found => found, fun other kept found => ?_⟩
    rw [lookup_put, if_neg, found]
    rintro rfl
    exact unrecorded (by rw [found]; rfl)

theorem putClass_kept {store : Store} {c : QueryClass}
    (missing : store.classes.lookup c.queryHash = none) : Kept store (store.putClass c) := by
  refine ⟨fun other kept found => ?_, fun _ _ found => found⟩
  show (put c.queryHash c store.classes).lookup other = some kept
  rw [lookup_put, if_neg, found]
  rintro rfl
  rw [missing] at found
  cases found

/-! ## The locks that are held -/

/-- The locks of a store are those that the sessions hold, and no lock is held twice. What a session
has found missing under a lock is missing as long as it holds the lock. -/
structure Consistent (phases : ι → LockPhase) (store : Store) : Prop where
  held : ∀ hash, hash ∈ store.locked ↔ ∃ i, hash ∈ (phases i).locks
  distinct : store.locked.Nodup
  exclusive : ∀ hash i j, hash ∈ (phases i).locks → hash ∈ (phases j).locks → i = j
  missing : ∀ i hash, phases i = .held hash true → store.classes.lookup hash = none

namespace Consistent

variable {phases : ι → LockPhase} {store store' : Store}

/-- Nobody takes a lock or gives one back. -/
theorem sameLocks {phases' : ι → LockPhase} (h : Consistent phases store)
    (locks : ∀ i, (phases' i).locks = (phases i).locks) (locked : store'.locked = store.locked)
    (missing : ∀ i hash, phases' i = .held hash true → store'.classes.lookup hash = none) :
    Consistent phases' store' where
  held hash := by
    simp only [locked, locks]
    exact h.held hash
  distinct := by
    rw [locked]
    exact h.distinct
  exclusive hash i j := by
    rw [locks, locks]
    exact h.exclusive hash i j
  missing := missing

/-- No exchange that the discipline permits changes what is stored. -/
theorem kept {i : ι} {x : Asked} {phase : LockPhase} (h : Consistent phases store)
    (effect : Effect store (phases i) x phase store') : Kept store store' := by
  generalize mine : phases i = before at effect
  cases effect with
  | neutral | missing | locked | unlocked => exact ⟨fun _ _ found => found, fun _ _ found => found⟩
  | recorded => exact recordText_kept store _ _
  | wrote => exact putClass_kept (h.missing i _ mine)

variable [DecidableEq ι]

/-- A session takes a lock that nobody holds. -/
theorem locked {i : ι} {hash : Int} (h : Consistent phases store) (free : phases i = .free)
    (available : hash ∉ store.locked) :
    Consistent (Function.update phases i (.held hash false))
      { store with locked := hash :: store.locked } := by
  have nobody (j : ι) : hash ∉ (phases j).locks := fun held =>
    available ((h.held hash).mpr ⟨j, held⟩)
  have others {j : ι} (other : j ≠ i) :
      Function.update phases i (.held hash false) j = phases j := Function.update_of_ne other _ _
  constructor
  · intro other
    rw [List.mem_cons, h.held]
    constructor
    · rintro (rfl | ⟨j, held⟩)
      · refine ⟨i, ?_⟩
        rw [Function.update_self]
        exact List.mem_cons_self
      · refine ⟨j, ?_⟩
        rw [others]
        · exact held
        · rintro rfl
          rw [free] at held
          cases held
    · rintro ⟨j, held⟩
      by_cases same : j = i
      · rw [same, Function.update_self] at held
        exact .inl (List.mem_singleton.mp held)
      · rw [others same] at held
        exact .inr ⟨j, held⟩
  · exact List.nodup_cons.mpr ⟨available, h.distinct⟩
  · intro other j k
    by_cases same : j = i <;> by_cases same' : k = i
    · exact fun _ _ => same.trans same'.symm
    · rw [same, Function.update_self, others same']
      intro mine held
      rw [List.mem_singleton.mp mine] at held
      exact absurd held (nobody k)
    · rw [same', Function.update_self, others same]
      intro held mine
      rw [List.mem_singleton.mp mine] at held
      exact absurd held (nobody j)
    · rw [others same, others same']
      exact h.exclusive other j k
  · intro j other found
    by_cases same : j = i
    · rw [same, Function.update_self] at found
      cases found
    · rw [others same] at found
      exact h.missing j other found

/-- A session gives its lock back. -/
theorem unlocked {i : ι} {hash : Int} {absent : Bool} (h : Consistent phases store)
    (mine : phases i = .held hash absent) :
    Consistent (Function.update phases i .free) (store.unlockClass hash) := by
  have others {j : ι} (other : j ≠ i) : Function.update phases i .free j = phases j :=
    Function.update_of_ne other _ _
  have own : hash ∈ (phases i).locks := by
    rw [mine]
    exact List.mem_cons_self
  have still {j : ι} {other : Int} :
      other ∈ (Function.update phases i .free j).locks ↔
        other ≠ hash ∧ other ∈ (phases j).locks := by
    by_cases same : j = i
    · rw [same, Function.update_self, mine]
      simp [LockPhase.locks]
    · rw [others same]
      refine ⟨fun held => ⟨?_, held⟩, fun held => held.2⟩
      rintro rfl
      exact same (h.exclusive other j i held own)
  constructor
  · intro other
    simp only [still, Store.unlockClass, h.distinct.mem_erase_iff, h.held]
    exact exists_and_left.symm
  · exact h.distinct.erase hash
  · intro other j k
    rw [still, still]
    exact fun held held' => h.exclusive other j k held.2 held'.2
  · intro j other found
    by_cases same : j = i
    · rw [same, Function.update_self] at found
      cases found
    · rw [others same] at found
      exact h.missing j other found

/-- **An exchange** that the discipline permits leaves locks and sessions consistent. -/
theorem effect {i : ι} {x : Asked} {phase : LockPhase} (h : Consistent phases store)
    (effect : Effect store (phases i) x phase store') :
    Consistent (Function.update phases i phase) store' := by
  generalize mine : phases i = before at effect
  have locks {phase : LockPhase} (same : phase.locks = (phases i).locks) (j : ι) :
      (Function.update phases i phase j).locks = (phases j).locks := by
    by_cases own : j = i
    · rw [own, Function.update_self, same]
    · rw [Function.update_of_ne own]
  cases effect with
  | neutral =>
    rw [← mine, Function.update_eq_self]
    exact h
  | recorded =>
    rw [← mine, Function.update_eq_self]
    refine h.sameLocks (fun _ => rfl) ?_ fun j hash found => ?_
    · unfold Store.recordText
      split <;> rfl
    · rw [← h.missing j hash found]
      unfold Store.recordText
      split <;> rfl
  | @missing hash absent _ _ absentNow =>
    refine h.sameLocks (locks (by rw [mine]; rfl)) rfl fun j other found => ?_
    by_cases own : j = i
    · rw [own, Function.update_self] at found
      cases found
      exact absentNow
    · rw [Function.update_of_ne own] at found
      exact h.missing j other found
  | @wrote c =>
    refine h.sameLocks (locks (by rw [mine]; rfl)) rfl fun j other found => ?_
    by_cases own : j = i
    · rw [own, Function.update_self] at found
      cases found
    · rw [Function.update_of_ne own] at found
      show (put c.queryHash c store.classes).lookup other = none
      rw [lookup_put, if_neg, h.missing j other found]
      rintro rfl
      refine own (h.exclusive c.queryHash j i ?_ ?_)
      · rw [found]
        exact List.mem_cons_self
      · rw [mine]
        exact List.mem_cons_self
  | locked available => exact h.locked mine available
  | unlocked => exact h.unlocked mine

end Consistent

/-! ## Who stores a class -/

/-- Every class is stored at most once, and only if it was not stored before. -/
structure Written (before : Store) (events : List (Event ι)) (store : Store) : Prop where
  once : ∀ hash, (writers hash events).length ≤ 1
  missing : ∀ hash, store.classes.lookup hash = none → writers hash events = []
  known : ∀ hash, (before.classes.lookup hash).isSome → writers hash events = []

namespace Written

variable {before store store' : Store} {events : List (Event ι)}

/-- Nobody stores a class. -/
theorem same {later : List (Event ι)} (h : Written before events store)
    (writers : ∀ hash, writers hash later = writers hash events) (kept : Kept store store') :
    Written before later store' where
  once hash := by
    rw [writers]
    exact h.once hash
  missing hash absent := by
    rw [writers]
    apply h.missing
    cases found : store.classes.lookup hash with
    | none => rfl
    | some c =>
      rw [kept.classes hash c found] at absent
      cases absent
  known hash found := by
    rw [writers]
    exact h.known hash found

/-- A class is stored that was not. -/
theorem wrote {i : ι} {c : QueryClass} (h : Written before events store)
    (stayed : Kept before store) (absent : store.classes.lookup c.queryHash = none) :
    Written before (.asks i ⟨.knowledge (.upsertClass c), .ok ()⟩ :: events)
      (store.putClass c) := by
  have own :
      writers c.queryHash (.asks i ⟨.knowledge (.upsertClass c), .ok ()⟩ :: events) = [i] := by
    show (if some c.queryHash = some c.queryHash then i :: writers c.queryHash events
      else writers c.queryHash events) = [i]
    rw [if_pos rfl, h.missing _ absent]
  have other {hash : Int} (different : hash ≠ c.queryHash) :
      writers hash (.asks i ⟨.knowledge (.upsertClass c), .ok ()⟩ :: events) =
        writers hash events := by
    show (if some c.queryHash = some hash then i :: writers hash events
      else writers hash events) = _
    rw [if_neg]
    exact fun same => different (Option.some.inj same).symm
  constructor
  · intro hash
    by_cases same : hash = c.queryHash
    · rw [same, own]
      exact Nat.le_refl 1
    · rw [other same]
      exact h.once hash
  · intro hash none
    change (put c.queryHash c store.classes).lookup hash = Option.none at none
    by_cases same : hash = c.queryHash
    · rw [lookup_put, if_pos same] at none
      cases none
    · rw [lookup_put, if_neg same] at none
      rw [other same]
      exact h.missing hash none
  · intro hash found
    by_cases same : hash = c.queryHash
    · -- What was stored before still is, so nobody can have found it missing.
      obtain ⟨old, found⟩ := Option.isSome_iff_exists.mp found
      rw [same] at found
      rw [stayed.classes _ old found] at absent
      cases absent
    · rw [other same]
      exact h.known hash found

/-- An exchange that the discipline permits stores only a class that is missing. -/
theorem effect {phases : ι → LockPhase} {i : ι} {x : Asked} {phase : LockPhase}
    (h : Written before events store) (stayed : Kept before store)
    (consistent : Consistent phases store) (effect : Effect store (phases i) x phase store') :
    Written before (.asks i x :: events) store' := by
  have kept := consistent.kept effect
  have silent (nothing : stored? x = none) (hash : Int) :
      writers hash (.asks i x :: events) = writers hash events := by
    rw [writers, nothing]
    rfl
  generalize mine : phases i = before at effect
  cases effect with
  | neutral neutral | missing neutral | recorded neutral =>
    exact h.same (silent neutral.stored) kept
  | locked | unlocked => exact h.same (silent rfl) kept
  | wrote => exact h.wrote stayed (consistent.missing i _ mine)

end Written

end CardinalityAdvisor.Shared
