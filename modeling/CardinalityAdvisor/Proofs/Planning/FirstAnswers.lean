import CardinalityAdvisor.Prediction.Records
import CardinalityAdvisor.Proofs.Session.Runs
import Mathlib.Data.List.Nodup

/-!
# What the remembered selectivities say of the past

Selectivities are looked up in any order, with the cache cleared in between. The host may answer
the same question differently each time, and it may fail. What the cache holds is then told by the
turns since it was last cleared alone: for every key that was looked up with success, it holds what
the host answered the first time, and nothing else.

## Main definitions

* `Inquiry`, `Turn`: a selectivity that is asked for, and what can happen to the cache
* `Turn.Takes`: the cache before and after a turn
* `Turns history cache`: the turns of a new cache, the latest one first
* `LookedUp`, `FirstAnswer`: the keys that were looked up since the cache was last cleared, and what
  the host answered the first time
* `Accounts`, `Accounted`: what the history says of the cache, and of one more lookup

## Main results

* `runs_selectivityOf_iff`: what a lookup asks, gives and leaves
* `Accounts.takes`: a turn keeps the account
* `first_answers`: whatever the turns were, the cache and the next lookup are accounted for
-/

namespace CardinalityAdvisor

open CardinalityAdvisor.Action

namespace SelectivityCache

/-! ## Lookups -/

/-- A selectivity that is asked for. -/
structure Inquiry where
  restriction : Restriction
  scope : Int
  fingerprint : Option Int := none
  join : Option JoinType := none

namespace Inquiry

/-- The key under which a selectivity is remembered, if the clause has a fingerprint. -/
def key (q : Inquiry) : TreeResult SelectivityKey :=
  match q.fingerprint with
  | some fingerprint => .ok ⟨fingerprint, q.scope⟩
  | none => (⟨·, q.scope⟩) <$> Fingerprint.clauseKey .empty .inner q.restriction.clause

/-- The selectivity that is asked for. -/
def look (q : Inquiry) : Action Float :=
  clauseSelectivity q.restriction q.scope q.fingerprint q.join

/-- What is asked of the host, with its reply. -/
def asks (q : Inquiry) (reply : Except Fault Float) : List Asked :=
  [⟨.selectivity q.restriction q.join, reply⟩]

end Inquiry

/-- The cache after a reply of the host. -/
def learn (c : SelectivityCache) (key : SelectivityKey) : Except Fault Float → SelectivityCache
  | .ok answer => c.remember key answer
  | .error _ => c

variable {q : Inquiry} {key : SelectivityKey} {s s' : Session} {t : List Asked}
  {result : Except Fault Float}

/-- A remembered selectivity is given; otherwise the host is asked, and its answer is clamped and
remembered unless it fails. -/
theorem runs_selectivityOf_iff {restriction : Restriction} {join : Option JoinType} :
    Runs (selectivityOf key restriction join) s t result s' ↔
      (∃ value, s.cache.find? key = some value ∧ t = [] ∧ result = .ok value ∧ s' = s) ∨
      ∃ reply, s.cache.find? key = none ∧ t = [⟨.selectivity restriction join, reply⟩] ∧
        result = clamp <$> reply ∧ s' = { s with cache := s.cache.learn key reply } := by
  rw [selectivityOf, runs_get_bind]
  split
  · rename_i value known
    simp [known, runs_pure]
  · rename_i unknown
    rw [runs_ask_bind]
    constructor
    · rintro ⟨reply, rest, rfl, run⟩
      refine .inr ⟨reply, unknown, ?_⟩
      cases reply with
      | ok answer =>
        rw [runs_ok_bind, runs_modify_bind] at run
        obtain ⟨rfl, rfl, rfl⟩ := runs_pure.mp run
        exact ⟨rfl, rfl, rfl⟩
      | error fault =>
        obtain ⟨rfl, rfl, rfl⟩ := runs_error_bind.mp run
        exact ⟨rfl, rfl, rfl⟩
    · rintro (⟨value, known, -⟩ | ⟨reply, -, rfl, rfl, rfl⟩)
      · rw [unknown] at known
        cases known
      refine ⟨reply, [], rfl, ?_⟩
      cases reply with
      | ok answer => exact runs_pure.mpr ⟨rfl, rfl, rfl⟩
      | error fault => exact runs_throw.mpr ⟨rfl, rfl, rfl⟩

/-- A lookup is made under its key, and fails before anything is asked if there is none. -/
theorem Inquiry.runs_look :
    Runs q.look s t result s' ↔
      (∃ key, q.key = .ok key ∧ Runs (selectivityOf key q.restriction q.join) s t result s') ∨
      ∃ fault, q.key = .error fault ∧ t = [] ∧ result = .error (.tree fault) ∧ s' = s := by
  obtain ⟨restriction, scope, fingerprint | fingerprint, join⟩ := q
  · rw [look, clauseSelectivity, key]
    cases Fingerprint.clauseKey .empty .inner restriction.clause with
    | ok own =>
      show Runs (selectivityOf ⟨own, scope⟩ restriction join) s t result s' ↔ _
      simp [Functor.map, Except.map]
    | error fault =>
      show Runs (throw (.tree fault)) s t result s' ↔ _
      simp [runs_throw, Functor.map, Except.map]
  · simp [look, clauseSelectivity, key]

/-! ## Turns -/

/-- What can happen to a cache. -/
inductive Turn where
  | cleared
  /-- A lookup, with what was asked of the host for it and its result. -/
  | looked (inquiry : Inquiry) (asked : List Asked) (result : Except Fault Float)

/-- A turn leads from one cache to another, whatever the session is otherwise. -/
def Turn.Takes (cache : SelectivityCache) : Turn → SelectivityCache → Prop
  | .cleared, cache' => cache' = clear
  | .looked q asked result, cache' =>
    ∃ s s' : Session, s.cache = cache ∧ Runs q.look s asked result s' ∧ cache' = s'.cache

/-- The turns of a new cache, the latest one first. -/
inductive Turns : List Turn → SelectivityCache → Prop
  | new : Turns [] {}
  | turn {history : List Turn} {turn : Turn} {cache cache' : SelectivityCache} :
      Turns history cache → turn.Takes cache cache' → Turns (turn :: history) cache'

/-- A key was looked up with success since the cache was last cleared. -/
def LookedUp (key : SelectivityKey) : List Turn → Prop
  | [] | .cleared :: _ => False
  | .looked q _ result :: earlier =>
    (q.key = .ok key ∧ ∃ value, result = .ok value) ∨ LookedUp key earlier

/-- The answer of the host to the first lookup of a key that had success since the cache was last
cleared. -/
def FirstAnswer (key : SelectivityKey) (answer : Float) : List Turn → Prop
  | [] | .cleared :: _ => False
  | .looked q asked result :: earlier =>
    FirstAnswer key answer earlier ∨
      ¬ LookedUp key earlier ∧ q.key = .ok key ∧ (∃ value, result = .ok value) ∧
        asked = q.asks (.ok answer)

/-- What the history says of the cache: its entries are the keys that were looked up with success,
with the host's first answers to them. -/
structure Accounts (history : List Turn) (cache : SelectivityCache) : Prop where
  misses : cache.misses = cache.entries.length
  distinct : (cache.entries.map Prod.fst).Nodup
  keys : ∀ key, key ∈ cache.entries.map Prod.fst ↔ LookedUp key history
  answers : ∀ key value, cache.find? key = some value →
    ∃ answer, FirstAnswer key answer history ∧ value = clamp answer

/-- What the history says of one more lookup. -/
structure Accounted (history : List Turn) (cache : SelectivityCache) (q : Inquiry)
    (asked : List Asked) (result : Except Fault Float) (cache' : SelectivityCache) : Prop where
  /-- A value is the first answer to its key, which may be the answer to this very lookup. -/
  value : ∀ key value, q.key = .ok key → result = .ok value →
    ∃ answer, FirstAnswer key answer (.looked q asked result :: history) ∧ value = clamp answer
  /-- Nothing is asked about a key that has an entry. -/
  known : ∀ key, q.key = .ok key → key ∈ cache.entries.map Prod.fst →
    asked = [] ∧ ∃ value, result = .ok value
  /-- The host is asked once about a key without an entry, and the lookup fails if the host does. -/
  unknown : ∀ key, q.key = .ok key → key ∉ cache.entries.map Prod.fst →
    ∃ reply, asked = q.asks reply ∧ result = clamp <$> reply
  /-- Without a fingerprint nothing is asked. -/
  keyless : ∀ fault, q.key = .error fault → asked = [] ∧ result = .error (.tree fault)
  /-- A lookup that fails changes nothing. -/
  failed : ∀ fault, result = .error fault → cache' = cache

variable {history : List Turn} {cache cache' : SelectivityCache} {asked : List Asked}

theorem find?_eq_none_iff : cache.find? key = none ↔ key ∉ cache.entries.map Prod.fst :=
  lookup_eq_none_iff

theorem mem_keys_of_find? {value : Float} (known : cache.find? key = some value) :
    key ∈ cache.entries.map Prod.fst := by
  by_contra unknown
  rw [find?_eq_none_iff.mpr unknown] at known
  cases known

/-- A lookup is one of three: of a key with an entry, of a key without one, or of no key at all. -/
theorem takes_looked_iff :
    (Turn.looked q asked result).Takes cache cache' ↔
      (∃ key value, q.key = .ok key ∧ cache.find? key = some value ∧ asked = [] ∧
        result = .ok value ∧ cache' = cache) ∨
      (∃ key reply, q.key = .ok key ∧ cache.find? key = none ∧ asked = q.asks reply ∧
        result = clamp <$> reply ∧ cache' = cache.learn key reply) ∨
      ∃ fault, q.key = .error fault ∧ asked = [] ∧ result = .error (.tree fault) ∧
        cache' = cache := by
  simp only [Turn.Takes, Inquiry.runs_look, runs_selectivityOf_iff]
  constructor
  · rintro ⟨s, s', rfl, ⟨key, named, ⟨value, known, rfl, rfl, rfl⟩ |
      ⟨reply, unknown, rfl, rfl, rfl⟩⟩ | ⟨fault, named, rfl, rfl, rfl⟩, rfl⟩
    · exact .inl ⟨key, value, named, known, rfl, rfl, rfl⟩
    · exact .inr (.inl ⟨key, reply, named, unknown, rfl, rfl, rfl⟩)
    · exact .inr (.inr ⟨fault, named, rfl, rfl, rfl⟩)
  · rintro (⟨key, value, named, known, rfl, rfl, rfl⟩ |
      ⟨key, reply, named, unknown, rfl, rfl, rfl⟩ | ⟨fault, named, rfl, rfl, rfl⟩)
    · exact ⟨{ cache := cache' }, { cache := cache' }, rfl,
        .inl ⟨key, named, .inl ⟨value, known, rfl, rfl, rfl⟩⟩, rfl⟩
    · exact ⟨{ cache }, { cache := cache.learn key reply }, rfl,
        .inl ⟨key, named, .inr ⟨reply, unknown, rfl, rfl, rfl⟩⟩, rfl⟩
    · exact ⟨{ cache := cache' }, { cache := cache' }, rfl, .inr ⟨fault, named, rfl, rfl, rfl⟩, rfl⟩

/-- A lookup that failed is not in the account. -/
theorem Accounts.after_failure {fault : Fault} (h : Accounts history cache) :
    Accounts (.looked q asked (.error fault) :: history) cache := by
  refine ⟨h.misses, h.distinct, fun key => ?_, fun key value known => ?_⟩
  · rw [h.keys key]
    simp [LookedUp]
  · obtain ⟨answer, first, clamped⟩ := h.answers key value known
    exact ⟨answer, .inl first, clamped⟩

/-- A lookup of a key with an entry changes nothing in the account. -/
theorem Accounts.after_hit {value : Float} (h : Accounts history cache) (named : q.key = .ok key)
    (known : cache.find? key = some value) :
    Accounts (.looked q [] (.ok value) :: history) cache := by
  refine ⟨h.misses, h.distinct, fun other => ?_, fun other found held => ?_⟩
  · constructor
    · intro held
      exact .inr ((h.keys other).mp held)
    · rintro (⟨same, -⟩ | before)
      · rw [named] at same
        cases same
        exact mem_keys_of_find? known
      · exact (h.keys other).mpr before
  · obtain ⟨answer, first, clamped⟩ := h.answers other found held
    exact ⟨answer, .inl first, clamped⟩

/-- The answer to a lookup of a key without an entry comes last in the account. -/
theorem Accounts.after_answer {answer : Float} (h : Accounts history cache)
    (named : q.key = .ok key) (unknown : cache.find? key = none) :
    Accounts (.looked q (q.asks (.ok answer)) (.ok (clamp answer)) :: history)
      (cache.remember key answer) := by
  have absent := find?_eq_none_iff.mp unknown
  have entries : (cache.remember key answer).entries = cache.entries ++ [(key, clamp answer)] :=
    put_of_unknown _ absent
  -- The counter, the entries and the keys that were looked up grow together, by one key that was
  -- among neither the entries nor the keys.
  refine ⟨?_, ?_, fun other => ?_, fun other found held => ?_⟩
  · rw [entries, List.length_append]
    exact congrArg (· + 1) h.misses
  · rw [entries, List.map_append]
    exact List.nodup_append_comm.mp (List.nodup_cons.mpr ⟨absent, h.distinct⟩)
  · rw [entries, List.map_append, List.mem_append, h.keys other, or_comm]
    simp [LookedUp, named, eq_comm]
  · rw [find?_remember] at held
    split at held
    · rename_i same
      cases held
      subst same
      exact ⟨answer, .inr ⟨mt (h.keys other).mpr absent, named, ⟨_, rfl⟩, rfl⟩, rfl⟩
    · obtain ⟨first, given, clamped⟩ := h.answers other found held
      exact ⟨first, .inl given, clamped⟩

/-- **A turn** keeps the account. -/
theorem Accounts.takes {turn : Turn} (h : Accounts history cache)
    (takes : turn.Takes cache cache') : Accounts (turn :: history) cache' := by
  cases turn with
  | cleared =>
    cases takes
    exact ⟨rfl, List.nodup_nil, by simp [clear, LookedUp], by simp [clear, find?]⟩
  | looked q asked result =>
    obtain ⟨key, value, named, known, rfl, rfl, rfl⟩ | ⟨key, reply, named, unknown, rfl, rfl, rfl⟩ |
      ⟨fault, -, rfl, rfl, rfl⟩ := takes_looked_iff.mp takes
    · exact h.after_hit named known
    · cases reply with
      | ok answer => exact h.after_answer named unknown
      | error fault => exact h.after_failure
    · exact h.after_failure

theorem Turns.accounts (turns : Turns history cache) : Accounts history cache := by
  -- Along the turns; the account is the invariant.
  induction turns with
  | new => exact ⟨rfl, List.nodup_nil, by simp [LookedUp], by simp [find?]⟩
  | turn _ takes ih => exact ih.takes takes

/-- What was looked up with success is found from then on. -/
theorem find?_of_takes {value : Float} (named : q.key = .ok key)
    (takes : (Turn.looked q asked (.ok value)).Takes cache cache') :
    cache'.find? key = some value := by
  obtain ⟨own, found, named', known, -, same, rfl⟩ | ⟨own, reply, named', -, -, same, rfl⟩ |
    ⟨fault, -, -, failed, -⟩ := takes_looked_iff.mp takes
  · rw [named] at named'
    cases named'
    cases same
    exact known
  · rw [named] at named'
    cases named'
    cases reply with
    | ok answer =>
      cases same
      exact (find?_remember cache key key answer).trans (if_pos rfl)
    | error fault => cases same
  · cases failed

/-- A lookup is told by the account before it. -/
theorem Accounts.accounted (h : Accounts history cache)
    (takes : (Turn.looked q asked result).Takes cache cache') :
    Accounted history cache q asked result cache' where
  value key value named same := by
    subst same
    exact (h.takes takes).answers key value (find?_of_takes named takes)
  known key named held := by
    obtain ⟨own, value, -, -, none, same, -⟩ | ⟨own, reply, named', unknown, -⟩ |
      ⟨fault, named', -⟩ := takes_looked_iff.mp takes
    · exact ⟨none, value, same⟩
    · rw [named] at named'
      cases named'
      exact absurd held (find?_eq_none_iff.mp unknown)
    · rw [named] at named'
      cases named'
  unknown key named absent := by
    obtain ⟨own, value, named', known, -⟩ | ⟨own, reply, -, -, once, same, -⟩ |
      ⟨fault, named', -⟩ := takes_looked_iff.mp takes
    · rw [named] at named'
      cases named'
      exact absurd (mem_keys_of_find? known) absent
    · exact ⟨reply, once, same⟩
    · rw [named] at named'
      cases named'
  keyless fault named := by
    obtain ⟨own, value, named', -⟩ | ⟨own, reply, named', -⟩ | ⟨other, named', none, same, -⟩ :=
      takes_looked_iff.mp takes
    · rw [named] at named'
      cases named'
    · rw [named] at named'
      cases named'
    · rw [named] at named'
      cases named'
      exact ⟨none, same⟩
  failed fault failed := by
    obtain ⟨own, value, -, -, -, same, -⟩ | ⟨own, reply, -, -, -, same, left⟩ |
      ⟨other, -, -, -, left⟩ := takes_looked_iff.mp takes
    · cases failed.symm.trans same
    · cases reply with
      | ok answer => cases failed.symm.trans same
      | error cause => exact left
    · exact left

/-- **Whatever was looked up and cleared before**, and whatever the host answered, the cache holds
its first answers since then, and the next lookup gives the first answer to its key. A lookup
without a fingerprint is the one with the fingerprint that the clause has on its own. -/
theorem first_answers (turns : Turns history cache) :
    Accounts history cache ∧
      (∀ q asked result cache', (Turn.looked q asked result).Takes cache cache' →
        Accounted history cache q asked result cache') ∧
      ∀ (q : Inquiry) own, Fingerprint.clauseKey .empty .inner q.restriction.clause = .ok own →
        Inquiry.look { q with fingerprint := none } =
          Inquiry.look { q with fingerprint := own } := by
  refine ⟨turns.accounts, fun _ _ _ _ takes => turns.accounts.accounted takes,
    fun q own hashed => ?_⟩
  rw [Inquiry.look, clauseSelectivity, hashed]
  rfl

/-- A clause that is known by a fingerprint. -/
def seventh : Inquiry := { restriction := ⟨"c", .null⟩, scope := 1, fingerprint := some 7 }

/-- The host fails at first, is asked again, and then no more. -/
theorem first_answers_after_failure :
    Accounts [.looked seventh [] (.ok (clamp 2)),
      .looked seventh (seventh.asks (.ok 2)) (.ok (clamp 2)),
      .looked seventh (seventh.asks (.error .noSuchFile)) (.error .noSuchFile)]
      (remember {} ⟨7, 1⟩ 2) := by
  have refused : Turns
      [.looked seventh (seventh.asks (.error .noSuchFile)) (.error .noSuchFile)] {} :=
    .turn .new (takes_looked_iff.mpr
      (.inr (.inl ⟨⟨7, 1⟩, .error .noSuchFile, rfl, rfl, rfl, rfl, rfl⟩)))
  have answered : Turns [.looked seventh (seventh.asks (.ok 2)) (.ok (clamp 2)),
      .looked seventh (seventh.asks (.error .noSuchFile)) (.error .noSuchFile)]
      (remember {} ⟨7, 1⟩ 2) :=
    .turn refused (takes_looked_iff.mpr
      (.inr (.inl ⟨⟨7, 1⟩, .ok 2, rfl, rfl, rfl, rfl, rfl⟩)))
  exact (first_answers (.turn answered (takes_looked_iff.mpr
    (.inl ⟨⟨7, 1⟩, clamp 2, rfl, rfl, rfl, rfl, rfl⟩)))).1

end SelectivityCache

end CardinalityAdvisor
