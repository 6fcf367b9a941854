import CardinalityAdvisor.Proofs.Planning.Nesting
import CardinalityAdvisor.Proofs.Planning.Records
import Mathlib.Data.List.Nodup

/-!
# Whose selectivities a planning call uses

All planning calls of a session share what is remembered of selectivities. It is forgotten when a
query passes the guards, so nothing is left of the planning calls before. A planning call that is
nested in another one leaves its answers behind, though, and the outer call takes them for its own
clauses: fingerprints do not tell constants apart.

## Main definitions

* `answersSince events`: the answers of the host since nothing was remembered the last time
* `Sourced events l`: where the selectivity comes from that a lookup gave

## Main results

* `Remembered.of_run`: what is remembered at every moment of a run
* `selectivities_of_record`: where the selectivities of a record come from, and exactly when they
  are the planning call's own
-/

namespace CardinalityAdvisor

variable {s₀ : Session} {m m' : Moment} {e : Event} {events : List Event}

/-- The lookups that the host answered since nothing was remembered the last time, the latest one
first. The events of a run are given with the latest one first, too. -/
def answersSince : List Event → List Lookup
  | [] | .opened true :: _ | .refused true :: _ => []
  | .looked l :: events => if l.answer.isSome then l :: answersSince events else answersSince events
  | .opened false :: events | .refused false :: events | .closed :: events
  | .elsewhere :: events => answersSince events

/-- Where the selectivity comes from that the lookup `l` gave as the latest of some events: it is
the only answer of the host under its key since nothing was remembered the last time, given in
the same planning call or in one nested inside it. The answer is the planning call's own exactly if
no call nested inside it has asked the host under the key. -/
def Sourced (events : List Event) (l : Lookup) : Prop :=
  ∃ a ∈ answersSince (.looked l :: events), a.key = l.key ∧ a.answer.map clamp = some l.value ∧
    l.calls <:+ a.calls ∧
    (a.calls = l.calls ↔
      ∀ b ∈ answersSince (.looked l :: events), b.key = l.key → b.calls = l.calls)

@[simp] theorem answersSince_opened (emptied : Bool) :
    answersSince (.opened emptied :: events) = if emptied then [] else answersSince events := by
  cases emptied <;> rfl

@[simp] theorem answersSince_refused (emptied : Bool) :
    answersSince (.refused emptied :: events) = if emptied then [] else answersSince events := by
  cases emptied <;> rfl

@[simp] theorem answersSince_closed : answersSince (.closed :: events) = answersSince events := rfl

@[simp] theorem answersSince_elsewhere :
    answersSince (.elsewhere :: events) = answersSince events := rfl

theorem SelectivityCache.find?_of_isEmpty {c : SelectivityCache} (h : c.isEmpty = true)
    (key : SelectivityKey) : c.find? key = none := by
  obtain ⟨entries, misses⟩ := c
  obtain rfl : entries = [] := List.isEmpty_iff.mp h
  rfl

/-- A policy that uses predictions is given only when everything has been forgotten. -/
theorem Classification.clear {s s₁ : Session} {policy : PlanningPolicy} {entered : Bool}
    (classified : Classification s (.ok ⟨policy, entered⟩) s₁)
    (predicts : policy.usePrediction = true) : s₁.cache = .clear := by
  cases entered with
  | true => exact classified.activated.2.2
  | false =>
    rw [classified.passedOver.2] at predicts
    cases predicts

/-- While planning calls are in progress that use predictions, exactly the answers are remembered
that the host gave since nothing was, each under another key, and they were given inside all of
these calls. -/
structure Remembered (events : List Event) (m : Moment) : Prop where
  kept : ∀ a ∈ answersSince events, ∃ answer, a.answer = some answer ∧
    m.session.cache.find? a.key = some (clamp answer)
  distinct : ((answersSince events).map (·.key)).Nodup
  answered : ∀ f ∈ m.frames, f.policy.usePrediction = true → ∀ key value,
    m.session.cache.find? key = some value → ∃ a ∈ answersSince events, a.key = key
  inside : ∀ f ∈ m.frames, f.policy.usePrediction = true → ∀ a ∈ answersSince events,
    f.calls <:+ a.calls

namespace Remembered

/-- Nothing is remembered, and nothing was answered since. -/
theorem emptied (none : answersSince events = []) (empty : m.session.cache.isEmpty = true) :
    Remembered events m where
  kept := by simp [none]
  distinct := by simp [none]
  answered f _ _ key value found := by
    rw [SelectivityCache.find?_of_isEmpty empty] at found
    cases found
  inside := by simp [none]

/-- The same is remembered, and no planning calls are added that use predictions. -/
theorem same {later : List Event} (h : Remembered events m)
    (answers : answersSince later = answersSince events)
    (cache : m'.session.cache = m.session.cache)
    (frames : ∀ f ∈ m'.frames, f.policy.usePrediction = true → f ∈ m.frames) :
    Remembered later m' where
  kept := by
    rw [answers, cache]
    exact h.kept
  distinct := by
    rw [answers]
    exact h.distinct
  answered f inside predicts := by
    rw [answers, cache]
    exact h.answered f (frames f inside predicts) predicts
  inside f inside predicts := by
    rw [answers]
    exact h.inside f (frames f inside predicts) predicts

/-- A classification keeps what is remembered, or it forgets all of it. -/
theorem classified {s₁ : Session} {result : Except Fault Classified} {frames : List Frame}
    (h : Remembered events m) (classified : Classification m.session result s₁)
    (answers : answersSince (e :: events) = if s₁.cache.isEmpty then [] else answersSince events)
    (new : ∀ f ∈ frames, f.policy.usePrediction = true → f ∈ m.frames ∨ s₁.cache = .clear)
    {s' : Session} (cache : s'.cache = s₁.cache) : Remembered (e :: events) ⟨s', frames⟩ := by
  cases empty : s₁.cache.isEmpty with
  | true =>
    rw [empty, if_pos rfl] at answers
    refine emptied answers ?_
    show s'.cache.isEmpty = true
    rw [cache, empty]
  | false =>
    have notClear : s₁.cache ≠ .clear := by
      intro clear
      rw [clear] at empty
      cases empty
    rw [empty, if_neg Bool.false_ne_true] at answers
    refine h.same answers (cache.trans (classified.cache.resolve_right notClear)) ?_
    intro f inside predicts
    exact (new f inside predicts).resolve_right notClear

/-- An answer of the host is remembered from then on. -/
theorem answer {l : Lookup} {s' : Session} {answer : Float} (h : Remembered events m)
    (stacked : Stacked s₀ m) (here : l.calls = m.session.calls) (asked : l.answer = some answer)
    (unknown : m.session.cache.find? l.key = none)
    (cache : s'.cache = m.session.cache.remember l.key answer) :
    Remembered (.looked l :: events) ⟨s', m.frames⟩ := by
  have answers : answersSince (.looked l :: events) = l :: answersSince events := by
    rw [answersSince, asked, Option.isSome_some, if_pos rfl]
  -- The key is new, so no other answer is under it and what is under other keys stays.
  have find (key : SelectivityKey) : s'.cache.find? key =
      if key = l.key then some (clamp answer) else m.session.cache.find? key := by
    rw [cache, SelectivityCache.find?_remember]
  have new : ∀ a ∈ answersSince events, a.key ≠ l.key := by
    intro a inside same
    obtain ⟨_, -, known⟩ := h.kept a inside
    rw [same, unknown] at known
    cases known
  constructor
  · rw [answers]
    refine List.forall_mem_cons.mpr ⟨⟨answer, asked, ?_⟩, ?_⟩
    · show s'.cache.find? l.key = _
      rw [find, if_pos rfl]
    · intro a inside
      obtain ⟨given, same, known⟩ := h.kept a inside
      refine ⟨given, same, ?_⟩
      show s'.cache.find? a.key = _
      rw [find, if_neg (new a inside), known]
  · rw [answers, List.map_cons]
    refine List.nodup_cons.mpr ⟨?_, h.distinct⟩
    intro inside
    obtain ⟨a, inside, same⟩ := List.mem_map.mp inside
    exact new a inside same
  · intro f inside predicts key value found
    rw [answers]
    change s'.cache.find? key = some value at found
    rw [find] at found
    split at found
    · rename_i same
      exact ⟨l, List.mem_cons_self, same.symm⟩
    · obtain ⟨a, inside, same⟩ := h.answered f inside predicts key value found
      exact ⟨a, List.mem_cons_of_mem _ inside, same⟩
  · intro f inside predicts
    rw [answers]
    refine List.forall_mem_cons.mpr ⟨?_, h.inside f inside predicts⟩
    rw [here]
    exact stacked.calls_suffix inside

theorem step (h : Remembered events m) (stacked : Stacked s₀ m) (step : Step m e m') :
    Remembered (e :: events) m' := by
  cases step with
  | opened run =>
    obtain ⟨s₁, classified, number, pushed⟩ := Opened.of_runs run
    refine h.classified classified ?_ ?_ ?_
    · rw [pushed, Session.push_cache]
      exact answersSince_opened _
    · intro f inside predicts
      rcases List.mem_cons.mp inside with rfl | inside
      · exact .inr (classified.clear predicts)
      · exact .inl inside
    · rw [pushed, Session.push_cache]
  | refused run =>
    have classified := Classification.of_not_opened run
    exact h.classified classified (answersSince_refused _) (fun f inside _ => .inl inside) rfl
  | closed run =>
    refine h.same answersSince_closed (stacked.closing run).2.cache ?_
    exact fun f inside _ => List.mem_cons_of_mem _ inside
  | looked _ here run =>
    obtain ⟨unasked, -, rfl⟩ | ⟨answer, asked, unknown, -, rfl⟩ := Lookup.of_runs run
    · refine h.same ?_ rfl (fun f inside _ => inside)
      rw [answersSince, unasked, Option.isSome_none, if_neg Bool.false_ne_true]
    · exact h.answer stacked here asked unknown rfl
  | elsewhere same =>
    exact h.same answersSince_elsewhere same.cache (fun f inside _ => inside)

/-- What is remembered at every moment of a run. -/
theorem of_run (run : Run ⟨s₀, []⟩ events m) : Remembered events m := by
  induction run with
  | start => exact ⟨by simp [answersSince], List.nodup_nil, by simp, by simp⟩
  | step run step ih => exact ih.step (.of_run run) step

end Remembered

/-! ## Lookups -/

/-- In a session that began without planning calls, predictions are used only in a planning call
of the run. -/
theorem Stacked.predicting (h : Stacked s₀ m) (fresh : s₀.calls = [])
    (predicts : Predicts m.session) :
    ∃ f ∈ m.frames, f.policy.usePrediction = true ∧ f.calls = m.session.calls := by
  obtain ⟨s, _ | ⟨f, outer⟩⟩ := m
  · have none : s.calls = [] := h.calls.trans fresh
    rw [Predicts, Session.current, none] at predicts
    cases predicts
  · refine ⟨f, List.mem_cons_self, ?_, ?_⟩
    · rw [← h.current]
      exact predicts
    · have before : f.before.calls = policyIds outer ++ s₀.calls := h.before f outer List.suffix_rfl
      rw [Frame.calls, before, h.calls]
      rfl

/-- **Every lookup of a run** gives an answer that the host gave in the same planning call or in
one nested inside it. -/
theorem Sourced.of_run {l : Lookup} (fresh : s₀.calls = [])
    (run : Run ⟨s₀, []⟩ (.looked l :: events) m) : Sourced events l := by
  have after := Remembered.of_run run
  have stacked := Stacked.of_run run
  have distinct := List.inj_on_of_nodup_map after.distinct
  cases run with
  | step run step =>
    cases step with
    | looked predicts here looked =>
      obtain ⟨f, inside, uses, calls⟩ :=
        stacked.predicting fresh ((Lookup.sameCalls looked).predicts predicts)
      obtain ⟨a, given, key⟩ := after.answered f inside uses _ _ (Lookup.found looked)
      obtain ⟨answer, asked, known⟩ := after.kept a given
      have value : clamp answer = l.value := by
        rw [key, Lookup.found looked] at known
        exact (Option.some.inj known).symm
      refine ⟨a, given, key, ?_, ?_, ?_, ?_⟩
      · rw [asked, Option.map_some, value]
      · rw [here, ← (Lookup.sameCalls looked).calls, ← calls]
        exact after.inside f inside uses a given
      · intro own b answered same
        rw [distinct answered given (same.trans key.symm)]
        exact own
      · intro own
        exact own a given key

/-- The lookups of a run that starts with some events are sourced, each after those before it. -/
theorem Sourced.of_looksUp {s s' : Session} {frames : List Frame} {own : List Lookup}
    (fresh : s₀.calls = []) (run : Run ⟨s₀, []⟩ events ⟨s, frames⟩) (predicts : Predicts s)
    (looks : LooksUp s own s') :
    ∀ earlier l later, own = earlier ++ l :: later →
      Sourced ((earlier.map Event.looked).reverse ++ events) l := by
  induction looks generalizing events with
  | nil => simp
  | cons here looked rest ih =>
    have first := Run.step run (.looked predicts here looked)
    intro earlier l later same
    cases earlier with
    | nil =>
      cases same
      exact .of_run fresh first
    | cons head earlier =>
      cases same
      have next := ih first ((Lookup.sameCalls looked).predicts predicts) earlier l later rfl
      rw [List.map_cons, List.reverse_cons, List.append_assoc]
      exact next

/-- **The selectivities of a record.** Take any moment of a run of a session that began without
planning calls, at which a hook makes a record for a planning call that uses predictions. The
selectivities in the record are those that were looked up for the clauses of the hook, and then
those of the inputs. Each clause of the hook is looked up under the fingerprint that it has among
the clauses of the hook and of the inputs, in the scope and for the join of the place, and that
fingerprint stands beside its selectivity. Each that was looked up is the only answer under its key
since nothing was remembered, given in this planning call or in one nested inside it, and it is
this planning call's own exactly if no call nested inside it has asked the host under the key since
then. -/
theorem selectivities_of_record {place : Place} {restrictions : List Restriction}
    {record : ClauseRecord} {t : List Asked} {s' : Session} (fresh : s₀.calls = [])
    (run : Run ⟨s₀, []⟩ events m) (predicts : Predicts m.session)
    (collected : Action.Runs (collect place restrictions) m.session t (.ok record) s') :
    ∃ own : List Lookup, own.map (·.restriction) = restrictions ∧
      (∃ e, Fingerprint.Equivalence.ofClauses
          (restrictions.map (·.clause) ++ place.inputs.flatMap (·.clauses)) = .ok e ∧
        ∀ l ∈ own, l.IsFor e place.scope place.join) ∧
      record.fingerprints = own.map (·.key.fingerprint) ++ place.inputs.flatMap (·.fingerprints) ∧
      record.selectivities = own.map (·.value) ++ place.inputs.flatMap (·.selectivities) ∧
      (∀ l ∈ own, l.calls = m.session.calls) ∧
      Run ⟨s₀, []⟩ ((own.map .looked).reverse ++ events) ⟨s', m.frames⟩ ∧
      ∀ earlier l later, own = earlier ++ l :: later →
        Sourced ((earlier.map Event.looked).reverse ++ events) l := by
  obtain ⟨own, looks, recorded⟩ := collect_looksUp collected
  obtain ⟨restricted, keyed, whole⟩ := recorded record rfl
  refine ⟨own, restricted, keyed, ?_, ?_, looks.calls, run.trans (looks.run predicts m.frames),
    .of_looksUp fresh run predicts looks⟩
  · rw [whole, ClauseRecord.concat_fingerprints, List.flatMap_cons]
  · rw [whole, ClauseRecord.concat_selectivities, List.flatMap_cons]

/-- A clause that calls a function with a constant. -/
def callWith (value : Int) : Restriction :=
  ⟨"call", .object [("FuncCall", .object [("args", .object [("A_Const", .int value)])])]⟩

/-- A clause is collected for a nested call, which ends, and then one with another constant for the
outer call. -/
theorem selectivities_of_record_after_nested :
    ∃ events s frames, ∃ record : ClauseRecord, ∃ own,
      Run ⟨learning, []⟩ events ⟨s, frames⟩ ∧ Predicts s ∧
      own.map Lookup.restriction = [callWith 1] ∧ record.selectivities = own.map Lookup.value ∧
      ∀ earlier l later, own = earlier ++ l :: later →
        Sourced ((earlier.map Event.looked).reverse ++ events) l := by
  let outer : Session := learning.after (openCall (bareQuery .select))
  let inner : Session := outer.after (openCall (bareQuery .delete))
  let nested : Session := inner.after (collect { scope := 1 } [callWith 2])
  let ended : Session := nested.after (closeCall ⟨1, true⟩)
  have opens : (Action.outcome nothingStored (openCall (bareQuery .select)) learning).1.toOption =
      some ⟨0, true⟩ := by decide +kernel
  have opensInner : (Action.outcome nothingStored (openCall (bareQuery .delete)) outer).1.toOption =
      some ⟨1, true⟩ := by decide +kernel
  have predicts : Predicts inner ∧ Predicts ended := by
    unfold Predicts
    decide +kernel
  have fresh : learning.calls = [] := rfl
  have begins : Run ⟨learning, []⟩ [] ⟨learning, []⟩ := .start
  have begun := (begins.opening opens).opening opensInner
  obtain ⟨_, collects, -⟩ := Action.exists_runs nothingStored
    (collect { scope := 1 } [callWith 2]) inner
  obtain ⟨_, looks, -⟩ := collect_looksUp collects
  obtain ⟨_, closes, -⟩ := Action.exists_runs nothingStored (closeCall ⟨1, true⟩) nested
  have run : Run ⟨learning, []⟩ _ ⟨ended, _⟩ :=
    (begun.trans (looks.run predicts.1 _)).step (.closed closes)
  obtain ⟨t, collected, -⟩ := Action.exists_runs nothingStored
    (collect { scope := 1 } [callWith 1]) ended
  have succeeds : (Action.outcome nothingStored (collect { scope := 1 } [callWith 1])
    ended).1.isOk = true := by decide +kernel
  -- What the sessions are is not needed any more, and would be computed again in every step.
  clear_value ended nested inner outer
  cases result : (Action.outcome nothingStored (collect { scope := 1 } [callWith 1]) ended).1 with
  | error fault =>
    rw [result] at succeeds
    cases succeeds
  | ok record =>
    rw [result] at collected
    obtain ⟨own, restricted, -, -, selectivities, -, -, sourced⟩ :=
      selectivities_of_record fresh run predicts.2 collected
    rw [List.flatMap_nil, List.append_nil] at selectivities
    exact ⟨_, _, _, record, own, run, predicts.2, restricted, selectivities, sourced⟩

end CardinalityAdvisor
