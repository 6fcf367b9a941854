import CardinalityAdvisor.Proofs.Session.LookUp

/-!
# Deactivated classes

A class that is stored with all of its flags off is deactivated when it is looked up. From then on
its queries are passed over for the rest of the session: the knowledge base is not asked about the
class any more, so that nothing that is stored later, and no other settings, can bring the class
back. The classifications of a session are listed here with the latest one first, and in between
anything may happen to the session, but for the set of deactivated classes.

## Main definitions

* `Verdict`: a classification of a session, with all that it was told
* `Course s₀ verdicts s`: the classifications that led from one session to another
* `Verdict.Deactivates v hash`: a classification has deactivated a class, and why
* `Verdict.Ignores v hash`: a classification has passed a class over

## Main results

* `deactivated_of_classify`: what one classification does to the set of deactivated classes
* `Course.mem_deactivated`: the deactivated classes are those that some classification deactivated
* `deactivation_lasts`: a deactivated class is passed over from then on
-/

namespace CardinalityAdvisor

open CardinalityAdvisor.Action

/-! ## The classifications of a session -/

/-- A classification of a session. -/
structure Verdict where
  query : Query
  before : Session
  asked : List Asked
  result : Except Fault Classified
  after : Session

/-- A query was classified as a verdict says. -/
def Verdict.Holds (v : Verdict) : Prop := Runs (classify v.query) v.before v.asked v.result v.after

/-- The classifications that led from one session to another, the latest one first. -/
inductive Course (s₀ : Session) : List Verdict → Session → Prop
  | start : Course s₀ [] s₀
  | classified {verdicts : List Verdict} (v : Verdict) : Course s₀ verdicts v.before → v.Holds →
      Course s₀ (v :: verdicts) v.after
  /-- Something else happens: settings are changed, classes are released, the knowledge base is used
  by others, or the state of the host changes. -/
  | elsewhere {verdicts : List Verdict} {s s' : Session} : Course s₀ verdicts s →
      s'.deactivated = s.deactivated → Course s₀ verdicts s'

/-- A classification has deactivated a class that was not deactivated before. The class is that of
the query, and it was found with all flags off, while statistics were not collected for all queries
and the mode was not disabled. -/
structure Verdict.Deactivates (v : Verdict) (hash : Int) : Prop where
  before : hash ∉ v.before.deactivated
  after : hash ∈ v.after.deactivated
  own : v.query.classIn v.asked = some hash
  found : ∃ c : QueryClass, (⟨.knowledge (.findClass hash), .ok (some c)⟩ : Asked) ∈ v.asked ∧
    c.learn = false ∧ c.usePrediction = false ∧ c.autoTune = false
  unforced : v.before.settings.forcesCollection = false
  mode : ∃ mode, v.before.settings.resolvedMode = .ok mode ∧ mode ≠ .disabled

/-! ## One classification -/

/-- A class is idle if its flags are all off, and statistics are not collected for all queries. -/
theorem QueryClass.idle_iff {c : QueryClass} {force : Bool} : c.idle force = true ↔
    c.learn = false ∧ c.usePrediction = false ∧ c.autoTune = false ∧ force = false := by
  unfold idle
  simp only [Bool.not_eq_true', Bool.or_eq_false_iff, and_assoc]

/-- Resolving a policy deactivates the class if it is found idle, and no other class. -/
theorem deactivated_of_resolvePolicy {mode : Mode} {start : PlanningPolicy}
    {text : Option String} {s s' : Session} {t : List Asked} {result : Except Fault PlanningPolicy}
    (run : Runs (resolvePolicy mode start text) s t result s') :
    s'.deactivated = s.deactivated ∨
      s'.deactivated = s.deactivated.insert start.queryHash ∧ mode ≠ .disabled ∧
        ∃ c : QueryClass, (⟨.knowledge (.findClass start.queryHash), .ok (some c)⟩ : Asked) ∈ t ∧
          c.idle s.settings.forcesCollection = true := by
  obtain ⟨found, -, ⟨-, -, rfl⟩ | ⟨on, part, within, lookUp⟩⟩ := resolvePolicy_settled run
  · exact .inl rfl
  cases LookedUp.of_runs lookUp with
  | unavailable | broken | left | registered => exact .inl rfl
  | stored c asked =>
    unfold Session.deactivateIdle
    split
    · rename_i idle
      exact .inr ⟨rfl, on, c, within asked, idle⟩
    · exact .inl rfl

/-- **One classification** leaves the deactivated classes alone, or it deactivates the class of its
query. -/
theorem deactivated_of_classify {v : Verdict} (holds : v.Holds) :
    v.after.deactivated = v.before.deactivated ∨
      ∃ hash, v.after.deactivated = v.before.deactivated.insert hash ∧ v.Deactivates hash := by
  obtain ⟨query, s, t, result, s'⟩ := v
  dsimp only [Verdict.Holds] at holds ⊢
  cases Guarded.of_runs holds with
  | failed fault failed => exact .inl (within_admission query failed).deactivated
  | stopped reason exchanges stopped => exact .inl (within_admission query stopped).deactivated
  | @admitted asked rest s₁ _ _ a exchanges admitted goesOn =>
    have checked : SameButChecked s s₁ := within_admission query admitted
    cases Entered.of_runs goesOn with
    | passedOver => exact .inl checked.deactivated
    | @resolved part _ r wanted _ within resolve =>
      rw [checked.deactivated] at wanted
      obtain same | ⟨inserted, on, c, found, idle⟩ := deactivated_of_resolvePolicy resolve
      · exact .inl (same.trans checked.deactivated)
      have added : s'.deactivated = s.deactivated.insert a.hash := by
        rw [inserted, ← checked.deactivated]
        rfl
      refine .inr ⟨a.hash, added, ?_⟩
      obtain ⟨known, -⟩ := Admission.of_runs admitted
      rw [QueryClass.idle_iff] at idle
      obtain ⟨learn, use, tune, unforced⟩ := idle
      have member := List.mem_append_right asked (within found)
      rw [exchanges]
      exact
        { before := wanted
          after := by rw [added]; exact List.mem_insert_self
          own := Admission.classIn rfl admitted
          found := ⟨c, member, learn, use, tune⟩
          unforced := (congrArg Settings.forcesCollection checked.settings).symm.trans unforced
          mode := ⟨a.mode, known, on⟩ }

/-- A classification deactivates classes and never brings one back. -/
theorem Verdict.Holds.subset {v : Verdict} (holds : v.Holds) :
    v.before.deactivated ⊆ v.after.deactivated := by
  obtain same | ⟨hash, inserted, -⟩ := deactivated_of_classify holds
  · rw [same]
    exact List.Subset.refl _
  · rw [inserted]
    exact fun other member => List.mem_insert_of_mem member

/-! ## Whole sessions -/

namespace Course

variable {s₀ s : Session} {verdicts : List Verdict}

/-- **The deactivated classes** only become more. -/
theorem subset (h : Course s₀ verdicts s) : s₀.deactivated ⊆ s.deactivated := by
  induction h with
  | start => exact List.Subset.refl _
  | classified v _ holds ih => exact List.Subset.trans ih holds.subset
  | elsewhere _ same ih =>
    rw [same]
    exact ih

/-- A class is deactivated if it was from the start, or if some classification has deactivated
it. -/
theorem mem_deactivated (h : Course s₀ verdicts s) (hash : Int) :
    hash ∈ s.deactivated ↔ hash ∈ s₀.deactivated ∨ ∃ v ∈ verdicts, v.Deactivates hash := by
  induction h with
  | start => simp
  | elsewhere _ same ih =>
    rw [same]
    exact ih
  | classified v _ holds ih =>
    -- What was deactivated before stays, and the latest classification may add its own class.
    constructor
    · intro member
      by_cases before : hash ∈ v.before.deactivated
      · obtain started | ⟨earlier, listed, deactivates⟩ := ih.mp before
        · exact .inl started
        · exact .inr ⟨earlier, List.mem_cons_of_mem _ listed, deactivates⟩
      · obtain same | ⟨other, inserted, deactivates⟩ := deactivated_of_classify holds
        · rw [same] at member
          exact absurd member before
        · rw [inserted] at member
          obtain rfl | member := List.mem_insert_iff.mp member
          · exact .inr ⟨v, List.mem_cons_self, deactivates⟩
          · exact absurd member before
    · rintro (started | ⟨w, listed, deactivates⟩)
      · exact holds.subset (ih.mpr (.inl started))
      · rcases List.mem_cons.mp listed with rfl | earlier
        · exact deactivates.after
        · exact holds.subset (ih.mpr (.inr ⟨w, earlier, deactivates⟩))

/-- Every classification of a course holds, and it begins with at least the classes deactivated that
were so at the start. -/
theorem of_mem (h : Course s₀ verdicts s) {v : Verdict} (listed : v ∈ verdicts) :
    v.Holds ∧ s₀.deactivated ⊆ v.before.deactivated := by
  induction h with
  | start => cases listed
  | elsewhere _ _ ih => exact ih listed
  | classified w earlier holds ih =>
    rcases List.mem_cons.mp listed with rfl | listed
    · exact ⟨holds, earlier.subset⟩
    · exact ih listed

end Course

/-- A classification has passed a class over, whether it failed or not: the knowledge base was at
most asked whether it is there, no class became active, and the policy is the disabled one of the
class, or of no class if a guard stopped the query. -/
structure Verdict.Ignores (v : Verdict) (hash : Int) : Prop where
  spared : ∀ x ∈ v.asked, x.request.Spares
  active : v.after.active = v.before.active
  result : ∀ classified, v.result = .ok classified →
    v.query.IsAdmitted v.before v.asked ∧ classified = .passedOver hash ∨
      v.query.IsStopped v.before v.asked ∧ classified = .passedOver 0

/-- **A deactivated class** is passed over for the rest of the session. Whatever happens between the
classifications of a session, the set of deactivated classes only grows. A class comes to it only in
a classification that found the class stored with all flags off, while statistics were not collected
for all queries and the mode was not disabled. Every later classification of a query of the class
asks the knowledge base at most whether it is there, activates no class, and gives a disabled
policy, if it does not fail. -/
theorem deactivation_lasts {s₀ s : Session} {verdicts : List Verdict}
    (course : Course s₀ verdicts s) :
    (∀ later s', Course s later s' → s.deactivated ⊆ s'.deactivated) ∧
      (∀ hash ∈ s.deactivated,
        hash ∈ s₀.deactivated ∨ ∃ v ∈ verdicts, v.Deactivates hash) ∧
      ∀ hash ∈ s.deactivated, ∀ later s', Course s later s' → ∀ v ∈ later,
        v.query.classIn v.asked = some hash → v.Ignores hash := by
  refine ⟨fun later s' onwards => onwards.subset, fun hash => (course.mem_deactivated hash).mp, ?_⟩
  intro hash deactivated later s' onwards v listed own
  obtain ⟨holds, kept⟩ := onwards.of_mem listed
  obtain ⟨spared, checked, given⟩ := passedOver_of_known (.inl (kept deactivated)) own holds
  exact ⟨spared, checked.active, given⟩

/-- Surroundings in which every class is stored with all flags off. -/
def idleStored : (request : Request) → request.Reply
  | .knowledge (.findClass hash) => .ok (some ⟨hash, hash, false, false, false, false⟩)
  | request => nothingStored request

/-- How the classification of a query without conditions ends in such surroundings. -/
def idleOutcome (s : Session) : Except Fault Classified × Session :=
  outcome idleStored (classify (bareQuery .select)) s

/-- The session after it, once the class is released and under other settings. -/
def Session.afterIdle (s : Session) (settings : Settings) : Session :=
  { (idleOutcome s).2 with settings, active := [] }

/-- In controlled mode, the class is deactivated by that. -/
theorem exists_idle_course (settings : Settings) :
    ∃ v, Course controlling [v] (controlling.afterIdle settings) ∧
      bareHash ∈ (controlling.afterIdle settings).deactivated := by
  obtain ⟨t, run, -⟩ := exists_runs idleStored (classify (bareQuery .select)) controlling
  let v : Verdict :=
    ⟨bareQuery .select, controlling, t, (idleOutcome controlling).1, (idleOutcome controlling).2⟩
  have classified : Course controlling [v] v.after := .classified v .start run
  -- That the class is released and the settings are changed does not bring the class back.
  refine ⟨v, .elsewhere classified rfl, ?_⟩
  show bareHash ∈ (idleOutcome controlling).2.deactivated
  decide +kernel

/-- A class that is found with all flags off in controlled mode is passed over when its query is
classified again, although new classes are learned by then. -/
theorem deactivation_lasts_learning : ∃ v w,
    Course controlling [v] (controlling.afterIdle learning.settings) ∧ v.Deactivates bareHash ∧
      Course (controlling.afterIdle learning.settings) [w] w.after ∧ w.Ignores bareHash := by
  let s := controlling.afterIdle learning.settings
  obtain ⟨v, course, deactivated⟩ := exists_idle_course learning.settings
  obtain ⟨-, entered, ignored⟩ := deactivation_lasts course
  obtain ⟨t, run, -⟩ := exists_runs idleStored (classify (bareQuery .select)) s
  let w : Verdict := ⟨bareQuery .select, s, t, (idleOutcome s).1, (idleOutcome s).2⟩
  have onwards : Course s [w] w.after := .classified w .start run
  refine ⟨v, w, course, ?_, onwards, ?_⟩
  · obtain started | ⟨_, listed, deactivates⟩ := entered bareHash deactivated
    · cases started
    · rw [List.mem_singleton.mp listed] at deactivates
      exact deactivates
  · exact ignored bareHash deactivated [w] w.after onwards w List.mem_cons_self
      (classIn_bareQuery t)

end CardinalityAdvisor
