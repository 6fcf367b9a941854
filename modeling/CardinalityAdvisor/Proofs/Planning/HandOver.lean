import CardinalityAdvisor.Proofs.Planning.Answers
import CardinalityAdvisor.Proofs.Planning.Hooks
import CardinalityAdvisor.Proofs.Session.Ends

/-!
# Which estimate is handed over

An estimate of filtered rows is staged until the planner has made the parameterization it belongs
to. In between, the planner may ask for other estimates, policies may come and go, and the planner
may even forget to ask that the estimate is handed over. A parameterization gets the latest estimate
of filtered rows if nothing was handed over since then, and if predictions were in use both then and
now. Otherwise it gets none.

## Main definitions

* `Asked.Steady x`: a reply is no failure of a predictor or of an estimator of the host
* `Site.Offers site hook s t rows e`: the estimate that a hook came to at a place
* `HookDeed`, `HookStep`, `HookRun`: what happens at a hook, one step of it, and all steps
* `Latest e history`: an estimate is the latest one, and it was not handed over yet
* `HandsOver`: what a parameterization gets

## Main results

* `offers_of_runs`: a hook with predictions stages the estimate that it came to
* `staged_of_step`: what each step leaves staged
* `attach_latest`: a parameterization gets the latest estimate, and no estimate twice
-/

namespace CardinalityAdvisor

open CardinalityAdvisor.Action

variable {s s' : Session} {t : List Asked} {site : Site} {hook : Hook} {behind : Estimator}
  {record : ClauseRecord} {rows : Float}

/-- A reply is no failure of a predictor, of a stored sample or of an estimator of the host.
Selectivities may fail. -/
def Asked.Steady (x : Asked) : Prop := x.request.IsSelectivity ∨ x.Answers

theorem Asked.Steady.answers {x : Asked} (h : x.Steady)
    (consulted : x.request.isConsultation = true) : x.Answers := by
  refine h.resolve_left ?_
  rintro ⟨restriction, join, selectivity⟩
  rw [selectivity] at consulted
  cases consulted

/-! ## Predictions -/

/-- The mark of what a predictor answered; a refusal has no rows. -/
def Prediction.answerMark (p : Prediction) : Mark := ⟨p.answer.getD noPrediction, p.sampleKey⟩

theorem Prediction.answer_eq_some_iff {p : Prediction} {answer : Float} :
    p.answer = some answer ↔ p.isRefusal = false ∧ p.rows = answer := by
  cases refuses : p.isRefusal <;> simp [Prediction.answer, refuses]

/-- A hook hands on what its predictor answered. -/
theorem runs_predict_handed {handed : Prediction}
    (run : Runs (hook.predict record) s t (.ok handed) s') :
    ∃ t₁ rest p, t = t₁ ++ rest ∧ Runs (hook.consult (requestFor s record)) s t₁ (.ok p) s ∧
      handed.mark = p.answerMark ∧ handed.answer = p.answer := by
  rw [Hook.predict, runs_get_bind] at run
  obtain ⟨t₁, rest, p, s₁, rfl, consulted, run⟩ | ⟨_, failed, -⟩ := runs_bind.mp run
  swap
  · cases failed
  obtain rfl : s = s₁ := leavesSession_consult hook _ consulted
  refine ⟨t₁, rest, p, rfl, consulted, ?_⟩
  cases refuses : p.isRefusal with
  | true =>
    simp only [refuses, if_true] at run
    obtain ⟨-, same, -⟩ := runs_hookLog_bind run
    cases same
    rw [Prediction.answerMark, Prediction.answer, Prediction.answer, if_pos refuses,
      if_pos (refused_isRefusal _)]
    exact ⟨rfl, rfl⟩
  | false =>
    simp only [refuses, Bool.false_eq_true, if_false] at run
    obtain ⟨-, same, -⟩ := runs_hookLog_bind run
    cases same
    rw [Prediction.answerMark, Prediction.answer, refuses, if_neg Bool.false_ne_true]
    exact ⟨rfl, rfl⟩

/-- With a record that is known, rows are always estimated. -/
theorem exists_rows_of_known {e : Estimator} {result : Except Fault Float} (on : Predicts s)
    (ofRows : site.ofRows = true) (distinct : site.Distinct s.memory)
    (known : (site.source s.memory).Known s.cache record)
    (run : Runs (site.estimate e) s t result s') (steady : ∀ x ∈ t, x.Steady) :
    ∃ rows, result = .ok rows := by
  refine exists_rows_of_ready
    (fun s => site.Distinct s.memory ∧ (site.source s.memory).Known s.cache record)
    (fun _ => Asked.Steady.answers) ?_ ?_ on ofRows ⟨distinct, known⟩ run steady
  · rintro s t fault s' ⟨-, known⟩ failed -
    cases (known.runs failed).2.1
  · rintro s t again s₁ s' ⟨distinct, known⟩ made noted
    obtain ⟨-, same, rfl⟩ := known.runs made
    cases same
    refine ⟨distinct.noted noted, ?_⟩
    rw [Site.source_noted distinct noted, noted.cache]
    exact known

/-! ## Estimates of filtered rows -/

namespace Site

/-- Whether filtered rows are estimated. -/
def isFiltered : Site → Bool
  | .filteredBase _ _ | .filteredJoin _ _ _ _ _ => true
  | _ => false

/-- The estimate that a hook came to: it made the record of the place, and the mark is what its
predictor answered to that. The rows are those of the predictor unless it refused. -/
def Offers (site : Site) (hook : Hook) (s : Session) (t : List Asked) (rows : Float)
    (e : StagedEstimate) : Prop :=
  ∃ t₁ t₂ rest s₁ p, t = t₁ ++ (t₂ ++ rest) ∧
    Runs (site.source s.memory).record s t₁ (.ok e.record) s₁ ∧
    Runs (hook.consult (requestFor s e.record)) s₁ t₂ (.ok p) s₁ ∧
    e.mark = p.answerMark ∧ ∀ answer, p.answer = some answer → rows = answer

/-- With the same replies, a hook comes to one estimate. -/
theorem Offers.unique {e e' : StagedEstimate} (h : site.Offers hook s t rows e)
    (h' : site.Offers hook s t rows e') : e = e' := by
  obtain ⟨mark, record⟩ := e
  obtain ⟨mark', record'⟩ := e'
  obtain ⟨t₁, t₂, rest, s₁, p, rfl, made, consulted, rfl, -⟩ := h
  obtain ⟨u₁, u₂, rest', s₂, p', same, made', consulted', rfl, -⟩ := h'
  obtain ⟨rfl, equal, rfl⟩ := made.unique made' same
  cases equal
  obtain ⟨-, equal, -⟩ := consulted.unique consulted' (List.append_cancel_left same)
  cases equal
  rfl

theorem settle_filtered (filtered : site.isFiltered = true) :
    site.settle hook behind record = hook.settleFiltered record (site.estimate behind) := by
  cases site with
  | filteredBase | filteredJoin => rfl
  | base | join | groups => cases filtered

theorem ofRows_of_filtered (filtered : site.isFiltered = true) : site.ofRows = true := by
  cases site with
  | filteredBase | filteredJoin => rfl
  | base | join | groups => cases filtered

theorem distinct_of_filtered (filtered : site.isFiltered = true) (m : Memory) :
    site.Distinct m := by
  cases site with
  | filteredBase | filteredJoin => trivial
  | base | join | groups => cases filtered

theorem stagers_of_filtered (filtered : site.isFiltered = true) (e : Estimator) :
    site.stagers e = e.hookNames := by
  cases site with
  | filteredBase | filteredJoin => rfl
  | base | join | groups => cases filtered

theorem stagers_of_unfiltered (unfiltered : site.isFiltered = false) (e : Estimator) :
    site.stagers e = [] := by
  cases site with
  | filteredBase | filteredJoin => cases unfiltered
  | base | join | groups => rfl

end Site

/-- **A hook with predictions** stages the estimate that it came to, and no hook behind it stages
another one in its place. -/
theorem offers_of_runs (on : Predicts s) (filtered : site.isFiltered = true)
    (alone : hook.name ∉ behind.hookNames)
    (run : Runs (site.estimate (.hooked hook behind)) s t (.ok rows) s') :
    ∃ e, site.Offers hook s t rows e ∧ s'.staged hook.name = some e := by
  have ofRows := Site.ofRows_of_filtered filtered
  obtain ⟨t₁, t', record, s₁, rfl, made, settled⟩ | ⟨_, failed, -⟩ :=
    runs_bind.mp ((Site.runs_hooked_iff on ofRows).mp run)
  swap
  · cases failed
  rw [Site.settle_filtered filtered, Hook.settleFiltered] at settled
  obtain ⟨t', t₃, handed, s₂, rfl, predicted, staged⟩ | ⟨_, failed, -⟩ := runs_bind.mp settled
  swap
  · cases failed
  obtain rfl := leavesSession_predict hook record predicted
  obtain ⟨t₂, log, p, rfl, consulted, mark, answer⟩ := runs_predict_handed predicted
  have current := ((site.source s.memory).remembers made).current
  rw [requestFor, current] at consulted
  simp only [stage, runs_modify_bind] at staged
  refine ⟨⟨handed.mark, record⟩, ⟨t₁, t₂, log ++ t₃, s₁, p, ?_, made, consulted, mark, ?_⟩, ?_⟩
  · rw [List.append_assoc]
  · intro rows' given
    rw [← answer, Prediction.answer_eq_some_iff] at given
    rw [given.1, if_neg Bool.false_ne_true] at staged
    cases (runs_pure.mp staged).2.1
    exact given.2
  · split at staged
    · have confined := confined_estimate site behind staged
      refine (confined.staged _ ?_).trans (if_pos rfl)
      rw [Site.stagers_of_filtered filtered]
      exact alone
    · rw [(runs_pure.mp staged).2.2]
      exact if_pos rfl

/-- A hook without predictions stages nothing. -/
theorem staged_of_runs_off (off : ¬ Predicts s) (filtered : site.isFiltered = true)
    (alone : hook.name ∉ behind.hookNames) {result : Except Fault Float}
    (run : Runs (site.estimate (.hooked hook behind)) s t result s') :
    s'.staged hook.name = none := by
  have off : s.current.usePrediction = false := Bool.eq_false_iff.mpr off
  have run : Runs (site.estimate behind) (s.stage hook.name none) t result s' := by
    cases site with
    | filteredBase | filteredJoin =>
      simpa only [Site.estimate, Estimator.filteredBaseRows, Estimator.filteredJoinRows,
        Site.runs_predicting_bind, off, Bool.false_eq_true, if_false, stage,
        runs_modify_bind] using run
    | base | join | groups => cases filtered
  rw [(confined_estimate site behind run).staged]
  · exact if_pos rfl
  · rw [Site.stagers_of_filtered filtered]
    exact alone

/-- An estimate of filtered rows that fails leaves what was staged before it. -/
theorem staged_of_failure {fault : Fault} (filtered : site.isFiltered = true)
    (steady : ∀ x ∈ t, x.Steady)
    (run : Runs (site.estimate (.hooked hook behind)) s t (.error fault) s') :
    s'.staged = s.staged := by
  have ofRows := Site.ofRows_of_filtered filtered
  by_cases on : Predicts s
  · obtain ⟨_, -, failed⟩ | ⟨t₁, t₂, record, s₁, rfl, made, decided⟩ :=
      Site.runs_hooked on ofRows run
    · rw [((site.source s.memory).remembers failed).same]
    replace steady := fun x member => steady x (List.mem_append_right t₁ member)
    generalize ended : Except.error fault = result at decided
    cases decided with
    | failed current predicted =>
      obtain ⟨_, same⟩ := exists_predicted predicted fun x member => (steady x member).answers
      cases same
    | answered => cases ended
    | refused current predicted refuses noted goesOn =>
      have repeats := (repeats_of_runs made).noted noted
      obtain ⟨distinct, known⟩ := repeats.known (Site.distinct_of_filtered filtered _)
      rw [Predicts, ← repeats.current] at on
      obtain ⟨rows, same⟩ := exists_rows_of_known on ofRows distinct known goesOn fun x member =>
        steady x (List.mem_append_right _ member)
      cases ended.trans same
  · obtain ⟨call, -, rfl⟩ := Site.runs_off (.inl (Bool.eq_false_iff.mpr on)) run
    obtain ⟨rows, failed⟩ := (steady _ (List.mem_singleton_self _)).answers rfl
    cases failed

/-! ## Runs of a hook -/

/-- What happens at a hook. -/
inductive HookDeed where
  /-- Filtered rows were estimated. With predictions, the hook came to an estimate. -/
  | filtered (estimate : Option StagedEstimate)
  | attached
  /-- Something that does not concern staged estimates. An estimate of filtered rows that failed is
  none, so this counts as well. -/
  | other

/-- What is staged after something happened. -/
def HookDeed.leaves (before : Option StagedEstimate) : HookDeed → Option StagedEstimate
  | .filtered estimate => estimate
  | .attached => none
  | .other => before

/-- The estimate that a hook came to when it was asked for filtered rows, if it used predictions. -/
def Site.Estimates (site : Site) (hook : Hook) (s : Session) (t : List Asked) (rows : Float) :
    Option StagedEstimate → Prop
  | some e => Predicts s ∧ site.Offers hook s t rows e
  | none => ¬ Predicts s

/-- One step at a hook. Policies come and go, and the planner arranges what it keeps. -/
inductive HookStep (hook : Hook) (behind : Estimator) : Session → HookDeed → Session → Prop
  | filtered {site : Site} {s s' : Session} {t : List Asked} {rows : Float}
      {estimate : Option StagedEstimate} : site.isFiltered = true → (∀ x ∈ t, x.Steady) →
      Runs (site.estimate (.hooked hook behind)) s t (.ok rows) s' →
      site.Estimates hook s t rows estimate → HookStep hook behind s (.filtered estimate) s'
  | failed {site : Site} {s s' : Session} {t : List Asked} {fault : Fault} :
      site.isFiltered = true → (∀ x ∈ t, x.Steady) →
      Runs (site.estimate (.hooked hook behind)) s t (.error fault) s' →
      HookStep hook behind s .other s'
  | estimated {site : Site} {s s' : Session} {t : List Asked} {result : Except Fault Float} :
      site.isFiltered = false → Runs (site.estimate (.hooked hook behind)) s t result s' →
      HookStep hook behind s .other s'
  | attached {s s' : Session} {t : List Asked} {id : ParameterizationId}
      {result : Except Fault Unit} : Runs (hook.attach id) s t result s' →
      HookStep hook behind s .attached s'
  | pushed {s s' : Session} {t : List Asked} {policy : PlanningPolicy}
      {result : Except Fault PolicyId} : Runs (pushPolicy policy) s t result s' →
      HookStep hook behind s .other s'
  | popped {s s' : Session} {t : List Asked} {result : Except Fault PolicyId} :
      Runs popPolicy s t result s' → HookStep hook behind s .other s'
  | arranged {s s' : Session} : s'.staged hook.name = s.staged hook.name →
      HookStep hook behind s .other s'

/-- Any number of steps at a hook, with the latest one first. -/
inductive HookRun (hook : Hook) (behind : Estimator) (s : Session) :
    List HookDeed → Session → Prop
  | start : HookRun hook behind s [] s
  | step {history : List HookDeed} {deed : HookDeed} {s₁ s' : Session} :
      HookRun hook behind s history s₁ → HookStep hook behind s₁ deed s' →
      HookRun hook behind s (deed :: history) s'

/-- An estimate is the latest one of filtered rows, and nothing was handed over since then. -/
def Latest (e : StagedEstimate) (history : List HookDeed) : Prop :=
  ∃ later earlier, history = later ++ .filtered (some e) :: earlier ∧ ∀ d ∈ later, d = .other

variable {history : List HookDeed} {e : StagedEstimate}

theorem not_latest_nil : ¬ Latest e [] := by
  rintro ⟨later, earlier, none, -⟩
  cases later <;> cases none

theorem latest_other : Latest e (.other :: history) ↔ Latest e history := by
  constructor
  · rintro ⟨_ | ⟨d, later⟩, earlier, split, others⟩
    · cases split
    · cases split
      exact ⟨later, earlier, rfl, fun d member => others d (List.mem_cons_of_mem _ member)⟩
  · rintro ⟨later, earlier, rfl, others⟩
    exact ⟨.other :: later, earlier, rfl, List.forall_mem_cons.mpr ⟨rfl, others⟩⟩

theorem latest_filtered {estimate : Option StagedEstimate} :
    Latest e (.filtered estimate :: history) ↔ estimate = some e := by
  constructor
  · rintro ⟨_ | ⟨d, later⟩, earlier, split, others⟩
    · cases split
      rfl
    · cases split
      cases others _ List.mem_cons_self
  · rintro rfl
    exact ⟨[], history, rfl, by simp⟩

theorem not_latest_attached : ¬ Latest e (.attached :: history) := by
  rintro ⟨_ | ⟨d, later⟩, earlier, split, others⟩
  · cases split
  · cases split
    cases others _ List.mem_cons_self

/-- A staged estimate is handed over at once, whatever becomes of it. -/
theorem runs_attach {id : ParameterizationId} {result : Except Fault Unit} :
    Runs (hook.attach id) s t result s' ↔ t = [] ∧ result = .ok () ∧
      s' = { s.stage hook.name none with
        memory := s.memory.updateParameterization id fun p =>
          match s.staged hook.name, s.current.usePrediction with
          | some estimate, true =>
            { p with mark := estimate.mark, record := some estimate.record }
          | _, _ => { p with mark := .unpredicted 0 } } := by
  rw [Hook.attach, runs_get_bind]
  exact runs_modify (s := s.stage hook.name none)

theorem staged_of_popped {result : Except Fault PolicyId} (run : Runs popPolicy s t result s') :
    s'.staged = s.staged := by
  cases calls : s.calls with
  | nil =>
    rw [popPolicy, runs_get_bind, calls] at run
    rw [(runs_throw.mp run).2.2]
  | cons id outer => rw [(runs_popPolicy calls run).2]

/-- **A step** stages an estimate of filtered rows, takes it away when it is handed over, and leaves
it alone otherwise. -/
theorem staged_of_step {deed : HookDeed} (alone : hook.name ∉ behind.hookNames)
    (step : HookStep hook behind s deed s') :
    s'.staged hook.name = deed.leaves (s.staged hook.name) := by
  -- Only estimates of filtered rows and their attachment touch what is staged.
  cases step with
  | @filtered site _ _ t rows estimate filtered steady run estimates =>
    cases estimate with
    | none => exact staged_of_runs_off estimates filtered alone run
    | some e =>
      obtain ⟨on, offers⟩ := estimates
      obtain ⟨e', offers', staged⟩ := offers_of_runs on filtered alone run
      exact staged.trans (congrArg some (offers'.unique offers))
  | failed filtered steady run => exact congrFun (staged_of_failure filtered steady run) _
  | estimated unfiltered run =>
    refine (confined_estimate _ _ run).staged _ ?_
    rw [Site.stagers_of_unfiltered unfiltered]
    exact List.not_mem_nil
  | attached run =>
    obtain ⟨-, -, rfl⟩ := runs_attach.mp run
    exact if_pos rfl
  | pushed run =>
    obtain ⟨-, -, rfl⟩ := runs_pushPolicy.mp run
    rfl
  | popped run => exact congrFun (staged_of_popped run) _
  | arranged same => exact same

/-- What is staged after any number of steps is the latest estimate. -/
theorem staged_iff_latest {s₀ : Session} (fresh : s₀.staged hook.name = none)
    (alone : hook.name ∉ behind.hookNames) (run : HookRun hook behind s₀ history s) :
    s.staged hook.name = some e ↔ Latest e history := by
  -- Along the steps; that what is staged is the latest estimate is the invariant.
  induction run with
  | start => simp [fresh, not_latest_nil]
  | @step history deed s₁ s' _ step ih =>
    rw [staged_of_step alone step]
    cases deed with
    | filtered estimate => exact latest_filtered.symm
    | attached => simp [HookDeed.leaves, not_latest_attached]
    | other => exact ih.trans latest_other.symm

/-- What a parameterization gets: the mark and the record of an estimate if predictions are in use,
and otherwise the mark that nothing was predicted. -/
structure HandsOver (available : StagedEstimate → Prop) (id : ParameterizationId)
    (s s' : Session) : Prop where
  annotated : ∀ e, available e → Predicts s → s'.memory.parameterizations id =
    { s.memory.parameterizations id with mark := e.mark, record := some e.record }
  unpredicted : (∀ e, ¬ available e) ∨ ¬ Predicts s → s'.memory.parameterizations id =
    { s.memory.parameterizations id with mark := .unpredicted 0 }
  others : ∀ other, other ≠ id →
    s'.memory.parameterizations other = s.memory.parameterizations other

theorem handsOver_of_runs {id : ParameterizationId} {result : Except Fault Unit}
    (run : Runs (hook.attach id) s t result s') :
    HandsOver (s.staged hook.name = some ·) id s s' := by
  obtain ⟨-, -, rfl⟩ := runs_attach.mp run
  refine ⟨fun e staged on => ?_, fun nothing => ?_, fun other elsewhere => if_neg elsewhere⟩
  · have on : s.current.usePrediction = true := on
    simp [Memory.updateParameterization, staged, on]
  · show (if id = id then _ else _) = _
    rw [if_pos rfl]
    split
    · rename_i e staged on
      rcases nothing with unstaged | off
      · exact absurd staged (unstaged e)
      · exact absurd on off
    · rfl

/-- **A parameterization gets the latest estimate** of filtered rows, if nothing was handed over
since then and predictions were in use then and are in use now. Otherwise it gets none. Whatever the
predictor and the estimators of the host answer, every estimate of filtered rows is such a step. -/
theorem attach_latest {s₀ : Session} (fresh : s₀.staged hook.name = none)
    (alone : hook.name ∉ behind.hookNames) (run : HookRun hook behind s₀ history s) :
    (∀ id t result s', Runs (hook.attach id) s t result s' →
      t = [] ∧ result = .ok () ∧ HandsOver (Latest · history) id s s') ∧
    ∀ (site : Site) t rows s', site.isFiltered = true → (∀ x ∈ t, x.Steady) →
      Runs (site.estimate (.hooked hook behind)) s t (.ok rows) s' →
      ∃ estimate, site.Estimates hook s t rows estimate ∧
        HookStep hook behind s (.filtered estimate) s' := by
  constructor
  · intro id t result s' attached
    obtain ⟨rfl, rfl, -⟩ := runs_attach.mp attached
    refine ⟨rfl, rfl, ?_⟩
    simpa only [staged_iff_latest fresh alone run] using handsOver_of_runs attached
  · intro site t rows s' filtered steady run
    by_cases on : Predicts s
    · obtain ⟨e, offers, -⟩ := offers_of_runs on filtered alone run
      exact ⟨some e, ⟨on, offers⟩, .filtered filtered steady run ⟨on, offers⟩⟩
    · exact ⟨none, on, .filtered filtered steady run on⟩

/-- The first of two hooks, and what it stands in front of. -/
def outerHook : Hook := ⟨"outer", .external "first", true, false⟩

/-- What the first of two hooks stands in front of. -/
def innerHook : Estimator :=
  .hooked ⟨"inner", .external "second", false, false⟩ (.native "host")

/-- The predictor of the first hook refuses, and the number of groups is asked for next. Still, the
parameterization gets the estimate of the first hook. -/
theorem attach_latest_after_groups :
    ∃ e s s', HookRun outerHook innerHook planningJoin [.other, .filtered (some e)] s ∧
      Runs (outerHook.attach 0) s [] (.ok ()) s' ∧ s'.memory.parameterizations 0 =
        { s.memory.parameterizations 0 with mark := e.mark, record := some e.record } := by
  let filtered : Site := .filteredBase 1 [callWith 1]
  let groups : Site := .groups ⟨[], 0, 0, none⟩ none
  let e : Estimator := .hooked outerHook innerHook
  have given : (outcome secondPredicts (filtered.estimate e) planningJoin).1.toOption = some 7 := by
    decide +kernel
  obtain ⟨t, run, replies⟩ := exists_runs_ok given
  have steady : ∀ x ∈ t, x.Steady := by
    rintro ⟨request, reply⟩ member
    have same : reply = secondPredicts request := replies _ member
    rw [same]
    exact .inr (secondPredicts_answers request)
  have alone : outerHook.name ∉ innerHook.hookNames := by decide
  obtain ⟨estimate, estimates, step⟩ :=
    (attach_latest rfl alone .start).2 filtered t 7 _ rfl steady run
  obtain ⟨u, grouped, -⟩ := exists_runs secondPredicts (groups.estimate e)
    (outcome secondPredicts (filtered.estimate e) planningJoin).2
  cases estimate with
  | none => exact absurd rfl estimates
  | some staged =>
    have calls := HookRun.step (.step .start step) (.estimated rfl grouped)
    obtain ⟨-, -, hands⟩ := (attach_latest rfl alone calls).1 0 [] (.ok ()) _
      (runs_attach.mpr ⟨rfl, rfl, rfl⟩)
    refine ⟨staged, _, _, calls, runs_attach.mpr ⟨rfl, rfl, rfl⟩, ?_⟩
    refine hands.annotated staged (latest_other.mpr (latest_filtered.mpr rfl)) ?_
    rw [Predicts, (confined_estimate groups e grouped).current,
      (confined_estimate filtered e run).current]
    rfl

end CardinalityAdvisor
