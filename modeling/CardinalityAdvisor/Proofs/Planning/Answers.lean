import CardinalityAdvisor.Proofs.Planning.Groups
import CardinalityAdvisor.Proofs.Planning.Remembered

/-!
# The first answer in a chain of hooks

Hooks that stand in front of each other are asked one after the other until one of them answers, and
the host's own estimation decides if none does. What a hook writes before it asks the next one does
not change what the next one asks its predictor for, unless a join is its own input.

## Main definitions

* `Site.Consults P space hook t answer`: how a hook is consulted at a place
* `Repeats site record s s'`: hooks in a later session make the record that was made before

## Main results

* `answered_of_repeats`: hooks behind one that refused ask for the same, up to the first answer
* `estimate_first_answer`: an estimate is the first answer in a chain
-/

namespace CardinalityAdvisor

open CardinalityAdvisor.Action

variable {s s' : Session} {t : List Asked}

/-! ## Consulted hooks -/

/-- A hook consults its predictor with a request that has the property `P`. -/
def Hook.ConsultsPredictor (hook : Hook) (P : PredictionRequest → Prop) (t : List Asked)
    (answer : Option Float) : Prop :=
  ∃ request p s, P request ∧ Runs (hook.consult request) s t (.ok p) s ∧ answer = p.answer

namespace Site

/-- How a hook is consulted at a place: its predictor for relations and joins, the stored samples of
a feature space for groups. -/
def Consults (P : PredictionRequest → Prop) (space : Int) (site : Site) (hook : Hook) :
    List Asked → Option Float → Prop :=
  match site with
  | .groups g _ => hook.ConsultsGroups g space
  | _ => hook.ConsultsPredictor P

/-- The grouping expressions at a place. -/
def exprs : Site → List Json
  | .groups g _ => g.exprs
  | _ => []

/-- All clauses and expressions at a place have fingerprints. -/
structure Fingerprinted (site : Site) (m : Memory) : Prop where
  source : (site.source m).Fingerprinted
  exprs : ∀ expr ∈ site.exprs, expr.isReadable = true

variable {site : Site} {hook : Hook} {behind : Estimator} {record : ClauseRecord}
  {P : PredictionRequest → Prop} {space : Int}

theorem consults_iff (rows : site.ofRows = true) {answer : Option Float} :
    site.Consults P space hook t answer ↔ hook.ConsultsPredictor P t answer := by
  cases site with
  | groups => cases rows
  | _ => rfl

/-- A host's own estimation that gave rows is what answered. -/
theorem answered_native {name : String} {rows : Float}
    (run : Runs (site.estimate (.native name)) s t (.ok rows) s') :
    Answered (site.Consults P space) site.Poses (.native name) (consultations t) rows := by
  obtain ⟨call, posed, rfl⟩ := runs_native run
  exact .native posed

end Site

/-! ## Relations and joins -/

section Rows

variable {site : Site} {hook : Hook} {behind : Estimator} {record : ClauseRecord}
  {P : PredictionRequest → Prop} {space : Int} {rows : Float}

theorem runs_predict_ok {p : Prediction} (run : Runs (hook.predict record) s t (.ok p) s')
    (request : P (requestFor s record)) : hook.ConsultsPredictor P (consultations t) p.answer := by
  obtain ⟨_, failed, -⟩ | ⟨p', handed, consulted, same, -, answer⟩ := runs_predict run
  · cases failed
  · cases same
    exact ⟨_, p', s, request, consulted, answer⟩

/-- A hook that has decided was consulted, and so were the ones behind it if it refused. -/
theorem Decided.first_answer (decided : Decided site hook behind record s t (.ok rows) s')
    (ofRows : site.ofRows = true) (request : P (requestFor s record))
    (rest : ∀ {s₁ t'}, Noted site.target record s s₁ →
      Runs (site.estimate behind) s₁ t' (.ok rows) s' →
      Answered (site.Consults P space) site.Poses behind (consultations t') rows) :
    Answered (site.Consults P space) site.Poses (.hooked hook behind) (consultations t) rows := by
  have asked {s₁ : Session} (current : s₁.current = s.current) : P (requestFor s₁ record) := by
    rw [requestFor, current]
    exact request
  generalize ended : Except.ok rows = result at decided
  cases decided with
  | failed => cases ended
  | answered current predicted answers =>
    cases ended
    have consulted := runs_predict_ok predicted (asked current)
    rw [Prediction.answer, answers, if_neg Bool.false_ne_true] at consulted
    exact .answered ((Site.consults_iff ofRows).mpr consulted)
  | refused current predicted refuses noted goesOn =>
    cases ended
    have consulted := runs_predict_ok predicted (asked current)
    rw [Prediction.answer, refuses, if_pos rfl] at consulted
    rw [consultations_append]
    exact .refused ((Site.consults_iff ofRows).mpr consulted) (rest noted goesOn)

/-- Under the policy of an earlier session, hooks make the record that was made there, as long as no
input of a join is the relation of the join itself. -/
structure Repeats (site : Site) (record : ClauseRecord) (s s' : Session) : Prop where
  current : s'.current = s.current
  known : site.Distinct s.memory →
    site.Distinct s'.memory ∧ (site.source s'.memory).Known s'.cache record

theorem repeats_of_runs (made : Runs (site.source s.memory).record s t (.ok record) s') :
    Repeats site record s s' := by
  have remembers := (site.source s.memory).remembers made
  refine ⟨remembers.current, fun distinct => ?_⟩
  rw [remembers.memory]
  exact ⟨distinct, RecordSource.known_of_runs made⟩

/-- What a hook writes leaves what is repeated. -/
theorem Repeats.noted {written : ClauseRecord} {s₁ : Session} (h : Repeats site record s s₁)
    (noted : Noted site.target written s₁ s') : Repeats site record s s' := by
  refine ⟨noted.current.trans h.current, fun distinct => ?_⟩
  obtain ⟨distinct, known⟩ := h.known distinct
  rw [Site.source_noted distinct noted, noted.cache]
  exact ⟨distinct.noted noted, known⟩

/-- **Hooks behind one that refused** are asked up to the first one that answers, and they ask for
what the one that refused asked for. -/
theorem answered_of_repeats {e : Estimator} {s₁ : Session} (on : Predicts s)
    (ofRows : site.ofRows = true) (repeats : Repeats site record s s₁)
    (run : Runs (site.estimate e) s₁ t (.ok rows) s') :
    Answered (site.Consults (fun r => site.Distinct s.memory → r = requestFor s record) space)
      site.Poses e (consultations t) rows := by
  induction e generalizing s₁ t with
  | native name => exact Site.answered_native run
  | hooked hook behind ih =>
    have on : Predicts s₁ := by
      rw [Predicts, repeats.current]
      exact on
    obtain ⟨_, failed, -⟩ | ⟨t₁, t₂, again, s₂, rfl, made, decided⟩ :=
      Site.runs_hooked on ofRows run
    · cases failed
    have remembers := (site.source s₁.memory).remembers made
    have current := remembers.current.trans repeats.current
    have repeated : Repeats site record s s₂ := by
      refine ⟨current, fun distinct => ?_⟩
      obtain ⟨distinct, known⟩ := repeats.known distinct
      rw [remembers.memory]
      exact ⟨distinct, known.mono remembers.more⟩
    rw [consultations_append, consultations_of_record made, List.nil_append]
    refine decided.first_answer ofRows (fun distinct => ?_) fun noted goesOn =>
      ih (repeated.noted noted) goesOn
    obtain ⟨-, same, -⟩ := (repeats.known distinct).2.runs made
    cases same
    rw [requestFor, requestFor, current]

/-- A hook that has made a record decides by it, and so do the ones behind it if it refused. -/
theorem answered_of_made {t₁ t₂ : List Asked} {s₁ : Session} (on : Predicts s)
    (ofRows : site.ofRows = true) (made : Runs (site.source s.memory).record s t₁ (.ok record) s₁)
    (decided : Decided site hook behind record s₁ t₂ (.ok rows) s') :
    Answered
      (site.Consults (fun r => site.Distinct s.memory → r = requestFor s record) space)
      site.Poses (.hooked hook behind) (consultations (t₁ ++ t₂)) rows := by
  have repeated := repeats_of_runs made
  rw [consultations_append, consultations_of_record made, List.nil_append]
  refine decided.first_answer ofRows (fun _ => ?_) fun noted goesOn =>
    answered_of_repeats on ofRows (repeated.noted noted) goesOn
  rw [requestFor, requestFor, repeated.current]

/-- At a relation or a join, an estimate is the first answer in a chain. -/
theorem rows_first_answer {e : Estimator} (on : Predicts s) (ofRows : site.ofRows = true)
    (run : Runs (site.estimate e) s t (.ok rows) s') :
    ∃ record, Answered
      (site.Consults (fun r => site.Distinct s.memory → r = requestFor s record) space)
      site.Poses e (consultations t) rows := by
  cases e with
  | native name => exact ⟨{}, Site.answered_native run⟩
  | hooked hook behind =>
    obtain ⟨_, failed, -⟩ | ⟨t₁, t₂, record, s₁, rfl, made, decided⟩ :=
      Site.runs_hooked on ofRows run
    · cases failed
    exact ⟨record, answered_of_made on ofRows made decided⟩

/-- A prediction is made unless the predictor fails. -/
theorem exists_predicted {result : Except Fault Prediction}
    (run : Runs (hook.predict record) s t result s')
    (answers : ∀ x ∈ t, x.request.isConsultation = true → x.Answers) :
    ∃ p, result = .ok p := by
  obtain ⟨fault, -, failed⟩ | ⟨p, handed, -, same, -⟩ := runs_predict run
  · have consulted : ∀ x ∈ t, x.Answers := fun x member =>
      answers x member (asks_consult hook _ failed x member)
    exact ((Consults.consult Asked.answers_tells hook _).failsWith failed consulted).elim
  · exact ⟨handed, same⟩

/-- **At a relation or a join, there always is an estimate** from sessions in which the record of
the place can be made, if what a hook writes leads from one of them to another. Of the replies it is
only known that those to consultations are no failures. -/
theorem exists_rows_of_ready {A : Asked → Prop} (Ready : Session → Prop) {e : Estimator}
    {result : Except Fault Float}
    (answers : ∀ x, A x → x.request.isConsultation = true → x.Answers)
    (makes : ∀ ⦃s t fault s'⦄, Ready s →
      Runs (site.source s.memory).record s t (.error fault) s' → (∀ x ∈ t, A x) → False)
    (keeps : ∀ ⦃s t record s₁ s'⦄, Ready s →
      Runs (site.source s.memory).record s t (.ok record) s₁ →
      Noted site.target record s₁ s' → Ready s')
    (on : Predicts s) (ofRows : site.ofRows = true) (ready : Ready s)
    (run : Runs (site.estimate e) s t result s') (replies : ∀ x ∈ t, A x) :
    ∃ rows, result = .ok rows := by
  induction e generalizing s t with
  | native name =>
    obtain ⟨call, -, rfl⟩ := Site.runs_native run
    exact answers _ (replies _ (List.mem_singleton_self _)) rfl
  | hooked hook behind ih =>
    obtain ⟨_, rfl, failed⟩ | ⟨t₁, t₂, record, s₁, rfl, made, decided⟩ :=
      Site.runs_hooked on ofRows run
    · exact (makes ready failed replies).elim
    replace replies := fun x member => replies x (List.mem_append_right t₁ member)
    cases decided with
    | failed current predicted =>
      obtain ⟨_, same⟩ := exists_predicted predicted fun x member => answers x (replies x member)
      cases same
    | answered => exact ⟨_, rfl⟩
    | refused current predicted refuses noted goesOn =>
      refine ih ?_ (keeps ready made noted) goesOn fun x member =>
        replies x (List.mem_append_right _ member)
      rw [Predicts, noted.current, ((site.source s.memory).remembers made).current]
      exact on

/-- That is so if all clauses have fingerprints. -/
theorem exists_rows {e : Estimator} {result : Except Fault Float} (on : Predicts s)
    (ofRows : site.ofRows = true) (all : (site.source s.memory).Fingerprinted)
    (run : Runs (site.estimate e) s t result s') (answers : ∀ x ∈ t, x.Answers) :
    ∃ rows, result = .ok rows := by
  refine exists_rows_of_ready (fun s => (site.source s.memory).Fingerprinted)
    (fun _ answered _ => answered) ?_ ?_ on ofRows all run answers
  · intro s t fault s' all failed answers
    obtain ⟨_, made⟩ := RecordSource.exists_record all failed answers
    cases made
  · intro s t record s₁ s' all made noted
    refine Site.fingerprinted_noted ?_ ?_ noted
    · rw [((site.source s.memory).remembers made).memory]
      exact all
    · exact (RecordSource.known_of_runs made).fingerprinted all

end Rows

/-! ## Groups -/

section Groups

variable {g : Estimator.Grouping} {flags : Option Int} {P : PredictionRequest → Prop}

/-- Before the estimator behind a hook is asked for the number of groups, a mark was put on their
relation. -/
theorem runs_decideGroups_none {behind : Estimator} {key : Int} {result : Except Fault Float}
    (run : Runs (Site.decideGroups g flags behind key none) s t result s') :
    ∃ s₁, Runs ((Site.groups g flags).estimate behind) s₁ t result s' ∧ Noted none {} s s₁ := by
  simp only [Site.decideGroups, annotate, updateRelation, runs_modify_bind] at run
  exact ⟨_, run, .update s (fun _ => ⟨rfl, rfl, rfl, rfl⟩) fun _ => .inl rfl⟩

theorem runs_decideGroups_some {behind : Estimator} {key : Int} {rows : Float}
    {result : Except Fault Float}
    (run : Runs (Site.decideGroups g flags behind key (some rows)) s t result s') :
    t = [] ∧ result = .ok rows := by
  simp only [Site.decideGroups, adopt, updateRelation, runs_modify_bind] at run
  obtain ⟨nothing, same, -⟩ := runs_pure.mp run
  exact ⟨nothing, same⟩

/-- At a grouping, an estimate is the first answer in a chain. -/
theorem groups_first_answer {e : Estimator} {rows : Float} (on : Predicts s)
    (supported : g.unsupported = false)
    (run : Runs ((Site.groups g flags).estimate e) s t (.ok rows) s') :
    Answered ((Site.groups g flags).Consults P s.current.spaceHash) (Site.groups g flags).Poses e
      (consultations t) rows := by
  induction e generalizing s t flags with
  | native name => exact Site.answered_native run
  | hooked hook behind ih =>
    rw [Site.runs_groups_hooked on supported] at run
    obtain ⟨t₁, t₂, ⟨key, answer⟩, s₁, rfl, looked, decided⟩ | ⟨_, failed, -⟩ := runs_bind.mp run
    swap
    · cases failed
    obtain ⟨remembers, consulted⟩ := consulted_of_runs looked
    rw [consultations_append]
    cases answer with
    | some groups =>
      obtain ⟨rfl, same⟩ := runs_decideGroups_some decided
      cases same
      rw [show consultations [] = [] from rfl, List.append_nil]
      exact .answered consulted
    | none =>
      obtain ⟨s₂, goesOn, noted⟩ := runs_decideGroups_none decided
      have current := noted.current.trans remembers.current
      have on : Predicts s₂ := by
        rw [Predicts, current]
        exact on
      have later := ih on goesOn
      rw [current] at later
      exact .refused consulted later

/-- At a grouping, there always is an estimate, if all clauses and expressions have fingerprints. -/
theorem exists_groups {e : Estimator} {result : Except Fault Float} (on : Predicts s)
    (supported : g.unsupported = false) (all : (Site.groups g flags).Fingerprinted s.memory)
    (run : Runs ((Site.groups g flags).estimate e) s t result s') (answers : ∀ x ∈ t, x.Answers) :
    ∃ rows, result = .ok rows := by
  induction e generalizing s t flags with
  | native name =>
    obtain ⟨call, -, rfl⟩ := Site.runs_native run
    exact answers _ (List.mem_singleton_self _)
  | hooked hook behind ih =>
    rw [Site.runs_groups_hooked on supported] at run
    obtain ⟨t₁, t₂, ⟨key, answer⟩, s₁, rfl, looked, decided⟩ | ⟨_, rfl, failed⟩ :=
      runs_bind.mp run
    swap
    · obtain ⟨_, found⟩ := exists_consultGroups all.source all.exprs failed answers
      cases found
    obtain ⟨remembers, -⟩ := consulted_of_runs looked
    cases answer with
    | some groups => exact ⟨groups, (runs_decideGroups_some decided).2⟩
    | none =>
      obtain ⟨s₂, goesOn, noted⟩ := runs_decideGroups_none decided
      have on : Predicts s₂ := by
        rw [Predicts, noted.current, remembers.current]
        exact on
      have source : ((Site.groups g flags).source s₁.memory).Fingerprinted := by
        rw [remembers.memory]
        exact all.source
      have nothing : ClauseRecord.Fingerprinted {} := by
        intro clause member
        cases member
      have all : (Site.groups g (flags.map fun _ => 0)).Fingerprinted s₂.memory :=
        ⟨Site.fingerprinted_noted source nothing noted, all.exprs⟩
      exact ih on all goesOn fun x member => answers x (List.mem_append_right _ member)

end Groups

/-- **An estimate is the first answer in a chain of hooks.** Without predictions, and for a grouping
that has nothing to predict, the host's own estimation is asked and nothing else. With predictions,
the hooks are consulted in their order up to the first one that answers. The host's own
estimation is asked if none does. Predictors at a relation or a join are all asked for the same, as
long as no input of the join is the relation of the join itself. If all clauses have fingerprints
and no reply is a failure, there is an estimate. -/
theorem estimate_first_answer {site : Site} {e : Estimator} {result : Except Fault Float}
    (run : Runs (site.estimate e) s t result s') :
    (s.current.usePrediction = false ∨ site.unsupported = true →
      ∃ call, site.Poses call ∧ t = [⟨.native (Site.nativeName e) call, result⟩]) ∧
    (s.current.usePrediction = true ∧ site.unsupported = false →
      (∀ rows, result = .ok rows → ∃ record, Answered
        (site.Consults (fun r => site.Distinct s.memory → r = requestFor s record)
          s.current.spaceHash) site.Poses e (consultations t) rows) ∧
      (site.Fingerprinted s.memory → (∀ x ∈ t, x.Answers) → ∃ rows, result = .ok rows)) := by
  refine ⟨fun off => Site.runs_off off run, fun ⟨on, supported⟩ => ⟨?_, fun all answers => ?_⟩⟩
  · rintro rows rfl
    cases place : site.ofRows with
    | true => exact rows_first_answer on place run
    | false =>
      cases site with
      | groups g flags => exact ⟨{}, groups_first_answer on supported run⟩
      | _ => cases place
  · cases place : site.ofRows with
    | true => exact exists_rows on place all.source run answers
    | false =>
      cases site with
      | groups g flags => exact exists_groups on supported all run answers
      | _ => cases place

/-- Two hooks with predictors of the host in front of the host's own estimation. -/
def twoHooks : Estimator :=
  .hooked ⟨"outer", .external "first", true, false⟩
    (.hooked ⟨"inner", .external "second", false, false⟩ (.native "host"))

/-- A planning call that uses predictions, with a join of two base relations as the third one. -/
def planningJoin : Session where
  policies _ := { usePrediction := true }
  calls := [0]
  memory := { relations := fun id => if id = 3 then {} else { index := id } }

/-- Surroundings in which the predictor of the second hook answers. -/
def secondPredicts : (request : Request) → Request.Reply request
  | .predict "second" request => .ok ⟨7, request.sampleKey⟩
  | request => nothingStored request

theorem nothingStored_answers (request : Request) :
    Asked.Answers ⟨request, nothingStored request⟩ := by
  match request with
  | .selectivity _ _ | .native _ _ => exact ⟨_, rfl⟩
  | .predict _ _ => exact ⟨_, rfl⟩
  | .knowledge (.loadSample _ _) => exact .inr (.inl rfl)
  | .knowledge .isInstalled | .knowledge (.findClass _) | .knowledge (.upsertClass _)
  | .knowledge (.recordText _ _) | .knowledge (.storeSample _ _ _)
  | .knowledge (.lockClass _ _) | .knowledge (.unlockClass _) => trivial
  | .parse _ | .now | .log _ _ | .warn _ | .knowledgeRelations => trivial

theorem secondPredicts_answers (request : Request) :
    Asked.Answers ⟨request, secondPredicts request⟩ := by
  unfold secondPredicts
  split
  · exact ⟨_, rfl⟩
  · exact nothingStored_answers _

/-- The first of two hooks refuses, and the second one answers a request that is the same. -/
theorem estimate_first_answer_second :
    let site : Site := .join 3 1 2 .inner [callWith 1]
    ∃ t s' record, Action.Runs (site.estimate twoHooks) planningJoin t (.ok 7) s' ∧
      Predicts planningJoin ∧ site.Distinct planningJoin.memory ∧
      site.Fingerprinted planningJoin.memory ∧ (∀ x ∈ t, x.Answers) ∧
      Answered (site.Consults (fun r => site.Distinct planningJoin.memory →
          r = requestFor planningJoin record) planningJoin.current.spaceHash) site.Poses twoHooks
        (consultations t) 7 := by
  intro site
  obtain ⟨t, run, replies⟩ := Action.exists_runs secondPredicts (site.estimate twoHooks)
    planningJoin
  have given : (Action.outcome secondPredicts (site.estimate twoHooks)
      planningJoin).1.toOption = some 7 := by decide +kernel
  have distinct : site.Distinct planningJoin.memory := by
    constructor
    · decide
    · decide
  have clause : (callWith 1).clause.Fingerprinted := ⟨⟨none, rfl⟩, by decide⟩
  have all : site.Fingerprinted planningJoin.memory := by
    refine ⟨⟨?_, ?_, ?_⟩, ?_⟩
    · intro r member
      cases member
    · intro r member
      cases member
    · intro r member
      obtain rfl := List.mem_singleton.mp member
      exact clause
    · intro expr member
      cases member
  have answers : ∀ x ∈ t, x.Answers := by
    rintro ⟨request, reply⟩ member
    have same : reply = secondPredicts request := replies _ member
    rw [same]
    exact secondPredicts_answers request
  obtain ⟨-, on⟩ := estimate_first_answer run
  obtain ⟨first, total⟩ := on ⟨rfl, rfl⟩
  obtain ⟨rows, result⟩ := total all answers
  obtain ⟨record, answered⟩ := first rows result
  rw [result] at given run
  cases given
  exact ⟨t, _, record, run, rfl, distinct, all, answers, answered⟩

/-- What a predictor of the host is asked. -/
def Request.prediction? : Request → Option PredictionRequest
  | .predict _ request => some request
  | _ => none

/-- A join may be its own outer input. The record that the first hook writes on it is then what the
second hook takes for the record of its input. -/
theorem own_input_asked_differently :
    ∃ t rows s' r r', Action.Runs ((Site.join 3 3 2 .inner [callWith 1]).estimate twoHooks)
        planningJoin t (.ok rows) s' ∧ Predicts planningJoin ∧
      (t.map (·.request)).filterMap Request.prediction? = [r, r'] ∧ r ≠ r' := by
  let estimate := (Site.join 3 3 2 .inner [callWith 1]).estimate twoHooks
  obtain ⟨t, run, replies⟩ := Action.exists_runs secondPredicts estimate planningJoin
  have rows : (Action.outcome secondPredicts estimate planningJoin).1.toOption = some 7 := by
    decide +kernel
  have clauses : ((Action.requests secondPredicts estimate planningJoin).filterMap
      Request.prediction?).map (·.record.clauses.length) = [1, 2] := by decide +kernel
  rw [Action.requests_of_runs run replies] at clauses
  cases result : (Action.outcome secondPredicts estimate planningJoin).1 with
  | error fault =>
    rw [result] at rows
    cases rows
  | ok seven =>
    rw [result] at run
    obtain ⟨r, later, asked, first, clauses⟩ := List.map_eq_cons_iff.mp clauses
    obtain ⟨r', rest, rfl, second, last⟩ := List.map_eq_cons_iff.mp clauses
    obtain rfl := List.map_eq_nil_iff.mp last
    refine ⟨t, seven, _, r, r', run, rfl, asked, ?_⟩
    rintro rfl
    omega

end CardinalityAdvisor
