import CardinalityAdvisor.Proofs.Fingerprint.ClauseKeys
import CardinalityAdvisor.Proofs.Fingerprint.SharedKeys
import CardinalityAdvisor.Proofs.Planning.FirstAnswers
import CardinalityAdvisor.Proofs.Planning.Hooks
import CardinalityAdvisor.Proofs.Planning.Remembered

/-!
# Clauses that share a selectivity

While a query is planned, hooks collect clauses at one place after the other. A clause whose
fingerprint was looked up before in the same scope gets the selectivity that is remembered for it,
and that was answered for another clause then. The two may differ in constants and positions, and
also in their columns, where these have a class among the clauses around them.

## Main definitions

* `Collection`: clauses that are collected at a place, with what is asked for them
* `Pass past s`: a planning call that uses predictions, with the collections since it began
* `AnswersFor e scope join t key value r`: a selectivity is the answer for a clause with its key
* `Collection.Answered key value`: a remembered selectivity is an answer given at a collection
* `Collection.Shares c e r value c'`: a clause has the selectivity of one that is not told apart

## Main results

* `Pass.hooked`: whatever a hook does goes on with the pass
* `Pass.answered`: everything that is remembered was answered in the pass
* `selectivities_of_pass`: for which clauses the selectivities of a record were answered
-/

namespace CardinalityAdvisor

open CardinalityAdvisor.Action

variable {s s' : Session} {t : List Asked}

instance : DecidablePred Request.IsSelectivity
  | .selectivity restriction join => isTrue ⟨restriction, join, rfl⟩
  | .parse _ | .now | .log _ _ | .warn _ | .native _ _ | .predict _ _ | .knowledge _
  | .knowledgeRelations => isFalse nofun

/-- The requests for selectivities, with their replies. -/
def selectivities (t : List Asked) : List Asked := t.filter (·.request.IsSelectivity)

theorem selectivities_append (t t' : List Asked) :
    selectivities (t ++ t') = selectivities t ++ selectivities t' := List.filter_append ..

/-! ## Collections -/

/-- Clauses that are collected at a place, with what is asked for them and the result. -/
structure Collection where
  place : Place
  restrictions : List Restriction
  asked : List Asked
  result : Except Fault ClauseRecord

namespace Collection

/-- The clauses among which the own ones are fingerprinted. -/
def among (c : Collection) : List Json :=
  c.restrictions.map (·.clause) ++ c.place.inputs.flatMap (·.clauses)

/-- The type of the join that is folded into the fingerprints. -/
def join (c : Collection) : JoinType := c.place.join.getD .inner

/-- Clauses are collected. -/
def Runs (c : Collection) (s s' : Session) : Prop :=
  Action.Runs (collect c.place c.restrictions) s c.asked c.result s'

end Collection

/-- A planning call that uses predictions, at some moment since it began: the clauses that hooks
have collected so far, the latest ones first. The planner may have changed what it keeps. No other
planning call has begun. -/
inductive Pass : List Collection → Session → Prop
  | opened {query : Query} {s₀ s : Session} {t : List Asked} {call : PlanningCall} :
      Action.Runs (openCall query) s₀ t (.ok call) s → Predicts s → Pass [] s
  | collected {past : List Collection} {c : Collection} {s s' : Session} : Pass past s →
      c.Runs s s' → Pass (c :: past) s'
  | arranged {past : List Collection} {s s' : Session} : Pass past s → SamePlanning s s' →
      Pass past s'

/-! ## Hooks in a pass -/

/-- Whatever is put together from what hooks do goes on with the pass, and asks for selectivities
only where it collects clauses. -/
theorem HookPart.pass {α : Type} {action : Action α} {on : Bool}
    (part : HookPart (fun _ => True) (fun _ => True) SamePlanning on action)
    {past : List Collection} {result : Except Fault α} (pass : Pass past s)
    (run : Runs action s t result s') :
    ∃ own, Pass (own ++ past) s' ∧ selectivities t = own.reverse.flatMap (·.asked) := by
  induction part generalizing past s t s' with
  | consult h =>
    obtain rfl : s = s' := h.leavesSession run
    refine ⟨[], pass, List.filter_eq_nil_iff.mpr fun x member selectivity => ?_⟩
    obtain ⟨restriction, join, same⟩ := of_decide_eq_true selectivity
    have ofEstimate := h.asks run x member
    rw [same] at ofEstimate
    exact ofEstimate
  | collect place restrictions =>
    refine ⟨[⟨place, restrictions, t, result⟩], .collected pass run, ?_⟩
    refine (List.filter_eq_self.mpr fun x member => ?_).trans (List.append_nil t).symm
    exact decide_eq_true (asks_collect run x member)
  | modify same =>
    obtain ⟨rfl, -, rfl⟩ := runs_modify.mp run
    exact ⟨[], .arranged pass (same s), rfl⟩
  | @ifPredicting _ _ f _ _ ih ih' =>
    change Runs (f s.current.usePrediction) s t result s' at run
    cases uses : s.current.usePrediction with
    | true =>
      rw [uses] at run
      exact ih pass run
    | false =>
      rw [uses] at run
      exact ih' pass run
  | bind _ _ ih ih' =>
    obtain ⟨t₁, t₂, value, s₁, rfl, first, second⟩ | ⟨fault, -, failed⟩ := runs_bind.mp run
    · obtain ⟨own, goesOn, asked⟩ := ih pass first
      obtain ⟨later, ends, asked'⟩ := ih' value goesOn second
      refine ⟨later ++ own, ?_, ?_⟩
      · rw [List.append_assoc]
        exact ends
      · rw [selectivities_append, asked, asked', List.reverse_append, List.flatMap_append]
    · exact ih pass failed

/-- **A hook** goes on with the pass, whatever it is asked for and however it ends. -/
theorem Pass.hooked {α : Type} {action : Action α} {past : List Collection}
    {result : Except Fault α} (pass : Pass past s) (call : HookCall action)
    (run : Runs action s t result s') :
    ∃ own, Pass (own ++ past) s' ∧ selectivities t = own.reverse.flatMap (·.asked) :=
  call.part.pass pass run

/-! ## What is remembered in a pass -/

/-- A selectivity under a key is the host's answer for a clause with the fingerprint in the key, as
it was asked for in the scope in the key. -/
structure AnswersFor (e : Fingerprint.Equivalence) (scope : Int) (join : Option JoinType)
    (t : List Asked) (key : SelectivityKey) (value : Float) (r : Restriction) : Prop where
  asked : ∃ answer, ⟨.selectivity r join, .ok answer⟩ ∈ t ∧ value = clamp answer
  fingerprint : Fingerprint.clauseKey e (join.getD .inner) r.clause = .ok key.fingerprint
  scope : key.scope = scope

section Measured

variable {e : Fingerprint.Equivalence} {scope : Int} {join : Option JoinType}
  {key : SelectivityKey} {value : Float} {r : Restriction}

theorem AnswersFor.mono {t' : List Asked} (h : AnswersFor e scope join t key value r)
    (more : t ⊆ t') : AnswersFor e scope join t' key value r := by
  obtain ⟨answer, member, clamped⟩ := h.asked
  exact ⟨⟨answer, more member, clamped⟩, h.fingerprint, h.scope⟩

/-- What is remembered after a lookup was remembered before, or it is the answer. -/
theorem answers_of_look {fingerprint : Int} {result : Except Fault Float}
    (own : Fingerprint.clauseKey e (join.getD .inner) r.clause = .ok fingerprint)
    (run : Runs (selectivityOf ⟨fingerprint, scope⟩ r join) s t result s')
    (found : s'.cache.find? key = some value) :
    s.cache.find? key = some value ∨ AnswersFor e scope join t key value r := by
  obtain ⟨_, -, -, -, rfl⟩ | ⟨reply, -, rfl, -, rfl⟩ :=
    SelectivityCache.runs_selectivityOf_iff.mp run
  · exact .inl found
  cases reply with
  | error fault => exact .inl found
  | ok answer =>
    change (s.cache.remember _ answer).find? key = _ at found
    rw [SelectivityCache.find?_remember] at found
    split at found
    · rename_i same
      subst same
      cases found
      exact .inr ⟨⟨answer, List.mem_singleton_self _, rfl⟩, own, rfl⟩
    · exact .inl found

/-- What is remembered after some clauses were measured was remembered before, or it is the answer
for one of them. -/
theorem answers_of_measure {restrictions : List Restriction}
    {result : Except Fault (List (Int × Float))}
    (run : Runs (measure e scope join restrictions) s t result s')
    (found : s'.cache.find? key = some value) :
    s.cache.find? key = some value ∨
      ∃ r ∈ restrictions, AnswersFor e scope join t key value r := by
  induction restrictions generalizing s t result with
  | nil =>
    obtain ⟨-, -, rfl⟩ := runs_pure.mp run
    exact .inl found
  | cons r rest ih =>
    rw [measure] at run
    obtain ⟨fingerprint, own, run⟩ | ⟨_, -, -, -, rfl⟩ := runs_ofTree_bind.mp run
    swap
    · exact .inl found
    obtain ⟨t₁, t₂, selectivity, s₁, rfl, first, run⟩ | ⟨_, -, failed⟩ := runs_bind.mp run
    swap
    · exact (answers_of_look own failed found).imp_right fun answers =>
        ⟨r, List.mem_cons_self, answers⟩
    -- The other clauses are measured even if what follows them is left out by a failure.
    have others : s₁.cache.find? key = some value ∨
        ∃ r ∈ rest, AnswersFor e scope join t₂ key value r := by
      obtain ⟨t₂, _, _, _, rfl, more, last⟩ | ⟨_, -, failed⟩ := runs_bind.mp run
      · obtain ⟨rfl, -, rfl⟩ := runs_pure.mp last
        rw [List.append_nil]
        exact ih more
      · exact ih failed
    obtain known | ⟨r', member, answers⟩ := others
    · exact (answers_of_look own first known).imp_right fun answers =>
        ⟨r, List.mem_cons_self, answers.mono (List.subset_append_left _ _)⟩
    · exact .inr ⟨r', List.mem_cons_of_mem _ member, answers.mono (List.subset_append_right _ _)⟩

end Measured

/-- A selectivity under a key is the answer for one of the clauses that are collected. -/
def Collection.Answered (c : Collection) (key : SelectivityKey) (value : Float) : Prop :=
  ∃ e, Fingerprint.Equivalence.ofClauses c.among = .ok e ∧
    ∃ r ∈ c.restrictions, AnswersFor e c.place.scope c.place.join c.asked key value r

/-- What is remembered after a collection was remembered before, or was answered at it. -/
theorem Collection.answered {c : Collection} {key : SelectivityKey} {value : Float}
    (run : c.Runs s s') (found : s'.cache.find? key = some value) :
    s.cache.find? key = some value ∨ c.Answered key value := by
  obtain ⟨place, restrictions, t, result⟩ := c
  rw [Runs, collect] at run
  obtain ⟨e, classes, run⟩ | ⟨_, -, -, -, rfl⟩ := runs_ofTree_bind.mp run
  swap
  · exact .inl found
  suffices measured : s.cache.find? key = some value ∨
      ∃ r ∈ restrictions, AnswersFor e place.scope place.join t key value r from
    measured.imp_right fun answered => ⟨e, classes, answered⟩
  obtain ⟨t, _, _, _, rfl, measuring, last⟩ | ⟨_, -, failed⟩ := runs_bind.mp run
  · obtain ⟨rfl, -, rfl⟩ := runs_pure.mp last
    rw [List.append_nil]
    exact answers_of_measure measuring found
  · exact answers_of_measure failed found

/-- A planning call that uses predictions begins with nothing remembered. -/
theorem cache_of_opened {query : Query} {s₀ : Session} {call : PlanningCall}
    (run : Runs (openCall query) s₀ t (.ok call) s) (on : Predicts s) : s.cache = .clear := by
  obtain ⟨s₁, classified, -, pushed⟩ := Opened.of_runs run
  generalize s.policies call.policy = policy at classified pushed
  subst pushed
  rw [Predicts, Session.current, Session.push_calls] at on
  rw [Session.push_cache]
  exact classified.clear (by simpa using on)

/-- **Everything that is remembered** in a pass was answered at one of its collections. -/
theorem Pass.answered {past : List Collection} {key : SelectivityKey} {value : Float}
    (pass : Pass past s) (found : s.cache.find? key = some value) :
    ∃ c ∈ past, c.Answered key value := by
  -- Along the pass; only a collection adds to what is remembered.
  induction pass with
  | opened run on =>
    rw [cache_of_opened run on] at found
    cases found
  | collected _ run ih =>
    obtain before | answered := Collection.answered run found
    · obtain ⟨c, member, answered⟩ := ih before
      exact ⟨c, List.mem_cons_of_mem _ member, answered⟩
    · exact ⟨_, List.mem_cons_self, answered⟩
  | arranged _ same ih =>
    rw [same.cache] at found
    exact ih found

/-- A pass up to one of its collections. -/
theorem Pass.upTo {past later earlier : List Collection} {c : Collection} (pass : Pass past s)
    (split : past = later ++ c :: earlier) :
    ∃ s₀ s₁, c.Runs s₀ s₁ ∧ Pass (c :: earlier) s₁ := by
  induction pass generalizing later with
  | opened =>
    cases later with
    | nil => cases split
    | cons => cases split
  | collected before run ih =>
    cases later with
    | nil =>
      cases split
      exact ⟨_, _, run, .collected before run⟩
    | cons last later =>
      cases split
      exact ih rfl
  | arranged _ _ ih => exact ih split

/-! ## Selectivities of records -/

/-- The selectivity of a clause that is collected is the host's answer, moved into the unit
interval, for a clause that was collected in the same scope and is not told apart from it: the joins
are of the same type, and the clauses are similar or differ in the columns of a class besides. -/
def Collection.Shares (c : Collection) (e : Fingerprint.Equivalence) (r : Restriction)
    (value : Float) (c' : Collection) : Prop :=
  c'.place.scope = c.place.scope ∧ ∃ e' r' answer,
    Fingerprint.Equivalence.ofClauses c'.among = .ok e' ∧ r' ∈ c'.restrictions ∧
    ⟨.selectivity r' c'.place.join, .ok answer⟩ ∈ c'.asked ∧ value = clamp answer ∧
    (c.join = c'.join ∧ Fingerprint.Merged e r.clause e' r'.clause ∨
      Fingerprint.Confused e c.join r.clause e' c'.join r'.clause)

/-- All clauses that are collected were parsed. -/
def Collection.Parsed (c : Collection) : Prop := ∀ r ∈ c.restrictions, r.clause.IsParsed

/-- A remembered selectivity is shared with the clause for which it was answered. -/
theorem Collection.Answered.shares {c c' : Collection} {e : Fingerprint.Equivalence}
    {r : Restriction} {fingerprint : Int} {value : Float}
    (answered : c'.Answered ⟨fingerprint, c.place.scope⟩ value)
    (classes : Fingerprint.Equivalence.ofClauses c.among = .ok e)
    (own : Fingerprint.clauseKey e c.join r.clause = .ok fingerprint) (parsed : r.clause.IsParsed)
    (parsed' : c'.Parsed) : c.Shares e r value c' := by
  obtain ⟨e', classes', r', member, ⟨answer, asked, clamped⟩, fingerprint', scope⟩ := answered
  refine ⟨scope.symm, e', r', answer, classes', member, asked, clamped, ?_⟩
  exact Fingerprint.merged_or_confused classes classes' parsed (parsed' r' member) own fingerprint'

/-- **The selectivities of a pass.** Whatever hooks do in a planning call, it is a part of the pass,
and they ask for selectivities only where they collect clauses. Whenever clauses are collected, the
record holds a selectivity for each of them, and then those of the inputs as they are. Each is the
host's answer, given in the same pass and in the same scope, for the clause itself or for one that
is not told apart from it: one of a join of the same type that is similar after the columns of both
were replaced by their classes. So clauses on different columns share a selectivity if a class of
columns gives them the same fingerprint, and otherwise only if two digests collide. -/
theorem selectivities_of_pass {past : List Collection} (pass : Pass past s) :
    (∀ {α : Type} {action : Action α} {t : List Asked} {result : Except Fault α} {s' : Session},
      HookCall action → Runs action s t result s' →
        ∃ own, Pass (own ++ past) s' ∧ selectivities t = own.reverse.flatMap (·.asked)) ∧
    ((∀ c ∈ past, c.Parsed) → ∀ later c earlier record, past = later ++ c :: earlier →
      c.result = .ok record → ∃ e values,
        Fingerprint.Equivalence.ofClauses c.among = .ok e ∧ record.clauses = c.among ∧
        record.selectivities = values ++ c.place.inputs.flatMap (·.selectivities) ∧
        List.Forall₂ (fun r value => ∃ c' ∈ c :: earlier, c.Shares e r value c')
          c.restrictions values) := by
  refine ⟨fun call run => pass.hooked call run, ?_⟩
  rintro parsed later c earlier record split given
  obtain ⟨s₀, s₁, run, here⟩ := pass.upTo split
  have parsed : ∀ c' ∈ c :: earlier, c'.Parsed := fun c' member =>
    parsed c' (split ▸ List.mem_append_right later member)
  rw [Collection.Runs, given] at run
  obtain ⟨e, measured, classes, known, rfl⟩ := collected_of_runs run
  refine ⟨e, measured.map (·.2), classes, ?_, ?_, ?_⟩
  · rw [ClauseRecord.concat_clauses, List.flatMap_cons]
    rfl
  · rw [ClauseRecord.concat_selectivities, List.flatMap_cons]
  · rw [List.forall₂_map_right_iff]
    have both := (List.forall₂_and_left c.restrictions measured).mpr
      ⟨parsed c List.mem_cons_self, known⟩
    refine both.imp fun r m ⟨isParsed, own, found⟩ => ?_
    obtain ⟨c', member, answered⟩ := here.answered found
    exact ⟨c', member, answered.shares classes own isParsed (parsed c' member)⟩

/-- Surroundings in which the host tells clauses apart by their names. -/
def namesTold : (request : Request) → Request.Reply request
  | .selectivity restriction _ =>
    .ok (if restriction.label = "a" then 0.25 else if restriction.label = "b" then 0.75 else 0.5)
  | request => nothingStored request

/-- A filter on each of two columns of a relation that are equal to each other. -/
def equalColumns : List Restriction :=
  let a := Json.columnAt "r" "a" 0
  let b := Json.columnAt "r" "b" 0
  let below : Json := .list [.object [("String", .object [("sval", .text "<")])]]
  [⟨"ab", .equationAt a b 0⟩, ⟨"a", Fingerprint.filterOn below a (.object [("ival", .int 5)])⟩,
    ⟨"b", Fingerprint.filterOn below b (.object [("ival", .int 7)])⟩]

/-- The filter on the second column gets the selectivity of the filter on the first one. -/
theorem selectivities_of_pass_equal_columns :
    ∃ c e s, ∃ record : ClauseRecord, Pass [c] s ∧ c.restrictions = equalColumns ∧
      c.result = .ok record ∧ record.selectivities = [0.5, 0.25, 0.25] ∧
      List.Forall₂ (fun r value => c.Shares e r value c) equalColumns [0.5, 0.25, 0.25] := by
  let opening := openCall (bareQuery .select)
  let opened : Session := (outcome namesTold opening learning).2
  have opens : (outcome namesTold opening learning).1.toOption = some ⟨0, true⟩ := by
    decide +kernel
  have on : Predicts opened := by
    show opened.current.usePrediction = true
    decide +kernel
  have collects : (outcome namesTold (collect { scope := 1 } equalColumns) opened).1.toOption.map
      (·.selectivities) = some [0.5, 0.25, 0.25] := by decide +kernel
  obtain ⟨record, given, selectivities⟩ := Option.map_eq_some_iff.mp collects
  obtain ⟨_, begins, -⟩ := exists_runs_ok opens
  obtain ⟨t, run, -⟩ := exists_runs_ok given
  let c : Collection := ⟨{ scope := 1 }, equalColumns, t, .ok record⟩
  have pass : Pass [c] _ := .collected (.opened begins on) run
  have parsed : c.Parsed := by
    show ∀ r ∈ equalColumns, r.clause.IsParsed
    decide +kernel
  obtain ⟨-, shared⟩ := selectivities_of_pass pass
  obtain ⟨e, values, -, -, whole, all⟩ :=
    shared (List.forall_mem_singleton.mpr parsed) [] c [] record rfl rfl
  obtain rfl : values = [0.5, 0.25, 0.25] := by
    rw [← selectivities, whole]
    exact (List.append_nil values).symm
  refine ⟨c, e, _, record, pass, rfl, rfl, selectivities, all.imp fun r value => ?_⟩
  rintro ⟨c', member, shares⟩
  obtain rfl := List.mem_singleton.mp member
  exact shares

end CardinalityAdvisor
