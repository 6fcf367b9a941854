import CardinalityAdvisor.Proofs.Fingerprint.Similar
import CardinalityAdvisor.Proofs.Session.Indifference

/-!
# Constants do not matter

A session classifies queries and plans some of them, one after the other or one within the other.
If the constants in the queries are changed, their positions, and the lengths of their lists of
constants, the session cannot tell: it hands out the same policies, and it knows and stores the same
classes. The texts of the queries, the clock and the log may say anything.

## Main definitions

* `Situation`, `Move`, `Turn`: a session with planning calls in progress, what is done with it, and
  what comes of that
* `Plays own m moves turns`: moves are made one after the other
* `Move.Alike`, `Turn.Agree`: moves that differ in constants only, and turns that cannot be told
  apart

## Main results

* `Makes.agree`, `Plays.agree`: one move and a whole run, made on both sides
* `constants_without_influence`: constants have no influence on policies and classes
-/

namespace CardinalityAdvisor

open CardinalityAdvisor.Action
open Knowledge (Store)

/-! ## Runs of planning -/

/-- A session with its knowledge base and the planning calls in progress, the innermost one
first. -/
structure Situation where
  scene : Scene
  opened : List PlanningCall

/-- What is done with a session. -/
inductive Move where
  /-- A query is classified, and its class stays active. -/
  | classify (query : Query)
  /-- A planning call begins. -/
  | begin (query : Query)
  /-- The innermost planning call ends. -/
  | finish
  /-- A class is no longer being planned. -/
  | release (queryHash : Int)

/-- A move is made, and returns a policy if it classifies a query. If a classification fails, no
planning call begins. -/
inductive Makes (own : List String) :
    Situation → Move → Except Fault (Option PlanningPolicy) → Situation → Prop
  | classified {m m' : Scene} {opened : List PlanningCall} {query : Query}
      {result : Except Fault Classified} : Performs own (classify query) m result m' →
      Makes own ⟨m, opened⟩ (.classify query) (result.map fun c => some c.policy) ⟨m', opened⟩
  | begun {m m' : Scene} {opened : List PlanningCall} {query : Query} {call : PlanningCall} :
      Performs own (openCall query) m (.ok call) m' →
      Makes own ⟨m, opened⟩ (.begin query) (.ok (some (m'.session.policies call.policy)))
        ⟨m', call :: opened⟩
  | refused {m m' : Scene} {opened : List PlanningCall} {query : Query} {fault : Fault} :
      Performs own (openCall query) m (.error fault) m' →
      Makes own ⟨m, opened⟩ (.begin query) (.error fault) ⟨m', opened⟩
  | finished {m m' : Scene} {opened : List PlanningCall} {call : PlanningCall}
      {result : Except Fault Unit} : Performs own (closeCall call) m result m' →
      Makes own ⟨m, call :: opened⟩ .finish (result.map fun _ => none) ⟨m', opened⟩
  | idle {m : Scene} : Makes own ⟨m, []⟩ .finish (.ok none) ⟨m, []⟩
  | released {m : Scene} {opened : List PlanningCall} {queryHash : Int} :
      Makes own ⟨m, opened⟩ (.release queryHash) (.ok none)
        ⟨{ m with session := m.session.release queryHash }, opened⟩

/-- What a move has returned, and what was there after it. -/
structure Turn where
  returned : Except Fault (Option PlanningPolicy)
  after : Situation

/-- Moves are made one after the other. -/
inductive Plays (own : List String) : Situation → List Move → List Turn → Prop
  | done (m : Situation) : Plays own m [] []
  | turn {m : Situation} {move : Move} {turn : Turn} {moves : List Move} {turns : List Turn} :
      Makes own m move turn.returned turn.after → Plays own turn.after moves turns →
      Plays own m (move :: moves) (turn :: turns)

/-! ## Moves that are alike -/

/-- Two situations agree: in the sessions only times may differ, and in the knowledge bases only
texts and samples. -/
structure Situation.Agree (m m' : Situation) : Prop where
  scene : m.scene.Agree m'.scene
  opened : m.opened = m'.opened

/-- Two situations agree that came from knowledge bases with the same samples as they have now. -/
structure Situation.AgreeFrom (ground ground' : Store) (m m' : Situation) : Prop where
  scene : m.scene.AgreeFrom ground ground' m'.scene
  opened : m.opened = m'.opened

/-- Two moves are the same, but for queries that are alike. -/
inductive Move.Alike : Move → Move → Prop
  | classify {query query' : Query} : query.Alike query' →
      Alike (.classify query) (.classify query')
  | begin {query query' : Query} : query.Alike query' → Alike (.begin query) (.begin query')
  | finish : Alike .finish .finish
  | release (queryHash : Int) : Alike (.release queryHash) (.release queryHash)

/-- Two turns of runs that came from two knowledge bases cannot be told apart: both moves fail, or
they return policies that agree in every field but the times, or none. Then the same classes are
active, deactivated and stored, and nothing else was stored but texts. -/
structure Turn.Agree (ground ground' : Store) (turn turn' : Turn) : Prop where
  returned :
    BothEnd Fault.Alike (Option.Rel PlanningPolicy.SameButTimes) turn.returned turn'.returned
  active : turn.after.scene.session.active = turn'.after.scene.session.active
  deactivated : turn.after.scene.session.deactivated = turn'.after.scene.session.deactivated
  classes : turn.after.scene.store.classes = turn'.after.scene.store.classes
  samples : turn.after.scene.store.samples = ground.samples
  samples' : turn'.after.scene.store.samples = ground'.samples
  after : turn.after.AgreeFrom ground ground' turn'.after

section Agree

variable {own : List String} {ground ground' : Store} {m m' : Situation}

theorem Turn.Agree.of_after {turn turn' : Turn}
    (returned : BothEnd Fault.Alike (Option.Rel PlanningPolicy.SameButTimes) turn.returned
      turn'.returned) (after : turn.after.AgreeFrom ground ground' turn'.after) :
    turn.Agree ground ground' turn' := by
  obtain ⟨policies, same, -⟩ := after.scene.session
  refine ⟨returned, ?_, ?_, after.scene.store.classes, after.scene.rest.samples,
    after.scene.rest'.samples, after⟩
  · rw [same]
  · rw [same]

/-- **One move**: moves that are alike cannot be told apart. -/
theorem Makes.agree {m₁ m₁' : Situation} {move move' : Move}
    {r r' : Except Fault (Option PlanningPolicy)} (same : m.AgreeFrom ground ground' m')
    (alike : move.Alike move') (makes : Makes own m move r m₁)
    (makes' : Makes own m' move' r' m₁') : Turn.Agree ground ground' ⟨r, m₁⟩ ⟨r', m₁'⟩ := by
  obtain ⟨scene, opened⟩ := same
  cases alike with
  | classify alike =>
    cases makes with
    | classified run =>
      cases makes' with
      | classified run' =>
        obtain ⟨ends, agree⟩ := coupled_classify alike scene run run'
        refine .of_after ?_ ⟨agree, opened⟩
        cases ends with
        | ok related => exact .ok (.some related.1)
        | error alike => exact .error alike
  | begin alike =>
    cases makes with
    | begun run =>
      cases makes' with
      | begun run' =>
        obtain ⟨⟨rfl⟩, agree⟩ := coupled_openCall alike scene run run'
        refine .of_after (.ok (.some ?_)) ⟨agree, congrArg (List.cons _) opened⟩
        obtain ⟨policies, same, times⟩ := agree.session
        rw [same]
        exact times _
      | refused run' => cases (coupled_openCall alike scene run run').1
    | refused run =>
      cases makes' with
      | begun run' => cases (coupled_openCall alike scene run run').1
      | refused run' =>
        obtain ⟨_ | alike, agree⟩ := coupled_openCall alike scene run run'
        exact .of_after (.error alike) ⟨agree, opened⟩
  | finish =>
    cases makes with
    | finished run =>
      cases makes' with
      | finished run' =>
        obtain ⟨rfl, outer⟩ := List.cons.inj opened
        obtain ⟨ends, agree⟩ := coupled_closeCall _ scene run run'
        refine .of_after ?_ ⟨agree, outer⟩
        cases ends with
        | ok => exact .ok .none
        | error alike => exact .error alike
      | idle => cases opened
    | idle =>
      cases makes' with
      | finished run' => cases opened
      | idle => exact .of_after (.ok .none) ⟨scene, opened⟩
  | release queryHash =>
    cases makes with
    | released =>
      cases makes' with
      | released =>
        refine .of_after (.ok .none) ⟨scene.withSessions ?_, opened⟩
        obtain ⟨policies, same, times⟩ := scene.session
        rw [same]
        exact ⟨policies, rfl, times⟩

/-- **A whole run**: each turn leads to situations that agree again. -/
theorem Plays.agree {moves moves' : List Move} {turns turns' : List Turn}
    (same : m.AgreeFrom ground ground' m') (alike : List.Forall₂ Move.Alike moves moves')
    (plays : Plays own m moves turns) (plays' : Plays own m' moves' turns') :
    List.Forall₂ (Turn.Agree ground ground') turns turns' := by
  induction alike generalizing m m' turns turns' with
  | nil =>
    cases plays
    cases plays'
    exact .nil
  | cons alike _ ih =>
    cases plays with
    | turn makes later =>
      cases plays' with
      | turn makes' later' =>
        have agree := makes.agree same alike makes'
        exact .cons agree (ih agree.after later later')

end Agree

/-! ## Runs exist -/

/-- Every move can be made. -/
theorem exists_makes (own : List String) (m : Situation) (move : Move) :
    ∃ turn : Turn, Makes own m move turn.returned turn.after := by
  have performed {α : Type} (action : Action α) :
      ∃ r m', Performs own action m.scene r m' := by
    let others : (request : Request) → request.Reply
      | .knowledgeRelations => own
      | request => nothingStored request
    exact ⟨_, _, performs_performed others rfl action m.scene⟩
  obtain ⟨scene, opened⟩ := m
  cases move with
  | classify query =>
    obtain ⟨r, m', run⟩ := performed (classify query)
    exact ⟨⟨_, _⟩, .classified run⟩
  | begin query =>
    obtain ⟨fault | call, m', run⟩ := performed (openCall query)
    · exact ⟨⟨_, _⟩, .refused run⟩
    · exact ⟨⟨_, _⟩, .begun run⟩
  | finish =>
    cases opened with
    | nil => exact ⟨⟨_, _⟩, .idle⟩
    | cons call opened =>
      obtain ⟨r, m', run⟩ := performed (closeCall call)
      exact ⟨⟨_, _⟩, .finished run⟩
  | release queryHash => exact ⟨⟨_, _⟩, .released⟩

/-- Moves can always be made, one after the other. -/
theorem exists_plays (own : List String) (m : Situation) (moves : List Move) :
    ∃ turns, Plays own m moves turns := by
  induction moves generalizing m with
  | nil => exact ⟨[], .done m⟩
  | cons move moves ih =>
    obtain ⟨turn, makes⟩ := exists_makes own m move
    obtain ⟨turns, later⟩ := ih turn.after
    exact ⟨turn :: turns, .turn makes later⟩

/-! ## Constants have no influence -/

/-- **Constants do not matter**: from situations that agree, two runs make moves that are alike.
Both can be made, and whatever the clock says then, after each turn they have returned policies that
agree in every field but the times, the same classes are active, deactivated and stored, and apart
from classes and texts nothing has been stored. -/
theorem constants_without_influence (own : List String) {m m' : Situation}
    {moves moves' : List Move} (same : m.Agree m') (alike : List.Forall₂ Move.Alike moves moves') :
    (∃ turns, Plays own m moves turns) ∧ (∃ turns', Plays own m' moves' turns') ∧
      ∀ turns turns', Plays own m moves turns → Plays own m' moves' turns' →
        List.Forall₂ (Turn.Agree m.scene.store m'.scene.store) turns turns' :=
  ⟨exists_plays own m moves, exists_plays own m' moves', fun _ _ plays plays' =>
    plays.agree ⟨same.scene.from, same.opened⟩ alike plays'⟩

/-- A selection of the rows in which a column is one of some numbers. -/
def selection (position : Int) (numbers : List Int) : Json :=
  .object [("SelectStmt", .object [
    ("fromClause", .list [.object [("RangeVar", .object [
      ("relname", .text "t"), ("location", .int (position - 8))])]]),
    ("whereClause", membership position numbers)])]

/-- The positions and the numbers of a condition may be changed, and there may be more of them. -/
theorem alike_membership (position position' : Int) {numbers numbers' : List Int}
    (nonempty : numbers ≠ []) (nonempty' : numbers' ≠ []) :
    (membership position numbers).Alike (membership position' numbers') := by
  have location : isErased "location" = true := by decide +kernel
  have start : isErased "rexpr_list_start" = true := by decide +kernel
  have constants (numbers : List Int) :
      ∀ x ∈ numbers.map fun n => Json.object [("A_Const", .object [("ival", .int n)])],
        x.isConstant = true ∧ x.ScansNothing := by
    intro x member
    obtain ⟨n, -, rfl⟩ := List.mem_map.mp member
    exact ⟨rfl, of_decide_eq_true rfl⟩
  refine .alone (.of_fields (.cons (.value (.refl _)) (.cons (.value (.alone ?_))
    (.cons (.value (.alone (.alone ?_))) (.cons (.position location)
      (.cons (.position start) .nil))))))
  · exact .of_fields (.cons (.value (.refl _)) (.cons (.position location) .nil))
  · exact .constants (mt List.map_eq_nil_iff.mp nonempty) (mt List.map_eq_nil_iff.mp nonempty')
      (constants numbers) (constants numbers')

theorem alike_selection (position position' : Int) {numbers numbers' : List Int}
    (nonempty : numbers ≠ []) (nonempty' : numbers' ≠ []) :
    (selection position numbers).Alike (selection position' numbers') := by
  have location : isErased "location" = true := by decide +kernel
  refine .alone (.of_fields (.cons (.value (.of_items (.cons (.alone ?_) .nil)))
    (.cons (.value (alike_membership position position' nonempty nonempty')) .nil)))
  exact .of_fields (.cons (.value (.refl _)) (.cons (.position location) .nil))

/-- The moves of a planning call for a selection, within which a selection of other rows is
classified. -/
def nestedSelections (position : Int) (numbers others : List Int) (text : Option String) :
    List Move :=
  [.begin ⟨some (selection position numbers), text⟩,
    .classify ⟨some (selection (position + 1) others), none⟩, .finish]

/-- In two sessions, two and three numbers are asked for at different positions, and in only one of
them the text of the query is known. The class is stored in both, and the policies agree. -/
theorem constants_without_influence_selection :
    ∃ first turns turns',
      first.returned.isOk = true ∧ first.after.scene.store.classes.length = 1 ∧
      Plays [] ⟨⟨learning, {}⟩, []⟩ (nestedSelections 22 [1, 2] [6] none) (first :: turns) ∧
      Plays [] ⟨⟨learning, {}⟩, []⟩ (nestedSelections 29 [3, 4, 5] [7, 8] (some "select"))
        turns' ∧
      List.Forall₂ (Turn.Agree {} {}) (first :: turns) turns' := by
  have holds (position : Int) (numbers : List Int) :
      (selection position numbers).HoldsStatement := ⟨rfl, by rintro _ ⟨⟩; rfl⟩
  have alike : List.Forall₂ Move.Alike (nestedSelections 22 [1, 2] [6] none)
      (nestedSelections 29 [3, 4, 5] [7, 8] (some "select")) :=
    .cons (.begin (.trees _ _ (holds _ _) (alike_selection _ _ (by simp) (by simp))))
      (.cons (.classify (.trees _ _ (holds _ _) (alike_selection _ _ (by simp) (by simp))))
        (.cons .finish .nil))
  have same : Situation.Agree ⟨⟨learning, {}⟩, []⟩ ⟨⟨learning, {}⟩, []⟩ :=
    ⟨⟨⟨_, rfl, fun _ => rfl⟩, ⟨rfl, rfl, rfl⟩⟩, rfl⟩
  obtain ⟨-, ⟨turns', plays'⟩, agree⟩ := constants_without_influence [] same alike
  let begun := performed nothingStored (openCall ⟨some (selection 22 [1, 2]), none⟩) ⟨learning, {}⟩
  have opens : begun.1.toOption = some ⟨0, true⟩ := by decide +kernel
  have stored : begun.2.store.classes.length = 1 := by decide +kernel
  have runs : Performs [] _ ⟨learning, {}⟩ begun.1 begun.2 :=
    performs_performed nothingStored rfl _ _
  clear_value begun
  obtain ⟨_ | call, after⟩ := begun
  · cases opens
  · obtain ⟨turns, later⟩ := exists_plays [] ⟨after, [call]⟩
      (nestedSelections 22 [1, 2] [6] none).tail
    have plays : Plays [] _ _ (⟨_, _⟩ :: turns) := .turn (.begun runs) later
    exact ⟨_, turns, turns', rfl, stored, plays, plays', agree _ _ plays plays'⟩

end CardinalityAdvisor
