import CardinalityAdvisor.ParseTree.Statement
import CardinalityAdvisor.Proofs.ParseTree.TreeOrder
import CardinalityAdvisor.Proofs.ParseTree.Views

/-!
# The clauses of a predicate

A predicate that is a conjunction is taken apart into its arguments, and these are taken apart in
turn. What is left are its clauses. A predicate may also be neither true nor false, namely if it
depends on a value that is missing, so what the clauses say together is said in three truth values.

## Main definitions

* `Truth`: the truth values of predicates, with `Truth.and` and `Truth.all`
* `Json.IsConjunction p args`: a predicate is the conjunction of its arguments
* `Json.IsPredicate`: expressions in which conjunctions and the like have their arguments
* `Json.Reaches p place part`: a part of a predicate below conjunctions only
* `Json.ClauseAt p place clause`: a part that is no conjunction itself
* `Json.Interprets p value`: truth values for the parts of a predicate
* `Json.TakenApart p entries`: entries for the clauses of a predicate

## Main results

* `Json.TakenApart.single`, `Json.TakenApart.conjunction`: the clauses of predicates of either form
* `clauses_of_predicate`: the clauses of a predicate are all parts that are no conjunctions, in
  order, and their conjunction is as true as the predicate
-/

namespace CardinalityAdvisor

/-! ## Truth values -/

/-- Whether a predicate is true. Without a value that it depends on, it may be neither true nor
false. -/
inductive Truth where
  | no
  | unknown
  | yes
  deriving DecidableEq, Repr

namespace Truth

/-- The conjunction: false if one of both is, and true only if both are. -/
def and : Truth → Truth → Truth
  | .no, _ | _, .no => .no
  | .yes, .yes => .yes
  | _, _ => .unknown

/-- The conjunction of any number of truth values. -/
def all (values : List Truth) : Truth := values.foldr and .yes

theorem yes_and (a : Truth) : and .yes a = a := by cases a <;> rfl

theorem and_yes (a : Truth) : and a .yes = a := by cases a <;> rfl

theorem and_assoc (a b c : Truth) : (a.and b).and c = a.and (b.and c) := by
  cases a <;> cases b <;> cases c <;> rfl

theorem all_cons (a : Truth) (values : List Truth) : all (a :: values) = a.and (all values) := rfl

theorem all_append (values values' : List Truth) :
    all (values ++ values') = (all values).and (all values') := by
  induction values with
  | nil => exact (yes_and _).symm
  | cons a rest ih => rw [List.cons_append, all_cons, ih, all_cons, and_assoc]

/-- A conjunction of parts that are numbered is the conjunction of what each part comes to. -/
theorem all_numbered {α : Type} (value : TreePlace → α → Truth) (first : Nat)
    (lists : List (List (TreePlace × α))) :
    all ((numbered first lists).map fun e => value e.1 e.2) =
      all (lists.mapIdx fun i entries =>
        all (entries.map fun e => value ((first + i) :: e.1) e.2)) := by
  induction lists generalizing first with
  | nil => rfl
  | cons entries rest ih =>
    rw [numbered, List.map_append, all_append, ih, List.mapIdx_cons, all_cons, List.map_map]
    simp only [Nat.add_zero, Nat.add_assoc, Nat.add_comm 1]
    rfl

end Truth

/-! ## Predicates and their parts -/

namespace Json

/-- A predicate is the conjunction of some arguments. -/
def IsConjunction (p : Json) (args : List Json) : Prop :=
  ∃ fields attributes, p = .object fields ∧ fields.lookup "BoolExpr" = some (.object attributes) ∧
    attributes.lookup "boolop" = some (.text "AND_EXPR") ∧
      attributes.lookup "args" = some (.list args)

/-- A predicate: an expression that is no connective, or a connective with its kind and with
arguments that are predicates. -/
inductive IsPredicate : Json → Prop
  | plain {fields : List (String × Json)} : fields.lookup "BoolExpr" = none →
      IsPredicate (.object fields)
  | connective {fields attributes : List (String × Json)} {kind : Json} {args : List Json} :
      fields.lookup "BoolExpr" = some (.object attributes) →
      attributes.lookup "boolop" = some kind → attributes.lookup "args" = some (.list args) →
      (∀ arg ∈ args, IsPredicate arg) → IsPredicate (.object fields)

/-- A part of a predicate is reached through conjunctions only. Its place tells which argument is
taken of each. -/
inductive Reaches : Json → TreePlace → Json → Prop
  | here {p : Json} : Reaches p [] p
  | argument {p arg part : Json} {args : List Json} {i : Nat} {place : TreePlace} :
      p.IsConjunction args → args[i]? = some arg → Reaches arg place part →
      Reaches p (i :: place) part

/-- A clause of a predicate: a part that is reached through conjunctions only and is none itself,
so that none of its own parts counts. -/
def ClauseAt (p : Json) (place : TreePlace) (clause : Json) : Prop :=
  p.Reaches place clause ∧ ∀ args, ¬clause.IsConjunction args

/-- Truth values for the parts of a predicate, in which each conjunction is as true as its arguments
are together. The same expression may have different values at different places. -/
def Interprets (p : Json) (value : TreePlace → Json → Truth) : Prop :=
  ∀ place part args, p.Reaches place part → part.IsConjunction args →
    value place part = Truth.all (args.mapIdx fun i arg => value (place ++ [i]) arg)

variable {p : Json} {args : List Json}

theorem IsConjunction.unique {args' : List Json} (h : p.IsConjunction args)
    (h' : p.IsConjunction args') : args = args' := by
  obtain ⟨_, _, rfl, expr, -, found⟩ := h
  obtain ⟨_, _, ⟨⟩, expr', -, found'⟩ := h'
  rw [expr] at expr'
  cases expr'
  rw [found] at found'
  cases found'
  rfl

theorem clauseAt_of_not_conjunction (h : ∀ args, ¬p.IsConjunction args) {place : TreePlace}
    {clause : Json} : p.ClauseAt place clause ↔ place = [] ∧ clause = p := by
  constructor
  · rintro ⟨_ | ⟨conjunction, -, -⟩, -⟩
    · exact ⟨rfl, rfl⟩
    · exact absurd conjunction (h _)
  · rintro ⟨rfl, rfl⟩
    exact ⟨.here, h⟩

theorem clauseAt_of_conjunction (h : p.IsConjunction args) {place : TreePlace} {clause : Json} :
    p.ClauseAt place clause ↔ ∃ i inner arg, place = i :: inner ∧ args[i]? = some arg ∧
      arg.ClauseAt inner clause := by
  constructor
  · rintro ⟨_ | ⟨conjunction, found, reaches⟩, last⟩
    · exact absurd h (last _)
    · cases h.unique conjunction
      exact ⟨_, _, _, rfl, found, reaches, last⟩
  · rintro ⟨i, inner, arg, rfl, found, reaches, last⟩
    exact ⟨.argument h found reaches, last⟩

/-- The values of the parts of an argument are among those of the whole predicate. -/
theorem Interprets.argument {value : TreePlace → Json → Truth} (h : p.Interprets value)
    (conjunction : p.IsConjunction args) {i : Nat} {arg : Json} (found : args[i]? = some arg) :
    arg.Interprets fun place => value (i :: place) :=
  fun place part _ reaches inner =>
    h (i :: place) part _ (.argument conjunction found reaches) inner

end Json

/-! ## Taking predicates apart -/

/-- A conjunction is recognized. -/
theorem conjunction?_of_conjunction {p : Json} {args : List Json} (h : p.IsConjunction args) :
    conjunction? p = .ok (some (.list args)) := by
  obtain ⟨fields, attributes, rfl, expr, kind, found⟩ := h
  have inner : (Json.object fields).field "BoolExpr" = .ok (.object attributes) :=
    Json.field_of_lookup expr
  have named : (Json.object attributes).field "boolop" = .ok (.text "AND_EXPR") :=
    Json.field_of_lookup kind
  have listed : (Json.object attributes).field "args" = .ok (.list args) :=
    Json.field_of_lookup found
  rw [conjunction?, Json.mentions_eq, Json.lookup, expr, inner]
  show (do
    if (← (Json.object attributes).field "boolop") = .text "AND_EXPR" then
      some <$> (Json.object attributes).field "args"
    else .ok none : TreeResult (Option Json)) = _
  rw [named, listed]
  rfl

/-- A predicate that is no conjunction is not taken for one. -/
theorem conjunction?_of_not_conjunction {p : Json} (predicate : p.IsPredicate)
    (h : ∀ args, ¬p.IsConjunction args) : conjunction? p = .ok none := by
  cases predicate with
  | plain missing =>
    rw [conjunction?, Json.mentions_eq, Json.lookup, missing]
    rfl
  | @connective fields attributes kind args expr named found _ =>
    have inner : (Json.object fields).field "BoolExpr" = .ok (.object attributes) :=
      Json.field_of_lookup expr
    have other : kind ≠ .text "AND_EXPR" := by
      rintro rfl
      exact h args ⟨fields, attributes, rfl, expr, named, found⟩
    have read : (Json.object attributes).field "boolop" = .ok kind := Json.field_of_lookup named
    rw [conjunction?, Json.mentions_eq, Json.lookup, expr, inner]
    show (do
      if (← (Json.object attributes).field "boolop") = .text "AND_EXPR" then
        some <$> (Json.object attributes).field "args"
      else .ok none : TreeResult (Option Json)) = _
    rw [read]
    exact if_neg other

theorem conjuncts_of_conjunction {p : Json} {args : List Json} (h : p.IsConjunction args) :
    conjuncts p = conjunctsOfItems args := by
  have recognized := conjunction?_of_conjunction h
  have present : p ≠ .null := by
    obtain ⟨_, _, rfl, -⟩ := h
    rintro ⟨⟩
  rw [conjuncts, if_neg present]
  split <;> simp_all

theorem conjuncts_of_not_conjunction {p : Json} (predicate : p.IsPredicate)
    (h : ∀ args, ¬p.IsConjunction args) : conjuncts p = .ok [p] := by
  have recognized := conjunction?_of_not_conjunction predicate h
  have present : p ≠ .null := by
    rintro rfl
    cases predicate
  rw [conjuncts, if_neg present]
  split <;> simp_all

/-- The clauses of several predicates stand behind each other. -/
theorem conjunctsOfItems_eq {args : List Json} {clauses : Json → List Json}
    (h : ∀ arg ∈ args, conjuncts arg = .ok (clauses arg)) :
    conjunctsOfItems args = .ok (args.flatMap clauses) := by
  induction args with
  | nil => rw [conjunctsOfItems]; rfl
  | cons arg rest ih =>
    obtain ⟨here, later⟩ := List.forall_mem_cons.mp h
    rw [conjunctsOfItems, here, ih later]
    rfl

/-- Entries for the clauses of a predicate: those that it is taken apart into, in order, and
together as true as the predicate. -/
structure Json.TakenApart (p : Json) (entries : List (TreePlace × Json)) : Prop where
  found : conjuncts p = .ok (entries.map Prod.snd)
  inOrder : InTreeOrder p.ClauseAt entries
  truth : ∀ value, p.Interprets value →
    Truth.all (entries.map fun e => value e.1 e.2) = value [] p

namespace Json.TakenApart

variable {p : Json} {args : List Json}

/-- What is no conjunction is its only clause. -/
theorem single (predicate : p.IsPredicate) (last : ∀ args, ¬p.IsConjunction args) :
    p.TakenApart [([], p)] where
  found := conjuncts_of_not_conjunction predicate last
  inOrder := by
    refine ⟨List.pairwise_singleton _ _, fun {place clause} => ?_⟩
    rw [List.mem_singleton, Prod.mk.injEq, clauseAt_of_not_conjunction last]
  truth := fun value _ => Truth.and_yes _

/-- The clauses of a conjunction are those of its arguments, which are numbered. -/
theorem conjunction (h : p.IsConjunction args) {entriesOf : Json → List (TreePlace × Json)}
    (parts : ∀ arg ∈ args, arg.TakenApart (entriesOf arg)) :
    p.TakenApart (numbered 0 (args.map entriesOf)) where
  found := by
    rw [conjuncts_of_conjunction h, conjunctsOfItems_eq fun arg member => (parts arg member).found,
      map_numbered, List.flatMap_map]
  inOrder := by
    refine (InTreeOrder.of_parts ClauseAt ?_).congr
      fun place clause => (clauseAt_of_conjunction h).symm
    refine List.forall₂_map_right_iff.mpr (List.forall₂_same.mpr fun arg member => ?_)
    exact (parts arg member).inOrder
  truth value interprets := by
    rw [Truth.all_numbered, interprets [] p args .here h]
    congr 1
    refine List.ext_getElem (by simp) fun i _ bound => ?_
    rw [List.length_mapIdx] at bound
    have here : args[i]? = some args[i] := List.getElem?_eq_getElem bound
    have inside := (parts args[i] (List.getElem_mem bound)).truth _ (interprets.argument h here)
    simpa using inside

end Json.TakenApart

theorem exists_takenApart {p : Json} (h : p.IsPredicate) : ∃ entries, p.TakenApart entries := by
  induction h with
  | plain missing =>
    refine ⟨_, .single (.plain missing) ?_⟩
    rintro args ⟨_, _, ⟨⟩, expr, -⟩
    rw [missing] at expr
    cases expr
  | @connective fields attributes kind args expr named found arguments ih =>
    by_cases conjunctive : kind = .text "AND_EXPR"
    · subst conjunctive
      choose! entriesOf parts using ih
      exact ⟨_, .conjunction ⟨fields, attributes, rfl, expr, named, found⟩ parts⟩
    · refine ⟨_, .single (.connective expr named found arguments) ?_⟩
      rintro _ ⟨_, _, ⟨⟩, expr', named', -⟩
      rw [expr] at expr'
      cases expr'
      rw [named] at named'
      cases named'
      exact conjunctive rfl

/-- **The clauses of a predicate** are all the parts that are reached through conjunctions only and
are no conjunctions themselves, one for each place, in the order of the places. Whatever truth
values the parts have, the clauses are together as true as the predicate. A missing predicate has no
clauses. -/
theorem clauses_of_predicate {p : Json} (h : p.IsPredicate) :
    conjuncts .null = .ok [] ∧
    ∃ entries, conjuncts p = .ok (entries.map Prod.snd) ∧ InTreeOrder p.ClauseAt entries ∧
      ∀ value, p.Interprets value →
        Truth.all (entries.map fun e => value e.1 e.2) = value [] p := by
  obtain ⟨entries, apart⟩ := exists_takenApart h
  refine ⟨?_, entries, apart.found, apart.inOrder, apart.truth⟩
  rw [conjuncts, if_pos rfl]

/-- A connective of some kind. -/
def connective (kind : String) (args : List Json) : Json :=
  .object [("BoolExpr", .object [("args", .list args), ("boolop", .text kind)])]

/-- A column as a condition. -/
def flagColumn (name : String) : Json :=
  .object [("ColumnRef", .object [("fields", .list [.object [("String",
    .object [("sval", .text name)])]])])]

/-- A conjunction with conjunctions in it: an empty one, one that repeats a clause, and one inside a
disjunction. -/
def nestedConjunction : Json :=
  connective "AND_EXPR" [flagColumn "a", connective "AND_EXPR" [],
    connective "AND_EXPR" [connective "OR_EXPR" [
      connective "AND_EXPR" [flagColumn "b", flagColumn "c"], flagColumn "d"], flagColumn "a"]]

theorem clauses_of_predicate_nested : nestedConjunction.IsPredicate ∧
    ∃ entries, InTreeOrder nestedConjunction.ClauseAt entries ∧
      entries.map Prod.snd = [flagColumn "a", connective "OR_EXPR" [
        connective "AND_EXPR" [flagColumn "b", flagColumn "c"], flagColumn "d"], flagColumn "a"] ∧
      ∀ value, nestedConjunction.Interprets value →
        Truth.all (entries.map fun e => value e.1 e.2) = value [] nestedConjunction := by
  have column (name : String) : (flagColumn name).IsPredicate := .plain rfl
  have joined (kind : String) {args : List Json} (parts : ∀ arg ∈ args, arg.IsPredicate) :
      (connective kind args).IsPredicate := .connective rfl rfl rfl parts
  have predicate : nestedConjunction.IsPredicate := by
    have inner : (connective "AND_EXPR" [flagColumn "b", flagColumn "c"]).IsPredicate :=
      joined _ (by simp [column])
    have either := joined "OR_EXPR"
      (List.forall_mem_cons.mpr ⟨inner, List.forall_mem_singleton.mpr (column "d")⟩)
    have both := joined "AND_EXPR"
      (List.forall_mem_cons.mpr ⟨either, List.forall_mem_singleton.mpr (column "a")⟩)
    exact joined _ (by simp [column, both, joined])
  obtain ⟨-, entries, found, inOrder, truth⟩ := clauses_of_predicate predicate
  have answer : conjuncts nestedConjunction = .ok [flagColumn "a", connective "OR_EXPR" [
      connective "AND_EXPR" [flagColumn "b", flagColumn "c"], flagColumn "d"], flagColumn "a"] := by
    cbv
  refine ⟨predicate, entries, inOrder, ?_, truth⟩
  rw [found] at answer
  exact Except.ok.inj answer

end CardinalityAdvisor
