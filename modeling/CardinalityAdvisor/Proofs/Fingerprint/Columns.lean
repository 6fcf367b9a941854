import CardinalityAdvisor.ParseTree.Expression
import CardinalityAdvisor.Proofs.Fingerprint.WellFormed
import CardinalityAdvisor.Proofs.Json.Spelling
import CardinalityAdvisor.Proofs.ParseTree.Views

/-!
# Columns and their equalities

A reference to a column holds no constants, so its canonical form is the reference without its
positions in the source text. An equality between columns is found in a clause by its operator and
its two sides.

## Main definitions

* `Json.withoutPositions tree`: a tree without the positions in the source text
* `Json.SameButPositions a b`: two trees differ at most in positions
* `Json.IsReference tree`, `Json.IsColumn tree`: references to columns, and those to a single one
* `Json.Equates clause left right`: a clause is an equality between two columns
* `Json.IsClause clause`: the shape of a clause
* `Json.swapSides clause`: a clause with its sides exchanged

## Main results

* `Json.ConstantFree.canonical_eq`: a tree without constants only loses its positions
* `Json.IsClause.arguments`: the columns of an equality are found
* `Json.equates_swapSides_iff`: exchanged sides make the same equality the other way round
-/

namespace CardinalityAdvisor

namespace Json

/-! ## Trees without constants -/

mutual
/-- A tree without the positions in the source text. -/
def withoutPositions : Json → Json
  | .list items => .list (itemsWithoutPositions items)
  | .object fields => .object (fieldsWithoutPositions fields)
  | other => other

/-- The items of a list without positions. -/
def itemsWithoutPositions : List Json → List Json
  | [] => []
  | item :: rest => item.withoutPositions :: itemsWithoutPositions rest

/-- The fields that are no positions, without positions inside. -/
def fieldsWithoutPositions : List (String × Json) → List (String × Json)
  | [] => []
  | (name, value) :: rest =>
    if isErased name then fieldsWithoutPositions rest
    else (name, value.withoutPositions) :: fieldsWithoutPositions rest
end

theorem itemsWithoutPositions_eq (items : List Json) :
    itemsWithoutPositions items = items.map withoutPositions := by
  induction items with
  | nil => rfl
  | cons item rest ih => rw [itemsWithoutPositions, ih, List.map_cons]

theorem fieldsWithoutPositions_eq (fields : List (String × Json)) :
    fieldsWithoutPositions fields =
      (fields.filter fun f => !isErased f.1).map fun f => (f.1, f.2.withoutPositions) := by
  induction fields with
  | nil => rfl
  | cons f rest ih =>
    rw [fieldsWithoutPositions, ih, List.filter_cons]
    cases isErased f.1 <;> rfl

/-- Two trees differ at most in their positions and in the order of fields. -/
def SameButPositions (a b : Json) : Prop := Same a.withoutPositions b.withoutPositions

instance (a b : Json) : Decidable (SameButPositions a b) :=
  inferInstanceAs (Decidable (Same a.withoutPositions b.withoutPositions))

theorem SameButPositions.refl (a : Json) : SameButPositions a a :=
  Eq.refl a.withoutPositions.inKeyOrder

theorem SameButPositions.symm {a b : Json} (h : SameButPositions a b) : SameButPositions b a :=
  Same.symm h

theorem SameButPositions.trans {a b c : Json} (h : SameButPositions a b)
    (h' : SameButPositions b c) : SameButPositions a c := Same.trans h h'

/-- No constant occurs in a tree. -/
def ConstantFree (tree : Json) : Prop :=
  Everywhere (fun fields => ∀ f ∈ fields, f.1 ≠ "A_Const") tree

instance (tree : Json) : Decidable (ConstantFree tree) :=
  inferInstanceAs (Decidable (Everywhere (fun fields => ∀ f ∈ fields, f.1 ≠ "A_Const") tree))

theorem argumentIsConstant_of_values {fields : List (String × Json)}
    (h : ∀ f ∈ fields, f.2.isConstant = false) : argumentIsConstant fields = false := by
  induction fields with
  | nil => rfl
  | cons f rest ih =>
    obtain ⟨here, later⟩ := List.forall_mem_cons.mp h
    rw [argumentIsConstant]
    split
    · exact here
    · exact ih later

namespace ConstantFree

variable {tree : Json}

theorem isConstant (free : ConstantFree tree) : tree.isConstant = false := by
  suffices tree.isConstant = false ∧
      ∀ fields, tree = .object fields → argumentIsConstant fields = false from this.1
  induction tree using Json.induction with
  | list items => exact ⟨rfl, by simp⟩
  | object fields ih =>
    constructor
    · unfold Json.isConstant
      split
      · rename_i tag value same
        cases same
        have noConstant : tag ≠ "A_Const" := Everywhere.here free _ List.mem_cons_self
        have inside := ih _ List.mem_cons_self (Everywhere.field free List.mem_cons_self)
        have casts : value.castsConstant = false := by
          unfold castsConstant
          split
          · exact inside.2 _ rfl
          · rfl
        rw [casts, beq_eq_false_iff_ne.mpr noConstant, Bool.and_false, Bool.or_false]
      · rfl
    · rintro _ ⟨⟩
      exact argumentIsConstant_of_values fun f member =>
        (ih f member (Everywhere.field free member)).1
  | other tree list object =>
    refine ⟨?_, fun fields same => absurd same (object fields)⟩
    unfold Json.isConstant
    split
    · exact absurd rfl (object _)
    · rfl

/-- **A tree without constants** only loses its positions. -/
theorem canonical_eq (free : ConstantFree tree) : canonical tree = tree.withoutPositions := by
  induction tree using Json.induction with
  | list items ih =>
    have mixed : ¬(items ≠ [] ∧ ∀ x ∈ items, x.isConstant = true) := by
      rintro ⟨nonempty, constant⟩
      obtain ⟨x, rest, rfl⟩ := List.exists_cons_of_ne_nil nonempty
      have free' : ConstantFree x := Everywhere.item free List.mem_cons_self
      exact Bool.false_ne_true (free'.isConstant.symm.trans (constant x List.mem_cons_self))
    rw [canonical_list mixed, withoutPositions, itemsWithoutPositions_eq]
    congr 1
    exact List.map_congr_left fun item member => ih item member (Everywhere.item free member)
  | object fields ih =>
    have other : isOnlyField "A_Const" fields = false := by
      unfold isOnlyField
      split
      · exact beq_eq_false_iff_ne.mpr (Everywhere.here free _ List.mem_cons_self)
      · rfl
    rw [canonical_fields other, withoutPositions, fieldsWithoutPositions_eq]
    congr 1
    refine List.map_congr_left fun f member => ?_
    have inside := (List.mem_filter.mp member).1
    rw [ih f inside (Everywhere.field free inside)]
  | other tree list object =>
    rw [canonical_other list object]
    unfold withoutPositions
    split
    · exact absurd rfl (list _)
    · exact absurd rfl (object _)
    · rfl

end ConstantFree

/-! ## References to columns -/

/-- The parts of a reference to a column. -/
def columnParts (tree : Json) : Option Json := (tree.lookup "ColumnRef").bind (lookup "fields")

/-- A reference to a column, or to all columns. -/
structure IsReference (tree : Json) : Prop where
  alone : ∃ attributes, tree = .object [("ColumnRef", .object attributes)]
  parts : ∃ items, tree.columnParts = some (.list items) ∧ ∀ item ∈ items, item.isObject = true
  wellFormed : tree.WellFormed
  constantFree : tree.ConstantFree
  plain : tree.Plain

/-- A reference to a single column. -/
structure IsColumn (tree : Json) : Prop extends IsReference tree where
  single : ∀ items, tree.columnParts = some (.list items) → ∀ item ∈ items,
    item.lookup "A_Star" = none

/-- What may stand on a side of an operator: a node, which refers to columns only if it is a
reference. -/
structure IsOperand (tree : Json) : Prop where
  isObject : tree.isObject = true
  reference : (tree.lookup "ColumnRef").isSome → tree.IsReference

theorem IsReference.isOperand {tree : Json} (h : tree.IsReference) : tree.IsOperand where
  isObject := by
    obtain ⟨attributes, rfl⟩ := h.alone
    rfl
  reference _ := h

theorem hasStar_eq {items : List Json} (nodes : ∀ item ∈ items, item.isObject = true) :
    hasStar items = .ok (items.any fun item => (item.lookup "A_Star").isSome) := by
  induction items with
  | nil => rfl
  | cons item rest ih =>
    obtain ⟨here, later⟩ := List.forall_mem_cons.mp nodes
    obtain ⟨fields, rfl⟩ := exists_fields here
    rw [hasStar, mentions_eq, ih later, List.any_cons]
    cases ((object fields).lookup "A_Star").isSome <;> rfl

/-- A node on a side of an operator is found out to be a column. -/
theorem IsOperand.isColumnRef {tree : Json} (h : tree.IsOperand) :
    ∃ found, CardinalityAdvisor.isColumnRef tree = .ok found ∧ (found = true ↔ tree.IsColumn) := by
  obtain ⟨fields, rfl⟩ := exists_fields h.isObject
  unfold CardinalityAdvisor.isColumnRef
  rw [mentions_eq]
  cases named : (object fields).lookup "ColumnRef" with
  | none =>
    refine ⟨false, rfl, iff_of_false Bool.false_ne_true fun column => ?_⟩
    obtain ⟨attributes, same⟩ := column.alone
    cases same
    cases named
  | some reference =>
    have isReference := h.reference (by rw [named]; rfl)
    obtain ⟨items, parts, nodes⟩ := isReference.parts
    have here : reference.lookup "fields" = some (.list items) := by
      rw [columnParts, named] at parts
      exact parts
    simp only [Option.isSome_some, bind, Except.bind, if_true, field_of_lookup named,
      field_of_lookup here, elements, hasStar_eq nodes]
    refine ⟨_, rfl, ?_⟩
    rw [Bool.not_eq_true', List.any_eq_false]
    constructor
    · intro none
      refine ⟨isReference, fun items' parts' item inside => ?_⟩
      cases parts.symm.trans parts'
      simpa using none item inside
    · intro column item inside
      rw [column.single items parts item inside]
      exact Bool.false_ne_true

/-! ## Equalities -/

/-- An attribute of an operator expression. -/
def operand (name : String) (clause : Json) : Option Json :=
  (clause.lookup "A_Expr").bind (lookup name)

/-- The operator of an operator expression: the last part of its name. -/
def operator (clause : Json) : Option Json :=
  match clause.operand "name" with
  | some (.list parts) => parts.getLast?.bind fun part =>
    (part.lookup "String").bind (lookup "sval")
  | _ => none

/-- A clause is an equality between two columns. -/
structure Equates (clause left right : Json) : Prop where
  kind : clause.operand "kind" = some (.text "AEXPR_OP")
  operator : clause.operator = some (.text "=")
  onLeft : clause.operand "lexpr" = some left
  onRight : clause.operand "rexpr" = some right
  columns : left.IsColumn ∧ right.IsColumn

/-- The shape of a clause: an operator expression says of which kind it is, and names its operator
if it has one. On the sides of an equality stand nodes. -/
structure IsClause (clause : Json) : Prop where
  isObject : clause.isObject = true
  kind : ∀ operation, clause.lookup "A_Expr" = some operation →
    ∃ kind, operation.lookup "kind" = some kind
  operator : clause.operand "kind" = some (.text "AEXPR_OP") → ∃ name, clause.operator = some name
  operands : clause.operand "kind" = some (.text "AEXPR_OP") → clause.operator = some (.text "=") →
    ∀ side ∈ ["lexpr", "rexpr"], ∀ x, clause.operand side = some x → x.IsOperand

theorem IsClause.operatorName {clause : Json} (h : clause.IsClause) :
    ∃ found, CardinalityAdvisor.operatorName clause = .ok found ∧ ∀ name, found = some name ↔
      clause.operand "kind" = some (.text "AEXPR_OP") ∧ clause.operator = some name := by
  obtain ⟨fields, rfl⟩ := exists_fields h.isObject
  unfold CardinalityAdvisor.operatorName
  rw [mentions_eq]
  cases named : (object fields).lookup "A_Expr" with
  | none =>
    refine ⟨none, rfl, fun name => iff_of_false nofun fun ⟨kind, _⟩ => ?_⟩
    rw [operand, named] at kind
    cases kind
  | some operation =>
    obtain ⟨kind, ofKind⟩ := h.kind operation named
    have own (name : String) : (object fields).operand name = operation.lookup name := by
      rw [operand, named, Option.bind_some]
    simp only [Option.isSome_some, bind, Except.bind, if_true, field_of_lookup named,
      field_of_lookup ofKind, own, ofKind, Option.some.injEq]
    split
    · rename_i isOperator
      obtain ⟨found, ofName⟩ := h.operator (by rw [own, ofKind, isOperator])
      have path := ofName
      unfold Json.operator at path
      split at path
      · rename_i parts names
        obtain ⟨part, last, inside⟩ := Option.bind_eq_some_iff.mp path
        obtain ⟨string, ofPart, ofString⟩ := Option.bind_eq_some_iff.mp inside
        rw [own] at names
        have lastPart : lastItem (.list parts) = .ok part := by rw [lastItem, last]
        simp only [field_of_lookup names, lastPart, field_of_lookup ofPart,
          field_of_lookup ofString]
        refine ⟨some found, rfl, fun name => ?_⟩
        rw [ofName, Option.some.injEq, and_iff_right isOperator]
      · cases path
    · rename_i other
      exact ⟨none, rfl, fun name => iff_of_false nofun fun both => other both.1⟩

theorem field?_of_lookup {tree : Json} (name : String) (isObject : tree.isObject = true)
    (nodes : ∀ x, tree.lookup name = some x → x.isObject = true) :
    tree.field? name = .ok (tree.lookup name) := by
  obtain ⟨fields, rfl⟩ := exists_fields isObject
  simp only [field?, lookup] at nodes ⊢
  split
  · rename_i found
    cases nodes _ found
  · rename_i missing
    rw [missing]
  · rename_i found
    rw [found]

/-- **The columns of an equality** are found, and nothing else is taken for one. -/
theorem IsClause.arguments {clause : Json} (h : clause.IsClause) :
    ∃ arguments, equalityArguments clause = .ok arguments ∧
      ∀ left right, arguments = some (left, right) ↔ clause.Equates left right := by
  obtain ⟨found, name, isName⟩ := h.operatorName
  unfold equalityArguments
  rw [name]
  simp only [bind, Except.bind]
  split
  · rename_i equality
    obtain ⟨kind, operator⟩ := (isName _).mp equality
    obtain ⟨operation, named, ofKind⟩ := Option.bind_eq_some_iff.mp kind
    have own (name : String) : clause.operand name = operation.lookup name := by
      rw [operand, named, Option.bind_some]
    have isObject : operation.isObject = true := by
      cases operation with
      | object => rfl
      | _ => cases ofKind
    have side (name : String) (member : name ∈ ["lexpr", "rexpr"]) :
        operation.field? name = .ok (operation.lookup name) :=
      field?_of_lookup name isObject fun x found =>
        (h.operands kind operator name member x (by rw [own, found])).isObject
    have isOperand (name : String) (member : name ∈ ["lexpr", "rexpr"]) {x : Json}
        (found : operation.lookup name = some x) : x.IsOperand :=
      h.operands kind operator name member x (by rw [own, found])
    simp only [field_of_lookup named, side "lexpr" (by simp), side "rexpr" (by simp)]
    have none_of (missing : ∀ left right, ¬clause.Equates left right) :
        ∃ arguments, (.ok none : TreeResult (Option (Json × Json))) = .ok arguments ∧
          ∀ left right, arguments = some (left, right) ↔ clause.Equates left right :=
      ⟨none, rfl, fun left right => iff_of_false nofun (missing left right)⟩
    cases onLeft : operation.lookup "lexpr" with
    | none => exact none_of fun _ _ equates => by simpa [own, onLeft] using equates.onLeft
    | some left =>
      cases onRight : operation.lookup "rexpr" with
      | none => exact none_of fun _ _ equates => by simpa [own, onRight] using equates.onRight
      | some right =>
        obtain ⟨leftFound, leftAnswer, leftColumn⟩ :=
          (isOperand "lexpr" (by simp) onLeft).isColumnRef
        obtain ⟨rightFound, rightAnswer, rightColumn⟩ :=
          (isOperand "rexpr" (by simp) onRight).isColumnRef
        have sides {l r : Json} (equates : clause.Equates l r) : left = l ∧ right = r := by
          have first := equates.onLeft
          have second := equates.onRight
          rw [own, onLeft] at first
          rw [own, onRight] at second
          exact ⟨Option.some.inj first, Option.some.inj second⟩
        simp only [leftAnswer, rightAnswer]
        cases leftFound with
        | false =>
          refine none_of fun l r equates => Bool.false_ne_true (leftColumn.mpr ?_)
          exact (sides equates).1 ▸ equates.columns.1
        | true =>
          cases rightFound with
          | false =>
            refine none_of fun l r equates => Bool.false_ne_true (rightColumn.mpr ?_)
            exact (sides equates).2 ▸ equates.columns.2
          | true =>
            refine ⟨some (left, right), rfl, fun l r => ⟨?_, fun equates => ?_⟩⟩
            · rintro ⟨⟩
              exact ⟨kind, operator, by rw [own, onLeft], by rw [own, onRight],
                leftColumn.mp rfl, rightColumn.mp rfl⟩
            · obtain ⟨rfl, rfl⟩ := sides equates
              rfl
  · rename_i other
    refine ⟨none, rfl, fun left right => iff_of_false nofun fun equates => ?_⟩
    exact other ((isName _).mpr ⟨equates.kind, equates.operator⟩)

/-! ## Exchanged sides -/

/-- The name of the other side of an operator. -/
def otherSide (name : String) : String :=
  if name = "lexpr" then "rexpr" else if name = "rexpr" then "lexpr" else name

/-- The attributes of an operator expression with its sides exchanged. -/
def swapOperands : Json → Json
  | .object attributes => .object (attributes.map fun f => (otherSide f.1, f.2))
  | other => other

/-- A clause with its sides exchanged. -/
def swapSides : Json → Json
  | .object fields => .object (fields.map fun f =>
      (f.1, if f.1 = "A_Expr" then f.2.swapOperands else f.2))
  | other => other

theorem otherSide_otherSide (name : String) : otherSide (otherSide name) = name := by
  unfold otherSide
  split_ifs <;> simp_all

theorem lookup_swapOperands (name : String) (operation : Json) :
    operation.swapOperands.lookup name = operation.lookup (otherSide name) := by
  cases operation with
  | object attributes =>
    simp only [swapOperands, lookup]
    induction attributes with
    | nil => rfl
    | cons f rest ih =>
      rw [List.map_cons]
      -- The sides are exchanged in pairs, so the first field of a name stays the first one.
      by_cases here : otherSide name = f.1
      · rw [← otherSide_otherSide name, here, lookup_cons_self (otherSide f.1, f.2),
          otherSide_otherSide, lookup_cons_self]
      · have other : name ≠ otherSide f.1 := fun same =>
          here (by rw [same, otherSide_otherSide])
        rw [lookup_cons_of_ne (by exact other), lookup_cons_of_ne here, ih]
  | _ => rfl

theorem lookup_swapSides (name : String) (clause : Json) : clause.swapSides.lookup name =
    (clause.lookup name).map fun value =>
      if name = "A_Expr" then value.swapOperands else value := by
  cases clause with
  | object fields =>
    exact lookup_map (fun name value => if name = "A_Expr" then value.swapOperands else value)
      fields name
  | _ => rfl

theorem operand_swapSides (name : String) (clause : Json) :
    clause.swapSides.operand name = clause.operand (otherSide name) := by
  rw [operand, operand, lookup_swapSides]
  cases clause.lookup "A_Expr" with
  | none => rfl
  | some operation => exact lookup_swapOperands name operation

theorem operator_swapSides (clause : Json) : clause.swapSides.operator = clause.operator := by
  rw [operator, operator, operand_swapSides]
  rfl

theorem Equates.swapSides {clause left right : Json} (h : clause.Equates left right) :
    clause.swapSides.Equates right left where
  kind := (operand_swapSides "kind" clause).trans h.kind
  operator := (operator_swapSides clause).trans h.operator
  onLeft := (operand_swapSides "lexpr" clause).trans h.onRight
  onRight := (operand_swapSides "rexpr" clause).trans h.onLeft
  columns := h.columns.symm

/-- **Exchanged sides** make the same equality the other way round. -/
theorem equates_swapSides_iff {clause left right : Json} :
    clause.swapSides.Equates left right ↔ clause.Equates right left := by
  refine ⟨fun h => ⟨?_, ?_, ?_, ?_, h.columns.symm⟩, Equates.swapSides⟩
  · exact (operand_swapSides "kind" clause).symm.trans h.kind
  · exact (operator_swapSides clause).symm.trans h.operator
  · exact (operand_swapSides "rexpr" clause).symm.trans h.onRight
  · exact (operand_swapSides "lexpr" clause).symm.trans h.onLeft

/-- A clause has the shape of one with its sides exchanged as well. -/
theorem IsClause.swapSides {clause : Json} (h : clause.IsClause) : clause.swapSides.IsClause where
  isObject := by
    obtain ⟨fields, rfl⟩ := exists_fields h.isObject
    rfl
  kind operation named := by
    rw [lookup_swapSides, Option.map_eq_some_iff] at named
    obtain ⟨own, found, rfl⟩ := named
    obtain ⟨kind, ofKind⟩ := h.kind own found
    exact ⟨kind, (lookup_swapOperands "kind" own).trans ofKind⟩
  operator isOperator := by
    rw [operand_swapSides] at isOperator
    rw [operator_swapSides]
    exact h.operator isOperator
  operands isOperator isEquality side member x found := by
    rw [operand_swapSides] at isOperator found
    rw [operator_swapSides] at isEquality
    refine h.operands isOperator isEquality (otherSide side) ?_ x found
    rcases List.mem_pair.mp member with rfl | rfl <;> decide

/-! ## Examples of columns and equalities -/

/-- A reference to a column of a relation, at a position in the source text. -/
def columnAt (relation column : String) (location : Int) : Json :=
  .object [("ColumnRef", .object [("fields", .list [.object [("String", .object
    [("sval", .text relation)])], .object [("String", .object [("sval", .text column)])]]),
    ("location", .int location)])]

/-- An equality at a position in the source text. -/
def equationAt (left right : Json) (location : Int) : Json :=
  .object [("A_Expr", .object [("kind", .text "AEXPR_OP"), ("lexpr", left),
    ("location", .int location), ("name", .list [.object [("String", .object
      [("sval", .text "=")])]]), ("rexpr", right)])]

theorem isColumn_columnAt {relation column : String} (wholeRelation : Text.isWhole relation = true)
    (wholeColumn : Text.isWhole column = true) (location : Int) :
    (columnAt relation column location).IsColumn where
  alone := ⟨_, rfl⟩
  parts := ⟨_, rfl, by simp [isObject]⟩
  wellFormed := of_decide_eq_true rfl
  constantFree := of_decide_eq_true rfl
  plain := by
    have names : ∀ name ∈ ["ColumnRef", "fields", "String", "sval", "location"],
        Text.isWhole name = true := by decide
    simp only [List.forall_mem_cons] at names
    simp [Plain, columnAt, isPlain, fieldsPlain, itemsPlain, wholeRelation, wholeColumn, names]
  single := by
    rintro _ ⟨⟩
    simp [lookup, lookup_cons_of_ne]

theorem isClause_equationAt {left right : Json} (onLeft : left.IsColumn) (onRight : right.IsColumn)
    (location : Int) : (equationAt left right location).IsClause where
  isObject := rfl
  kind := by
    rintro _ ⟨⟩
    exact ⟨_, rfl⟩
  operator _ := ⟨_, rfl⟩
  operands _ _ side member x found := by
    rcases List.mem_pair.mp member with rfl | rfl
    · cases found
      exact onLeft.toIsReference.isOperand
    · cases found
      exact onRight.toIsReference.isOperand

theorem equates_equationAt {left right : Json} (onLeft : left.IsColumn) (onRight : right.IsColumn)
    (location : Int) : (equationAt left right location).Equates left right :=
  ⟨rfl, rfl, rfl, rfl, onLeft, onRight⟩

end Json

end CardinalityAdvisor
