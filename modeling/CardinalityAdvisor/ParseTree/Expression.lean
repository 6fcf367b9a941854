import CardinalityAdvisor.ParseTree.Basic

/-!
# Column references and operators

## Main definitions

* `isColumnRef`: whether an expression is a reference to one column
* `operatorName`: the operator of an operator expression
* `equalityArguments`: both columns of an equality between columns
-/

namespace CardinalityAdvisor

/-- Whether a list of fields has a field that stands for all columns. -/
def hasStar : List Json → TreeResult Bool
  | [] => .ok false
  | field :: rest => do if ← field.mentions "A_Star" then .ok true else hasStar rest

/-- Whether an expression is a reference to one column, and not to all columns. -/
def isColumnRef (expr : Json) : TreeResult Bool := do
  if ← expr.mentions "ColumnRef" then
    let fields ← (← (← expr.field "ColumnRef").field "fields").elements
    (!·) <$> hasStar fields
  else .ok false

/-- The last item of a list. -/
def lastItem : Json → TreeResult Json
  | .list items =>
    match items.getLast? with
    | some item => .ok item
    | none => .error .outOfRange
  | .object _ => .error (.missing "-1")
  | .text s => if s.isEmpty then .error .outOfRange else .error .wrongKind
  | _ => .error .wrongKind

/-- The operator of an operator expression such as `a < 42`; nothing for other expressions. -/
def operatorName (expr : Json) : TreeResult (Option Json) := do
  if ← expr.mentions "A_Expr" then
    let operation ← expr.field "A_Expr"
    if (← operation.field "kind") = .text "AEXPR_OP" then
      let part ← lastItem (← operation.field "name")
      some <$> (← part.field "String").field "sval"
    else .ok none
  else .ok none

/-- Both columns of an equality between two columns. Other expressions have none, equalities
between a column and a value included. -/
def equalityArguments (expr : Json) : TreeResult (Option (Json × Json)) := do
  if (← operatorName expr) = some (.text "=") then
    let operation ← expr.field "A_Expr"
    match ← operation.field? "lexpr", ← operation.field? "rexpr" with
    | some left, some right =>
      if !(← isColumnRef left) then .ok none
      else if !(← isColumnRef right) then .ok none
      else .ok (some (left, right))
    | _, _ => .ok none
  else .ok none

end CardinalityAdvisor
