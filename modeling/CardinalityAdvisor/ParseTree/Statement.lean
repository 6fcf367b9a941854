import CardinalityAdvisor.ParseTree.Basic

/-!
# Statements and their predicates

## Main definitions

* `StatementKind`: the kinds of statements that reach a planner
* `unwrapExplain`: a statement without the request to explain it
* `statementKind`: the kind of a statement
* `whereClause`: the predicate of a statement
* `conjuncts`: the clauses of a predicate

## Main results

* `Json.lookup_sizeOf`: a field's value is smaller than the list of fields it stands in
-/

namespace CardinalityAdvisor

/-- The kinds of statements that reach a planner. -/
inductive StatementKind where
  | select
  | insert
  | update
  | delete
  | utility
  deriving DecidableEq, Repr

namespace StatementKind

/-- Whether statements of the kind read or change data. -/
def isDml (kind : StatementKind) : Bool := kind != .utility

/-- The type of the nodes of a kind of statements. -/
def tag : StatementKind → String
  | .select => "SelectStmt"
  | .insert => "InsertStmt"
  | .update => "UpdateStmt"
  | .delete => "DeleteStmt"
  | .utility => "Utility"

/-- The kind of the statements whose nodes have a type. -/
def ofTag : Json → StatementKind
  | .text "SelectStmt" => .select
  | .text "InsertStmt" => .insert
  | .text "UpdateStmt" => .update
  | .text "DeleteStmt" => .delete
  | _ => .utility

end StatementKind

/-- A statement without the request to explain it, and whether there was one. -/
def unwrapExplain (stmt : Json) : TreeResult (Json × Bool) := do
  if ← stmt.mentions "ExplainStmt" then
    let query ← (← stmt.field "ExplainStmt").field "query"
    .ok (query, true)
  else .ok (stmt, false)

/-- The kind of a statement. -/
def statementKind (stmt : Json) : TreeResult StatementKind := StatementKind.ofTag <$> nodeType stmt

/-- The attributes of the node that a statement consists of. -/
def nodeAttributes (stmt : Json) : TreeResult Json := do stmt.entry (← nodeType stmt)

/-- The predicate of a statement, if it has one. -/
def whereClause (stmt : Json) : TreeResult (Option Json) := do
  let (stmt, _) ← unwrapExplain stmt
  (← nodeAttributes stmt).field? "whereClause"

/-- A field's value is smaller than the list of fields it stands in. -/
theorem Json.lookup_sizeOf {name : String} {fields : List (String × Json)} {value : Json}
    (h : fields.lookup name = some value) : sizeOf value < sizeOf fields := by
  induction fields with
  | nil => simp at h
  | cons head rest ih =>
    obtain ⟨other, v⟩ := head
    rw [List.lookup_cons] at h
    split at h
    · cases h
      simp only [List.cons.sizeOf_spec, Prod.mk.sizeOf_spec]
      omega
    · have := ih h
      simp only [List.cons.sizeOf_spec]
      omega

/-- A field's value is smaller than the object that has the field. -/
theorem Json.field_sizeOf {name : String} {j value : Json} (h : j.field name = .ok value) :
    sizeOf value < sizeOf j := by
  unfold Json.field at h
  split at h
  · rename_i fields
    split at h
    · rename_i found
      cases h
      have := Json.lookup_sizeOf found
      simp only [Json.object.sizeOf_spec]
      omega
    · cases h
  · cases h

/-- The arguments of a predicate that is a conjunction; nothing for other predicates. -/
def conjunction? (predicate : Json) : TreeResult (Option Json) := do
  if ← predicate.mentions "BoolExpr" then
    let expr ← predicate.field "BoolExpr"
    if (← expr.field "boolop") = .text "AND_EXPR" then some <$> expr.field "args" else .ok none
  else .ok none

/-- The arguments of a conjunction are smaller than the conjunction. -/
theorem conjunction?_sizeOf {predicate args : Json}
    (h : conjunction? predicate = .ok (some args)) : sizeOf args < sizeOf predicate := by
  unfold conjunction? at h
  simp only [bind, Except.bind, Functor.map, Except.map] at h
  split at h
  · cases h
  · split at h
    · split at h
      · cases h
      · rename_i found
        split at h
        · cases h
        · split at h
          · split at h
            · cases h
            · rename_i foundArgs
              cases h
              exact Nat.lt_trans (Json.field_sizeOf foundArgs) (Json.field_sizeOf found)
          · cases h
    · cases h

mutual
/-- The clauses of a predicate: its parts below conjunctions, from left to right. A predicate that
is missing has none. -/
def conjuncts (predicate : Json) : TreeResult (List Json) :=
  if predicate = .null then .ok []
  else
    match _found : conjunction? predicate with
    | .error fault => .error fault
    | .ok none => .ok [predicate]
    | .ok (some (.list args)) => conjunctsOfItems args
    | .ok (some other) => do
      (← other.elements).mapM fun part => do
        match ← conjunction? part with
        | none => .ok part
        | some _ => .error .wrongKind
termination_by sizeOf predicate
decreasing_by
  have := conjunction?_sizeOf _found
  simp only [Json.list.sizeOf_spec] at this
  omega

/-- The clauses of several predicates in a row. -/
def conjunctsOfItems (predicates : List Json) : TreeResult (List Json) :=
  match predicates with
  | [] => .ok []
  | first :: rest => do
    let clauses ← conjuncts first
    let others ← conjunctsOfItems rest
    .ok (clauses ++ others)
termination_by sizeOf predicates
end

end CardinalityAdvisor
