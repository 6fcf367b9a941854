import CardinalityAdvisor.Fault
import CardinalityAdvisor.ParseTree.Statement

/-!
# Statements given as texts

A text is parsed by the host. Its answer lists the statements in the text; exactly one is
supported. Predicates and expressions are parsed as parts of an artificial statement.

## Main definitions

* `ParseReply`: what the host's parser answers to a text
* `onlyStatement`: the statement that an answer lists
* `statementOf`: the statement in a text
* `clausesOf`, `expressionsOf`: the parts of the artificial statements
-/

namespace CardinalityAdvisor

/-- What the host's parser answers to a text. -/
inductive ParseReply where
  /-- The statements in the text. -/
  | parsed (answer : Json)
  /-- The text cannot be parsed; the location is a position in the text. -/
  | complaint (text : String) (location : Option Int)
  deriving DecidableEq, Repr

/-- The only statement of a list of statements. -/
def onlyEntry : Json → Except Fault Json
  | .list [entry] => ofTree (entry.field "stmt")
  | .list _ => .error .notSingle
  | .object fields =>
    if fields.length = 1 then .error (.tree (.missing "0")) else .error .notSingle
  | .text s => .error (if s.length = 1 then .wrongKind else .notSingle)
  | _ => .error .wrongKind

/-- The only statement of an answer. An answer that lists no statements has none. -/
def onlyStatement : Json → Except Fault Json
  | .object fields => onlyEntry ((fields.lookup "stmts").getD (.list []))
  | _ => .error (.tree .noFields)

/-- The statement in a text to which the parser gave an answer. -/
def statementOf (text : String) : ParseReply → Except Fault Json
  | .parsed answer => onlyStatement answer
  | .complaint complaint location => .error (.notParsed text complaint location)

/-- The tables of an artificial statement if none are named. -/
def defaultTables : List String := ["R"]

/-- The statement that filters tables by a predicate. -/
def filterText (tables : List String) (predicate : String) : String :=
  "SELECT * FROM " ++ ", ".intercalate tables ++ " WHERE " ++ predicate

/-- The statement that groups tables by expressions. -/
def groupText (tables : List String) (expressions : String) : String :=
  "SELECT * FROM " ++ ", ".intercalate tables ++ " GROUP BY " ++ expressions

/-- The clauses of the predicate of a statement. -/
def clausesOf (stmt : Json) : TreeResult (List Json) := do
  conjuncts ((← whereClause stmt).getD .null)

/-- The expressions by which a statement groups. -/
def expressionsOf (stmt : Json) : TreeResult (List Json) := do
  (← (← stmt.field "SelectStmt").field "groupClause").elements

end CardinalityAdvisor
