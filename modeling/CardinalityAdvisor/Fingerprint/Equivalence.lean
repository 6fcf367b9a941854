import CardinalityAdvisor.Fingerprint.Key
import CardinalityAdvisor.ParseTree.Expression

/-!
# Columns that are equal to each other

The equalities among the clauses of an intermediate result connect columns. All columns that are
connected form a class, which has a key of its own. Columns are told apart by the fingerprints of
their references.

## Main definitions

* `connect`: blocks of connected columns after one more equality
* `Equivalence`: the classes of the columns of a list of clauses
* `Equivalence.ofClauses`: the classes that the equalities among the clauses give
* `Equivalence.classOf`: the class of a column
-/

namespace CardinalityAdvisor.Fingerprint

/-- Whether a block holds one of two columns. -/
def touches (a b : Int) (block : List Int) : Bool := block.contains a || block.contains b

/-- Blocks of connected columns after `a` and `b` were found equal: the blocks that hold one of
them become one. -/
def connect (blocks : List (List Int)) (a b : Int) : List (List Int) :=
  (((blocks.filter (touches a b)).flatten.insert b).insert a) ::
    blocks.filter fun block => !touches a b block

/-- The blocks of columns that a list of equalities connects. -/
def blocksOf (equalities : List (Int × Int)) : List (List Int) :=
  equalities.foldl (fun blocks e => connect blocks e.1 e.2) []

/-- The text of the key of a class of columns. -/
def classText (block : List Int) : List Char :=
  sequenceText ["eclass".toList, Json.integerText (multisetKey block)]

/-- The key of a class of columns. -/
def classKey (block : List Int) : Int := digestOf (classText block)

/-- Columns with the keys of their classes. -/
structure Equivalence where
  classes : List (Int × Int)
  deriving DecidableEq, Repr

namespace Equivalence

/-- No columns are known to be equal. -/
def empty : Equivalence := ⟨[]⟩

/-- The classes whose columns the blocks list. -/
def ofBlocks (blocks : List (List Int)) : Equivalence :=
  ⟨blocks.flatMap fun block => block.map fun column => (column, classKey block)⟩

/-- The fingerprints of both columns, if a clause is an equality between columns. -/
def equalityOf (clause : Json) : TreeResult (Option (Int × Int)) := do
  match ← equalityArguments clause with
  | some (left, right) => .ok (some (← expressionKeyOf left, ← expressionKeyOf right))
  | none => .ok none

/-- The fingerprints of the two columns of every equality between columns. -/
def equalities : List Json → TreeResult (List (Int × Int))
  | [] => .ok []
  | clause :: rest => do
    let found ← equalityOf clause
    let others ← equalities rest
    .ok (found.toList ++ others)

/-- The classes that the equalities among the clauses give. -/
def ofClauses (clauses : List Json) : TreeResult Equivalence :=
  (fun es => ofBlocks (blocksOf es)) <$> equalities clauses

/-- The key of the class of a column, if the column has a class. -/
def classOf (e : Equivalence) (column : Json) : Option Int :=
  e.classes.lookup (expressionKey column)

/-- The keys of all classes in ascending order. -/
def keys (e : Equivalence) : List Int :=
  (sortBy ascending (e.classes.map (·.2))).eraseDups

/-- What stands for a column that has a class. -/
def replacement (e : Equivalence) (column : Json) : Option Json :=
  (e.classOf column).map fun key => .object [("EquivalenceClass", .int key)]

/-- The number of classes in words. -/
def summary (e : Equivalence) : String :=
  "EquivalenceContext(" ++ toString e.keys.length ++ " classes)"

end Equivalence

end CardinalityAdvisor.Fingerprint
