import CardinalityAdvisor.Fingerprint.Equivalence
import CardinalityAdvisor.Planner.JoinType

/-!
# Fingerprints of clauses

Columns with a class are replaced by it, and an equality between two members of one class has the
key of the class. Clauses of other joins than inner ones filter rows in another way, so the join
type is part of their fingerprints.

## Main definitions

* `clauseKey`: the fingerprint of a clause
-/

namespace CardinalityAdvisor.Fingerprint

/-- The key of the class that both sides of an equality belong to, if there is one. -/
def commonClass (e : Equivalence) (arguments : Option (Json × Json)) : Option Int :=
  match arguments with
  | none => none
  | some (left, right) => (e.classOf left).filter fun key => e.classOf right == some key

/-- The text of a fingerprint with its join type. -/
def joinText (join : JoinType) (key : Int) : List Char :=
  sequenceText ["join".toList, join.name.toList, Json.integerText key]

/-- A fingerprint with the join type folded in, if that is not the inner join. -/
def foldJoin (join : JoinType) (key : Int) : Int :=
  if join = .inner then key else digestOf (joinText join key)

/-- Fails if one of the two columns of an equality has no canonical form. -/
def checkColumns : Option (Json × Json) → TreeResult Unit
  | some (left, right) => do
    left.checkCasts
    right.checkCasts
  | none => .ok ()

/-- The fingerprint of a clause among others that give the classes of its columns. -/
def clauseKey (e : Equivalence) (join : JoinType) (clause : Json) : TreeResult Int := do
  let arguments ← equalityArguments clause
  checkColumns arguments
  match commonClass e arguments with
  | some key => .ok (foldJoin join key)
  | none => (fun tree => foldJoin join (treeKey tree)) <$> canonicalFormWith e.replacement clause

end CardinalityAdvisor.Fingerprint
