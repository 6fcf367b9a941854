import CardinalityAdvisor.Digest.Blake2b
import CardinalityAdvisor.Fault
import CardinalityAdvisor.Fingerprint.Casts
import CardinalityAdvisor.Json.Writer
import CardinalityAdvisor.ParseTree.Source

/-!
# Fingerprints and keys

A fingerprint is the digest of a text. Texts of different kinds look different: a tree is written
as JSON, a multiset in square brackets, and every other key as a sequence in parentheses that
begins with a word for its kind.

## Main definitions

* `sequenceText`, `multisetText`: the texts that are digested
* `combine`, `multisetKey`: the digests of a sequence and of a multiset
* `combineShown`: the digest of a sequence of values
* `treeKey`: the fingerprint of a tree in canonical form
* `expressionKey`: the fingerprint of an expression or a statement
* `groupKey`, `sampleKey`: the keys of samples
* `expressionKeyOf`, `groupKeyOf`: the same, failing for trees without canonical form
* `queryKey`: the fingerprint of a query that is given as a tree or as a text
-/

namespace CardinalityAdvisor.Fingerprint

/-- The text of a sequence. -/
def sequenceText (parts : List (List Char)) : List Char :=
  '(' :: Json.commaSeparated parts ++ [')']

/-- The text of a multiset: its members in ascending order. -/
def multisetText (members : List Int) : List Char :=
  '[' :: Json.commaSeparated ((sortBy ascending members).map Json.integerText) ++ [']']

/-- The digest of a list of characters. -/
def digestOf (text : List Char) : Int := Digest.digest (String.ofList text)

/-- The digest of a sequence. -/
def combine (parts : List (List Char)) : Int := digestOf (sequenceText parts)

/-- The digest of a multiset. -/
def multisetKey (members : List Int) : Int := digestOf (multisetText members)

/-- The fingerprint of a tree in canonical form. -/
def treeKey (tree : Json) : Int := digestOf tree.compact

/-- The fingerprint of an expression or a statement without regard to equal columns. -/
def expressionKey (expr : Json) : Int := treeKey (canonical expr)

/-- The fingerprint of an expression or a statement that has a canonical form. -/
def expressionKeyOf (expr : Json) : TreeResult Int := do
  expr.checkCasts
  .ok (expressionKey expr)

/-- The fingerprint of a query. Its text is parsed only if there is no tree. -/
def queryKey (parse : String → ParseReply) (tree : Option Json) (text : Option String) :
    Except Fault Int :=
  match tree, text with
  | some tree, _ => ofTree (expressionKeyOf tree)
  | none, some text => do ofTree (expressionKeyOf (← statementOf text (parse text)))
  | none, none => .error .noQuery

/-- The text of the key of the samples for groups of an intermediate result. -/
def groupText (inputKey : Int) (exprs : List Json) : List Char :=
  sequenceText ["group".toList, Json.integerText inputKey,
    Json.integerText (multisetKey (exprs.map expressionKey))]

/-- The key of the samples for groups: the key of the input and the multiset of the grouping
expressions. -/
def groupKey (inputKey : Int) (exprs : List Json) : Int := digestOf (groupText inputKey exprs)

/-- The key of the samples for groups, if all grouping expressions have a canonical form. -/
def groupKeyOf (inputKey : Int) (exprs : List Json) : TreeResult Int := do
  exprs.forM Json.checkCasts
  .ok (groupKey inputKey exprs)

/-- The digest of a sequence of values as they are shown. A text in which half of a surrogate pair
stands alone has no bytes, so it has no digest. -/
def combineShown (values : List Json) : Except Fault Int :=
  let parts := values.map fun v => v.display
  if parts.all Text.isWhole then .ok (combine (parts.map fun part => (Text.written part).toList))
  else .error .notEncodable

/-- The text of the key of a sample. -/
def sampleText (space : Int) (relations clauses : List Int) : List Char :=
  sequenceText ["fss".toList, Json.integerText space, Json.integerText (multisetKey relations),
    Json.integerText (multisetKey clauses)]

/-- The key of the sample of an intermediate result: its feature space, the multiset of its
relations and the multiset of the fingerprints of its clauses. -/
def sampleKey (space : Int) (relations clauses : List Int) : Int :=
  digestOf (sampleText space relations clauses)

end CardinalityAdvisor.Fingerprint
