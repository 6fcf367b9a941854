import CardinalityAdvisor.ParseTree.Basic
import CardinalityAdvisor.Text.Uppercase
import CardinalityAdvisor.Value.Condition

/-!
# The nodes of a parse tree and the relations they name

A tagged node is an object whose only field has a name with a capital letter in front and an
object as its value. The nodes of a tree are listed before the nodes inside them, and siblings in
the order of the tree. Attributes that are not nodes are passed through.

## Main definitions

* `Node`: a tagged node
* `nodes`: the tagged nodes of a tree
* `RelationName`: a relation, with its schema if one is given
* `referencedRelations`: the relations that a statement names in tagged nodes
* `RelationName.isSystem`: whether a relation belongs to the catalogs of the system
-/

namespace CardinalityAdvisor

/-- A tagged node: its type and its attributes. -/
structure Node where
  tag : String
  attributes : List (String × Json)
  deriving DecidableEq, Repr

/-- Whether a name has a capital letter in front. -/
def capitalized (name : String) : Bool := name.toList.head?.any Text.isUppercase

mutual
/-- The tagged nodes of a tree, each before the nodes inside it. -/
def nodes : Json → List Node
  | .list items => nodesOfItems items
  | .object [(tag, .object attributes)] =>
    if capitalized tag then ⟨tag, attributes⟩ :: nodesOfFields attributes
    else nodesOfFields [(tag, .object attributes)]
  | .object fields => nodesOfFields fields
  | _ => []

/-- The tagged nodes of the items of a list. -/
def nodesOfItems : List Json → List Node
  | [] => []
  | item :: rest => nodes item ++ nodesOfItems rest

/-- The tagged nodes of the values of fields. -/
def nodesOfFields : List (String × Json) → List Node
  | [] => []
  | (_, value) :: rest => nodes value ++ nodesOfFields rest
end

/-- A relation that a statement names, as it is given there: the schema may be missing, which is
null, and both should be texts. -/
structure RelationName where
  schema : Json
  name : Json
  deriving DecidableEq, Repr

namespace RelationName

/-- Whether a schema is given that is not empty. -/
def hasSchema (r : RelationName) : Bool := (Value.ofJson r.schema).holds

/-- The name of a relation behind the name of its schema. Without a schema, the name itself has to
be a text. -/
def text (r : RelationName) : TreeResult String :=
  if r.hasSchema then .ok (r.schema.display ++ "." ++ r.name.display)
  else
    match r.name with
    | .text name => .ok name
    | _ => .error .wrongKind

/-- The schemas that hold only catalogs. -/
def systemSchemas : List String := ["pg_catalog", "information_schema", "pg_toast"]

/-- Whether a value is one of some names. Lists and objects cannot be looked up. -/
def isAmong (names : List String) : Json → TreeResult Bool
  | .text name => .ok (names.contains name)
  | .list _ | .object _ => .error .wrongKind
  | _ => .ok false

/-- Whether a relation belongs to the catalogs of the system. Without a schema, the front of its
name decides. -/
def isSystem (r : RelationName) : TreeResult Bool :=
  if r.hasSchema then isAmong systemSchemas r.schema
  else
    match r.name with
    | .text name => .ok ("pg_".toList.isPrefixOf name.toList)
    | _ => .error .notText

end RelationName

/-- The relation that a node of a scanned relation names. -/
def relationOf (node : Node) : TreeResult RelationName :=
  match node.attributes.lookup "relname" with
  | some name => .ok ⟨(node.attributes.lookup "schemaname").getD .null, name⟩
  | none => .error (.missing "relname")

/-- The type of the nodes that scan a relation. -/
def scanTag : String := "RangeVar"

/-- The relations that are scanned somewhere in a statement, in the order of the tree. -/
def referencedRelations (stmt : Json) : TreeResult (List RelationName) :=
  ((nodes stmt).filter (·.tag == scanTag)).mapM relationOf

end CardinalityAdvisor
