import CardinalityAdvisor.Fingerprint.Canonical
import CardinalityAdvisor.ParseTree.Basic

/-!
# Casts that can be looked through

Whether a list consists of constants is found out item by item up to the first one that is none,
looking through casts. That works as long as the attributes of every cast on the way are an object.
A tree in which they are not has no canonical form.

## Main definitions

* `Json.castsReadable`: whether a node can be looked through for a constant
* `Json.isReadable`: whether every list of a tree can be searched for constants
* `Json.checkCasts`: fails if a tree has no canonical form
* `canonicalForm`: the canonical form of a tree, if it has one
-/

namespace CardinalityAdvisor

mutual
/-- Whether a node can be looked through for a constant: the attributes of every cast on the way
are an object. -/
def Json.castsReadable : Json → Bool
  | .object [(tag, value)] => tag != "TypeCast" || value.attributesReadable
  | _ => true

/-- Whether the attributes of a cast are an object whose argument can be looked through. -/
def Json.attributesReadable : Json → Bool
  | .object fields => argumentReadable fields
  | _ => false

/-- Whether the first argument among the attributes of a cast can be looked through. -/
def argumentReadable : List (String × Json) → Bool
  | [] => true
  | (name, value) :: rest => if name == "arg" then value.castsReadable else argumentReadable rest
end

/-- Whether the items of a list can be looked through up to the first one that is no constant. -/
def itemsReadable : List Json → Bool
  | [] => true
  | item :: rest => item.castsReadable && (!item.isConstant || itemsReadable rest)

mutual
/-- Whether every list of a tree can be searched for constants. What is left out of the canonical
form is not looked at. -/
def Json.isReadable : Json → Bool
  | .list items =>
    itemsReadable items &&
      ((!items.isEmpty && items.all Json.isConstant) || allReadable items)
  | .object fields => isOnlyField "A_Const" fields || fieldsReadable fields
  | _ => true

/-- Whether all items of a list are readable. -/
def allReadable : List Json → Bool
  | [] => true
  | item :: rest => item.isReadable && allReadable rest

/-- Whether the values of all attributes that are not erased are readable. -/
def fieldsReadable : List (String × Json) → Bool
  | [] => true
  | (name, value) :: rest => (isErased name || value.isReadable) && fieldsReadable rest
end

/-- Fails if a tree has no canonical form. -/
def Json.checkCasts (tree : Json) : TreeResult Unit :=
  if tree.isReadable then .ok () else .error .noFields

/-- The canonical form of a tree, if it has one, where `replace` may put something else in the
place of a column reference. -/
def canonicalFormWith (replace : Json → Option Json) (tree : Json) : TreeResult Json := do
  tree.checkCasts
  .ok (canonicalWith replace tree)

/-- The canonical form of a tree, if it has one. -/
def canonicalForm (tree : Json) : TreeResult Json := canonicalFormWith (fun _ => none) tree

end CardinalityAdvisor
