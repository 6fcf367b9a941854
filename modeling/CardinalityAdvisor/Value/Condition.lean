import CardinalityAdvisor.Text.Pieces
import CardinalityAdvisor.Value.Members

/-!
# Values as conditions, amounts and collections

Settings, and what a host says about itself, are used as they are given. So the kind of a value is
looked at only when something is made of it: a condition, an amount that is compared with zero, or
a collection that is gone through.

## Main definitions

* `Value.holds`: whether a value counts as yes
* `Value.isNegative?`, `Value.isPositive?`: whether an amount is below or above zero
* `Value.toFloat?`: an amount as a double
* `Value.members?`: the members of a collection
* `Value.isPartOf?`: whether a collection has a member, or a text a part
-/

namespace CardinalityAdvisor.Value

/-- Whether a value counts as yes. Nothing, zero and whatever is empty count as no. -/
def holds : Value → Bool
  | .null => false
  | .bool b => b
  | .int i => i != 0
  | .float x => x != 0
  | .text s => !s.isEmpty
  | .list items => !items.isEmpty
  | .object fields => !fields.isEmpty
  | .set members => !members.isEmpty
  | .mode _ | .joinType _ | .queryClass _ | .policy _ | .sample _ | .foreign => true

/-- Whether an amount is below zero; nothing if the value is no amount. -/
def isNegative? : Value → Option Bool
  | .float x => some (x < 0)
  | other => other.asInt?.map fun i => decide (i < 0)

/-- Whether an amount is above zero; nothing if the value is no amount. -/
def isPositive? : Value → Option Bool
  | .float x => some (0 < x)
  | other => other.asInt?.map fun i => decide (0 < i)

/-- An amount as a double; nothing if the value is no amount. -/
def toFloat? : Value → Option Float
  | .float x => some x
  | other => other.asInt?.map Float.ofInt

/-- The members of a collection: the items of a list, the characters of a text, the names of the
fields of an object. Nothing if the value is no collection. -/
def members? : Value → Option (List Value)
  | .list items => some items
  | .set members => some members
  | .text s => some (s.toList.map fun c => .text (String.singleton c))
  | .object fields => some (fields.map fun (name, _) => .text name)
  | _ => none

/-- Whether a value can be looked up: values that can change, such as lists, cannot. -/
def isKey : Value → Bool
  | .list _ | .object _ | .set _ | .policy _ => false
  | _ => true

/-- Whether a list has an item, a set or an object a member, or a text a part. Nothing if the
question makes no sense for the values. -/
def isPartOf? (part : Value) : (whole : Value) → Option Bool
  | .text whole =>
    match part with
    | .text part => some (Text.occursIn part.toList whole.toList)
    | _ => none
  | .list items => some (items.any (sameMember part))
  | .set members => if part.isKey then some (members.any (sameMember part)) else none
  | .object fields =>
    if part.isKey then some (fields.any fun (name, _) => sameMember part (.text name)) else none
  | _ => none

end CardinalityAdvisor.Value
