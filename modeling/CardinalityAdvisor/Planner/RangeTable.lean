import CardinalityAdvisor.Fault
import CardinalityAdvisor.Sorting

/-!
# Range tables

## Main definitions

* `RangeEntry`: what a query scans at one place
* `RangeTable`: the entries of a query with their indexes
* `RangeTable.fetch`: the entry at an index
* `RangeTable.catalogIds`: the catalog ids of the plain relations at some indexes
-/

namespace CardinalityAdvisor

/-- The kinds of what a query scans. -/
inductive EntryKind where
  | relation
  | subquery
  | function
  | values
  | cte
  | join
  deriving DecidableEq, Repr

namespace EntryKind

/-- All kinds. -/
def all : List EntryKind := [.relation, .subquery, .function, .values, .cte, .join]

/-- The word for a kind. -/
def name : EntryKind → String
  | .relation => "relation"
  | .subquery => "subquery"
  | .function => "function"
  | .values => "values"
  | .cte => "cte"
  | .join => "join"

/-- The kind that a word denotes. -/
def ofName? (word : String) : Option EntryKind := all.find? fun k => k.name == word

end EntryKind

/-- What a query scans at one place. -/
structure RangeEntry where
  kind : EntryKind
  /-- The catalog id of a plain relation, zero for everything else. -/
  catalogId : Int := 0
  name : String := ""
  deriving DecidableEq, Repr

/-- The catalog id of an entry that is a plain relation. -/
def RangeEntry.plainId? (e : RangeEntry) : Option Int :=
  if e.kind = .relation ∧ e.catalogId ≠ 0 then some e.catalogId else none

/-- The entries of a query with their indexes. -/
abbrev RangeTable := List (Int × RangeEntry)

namespace RangeTable

/-- The entry at an index, which must be there. -/
def fetch (table : RangeTable) (index : Int) : Except Fault RangeEntry :=
  match table.lookup index with
  | some entry => .ok entry
  | none => .error (.noRangeTableEntry index)

/-- The catalog id of the plain relation at an index, if there is one. -/
def plainId? (table : RangeTable) (index : Int) : Option Int :=
  (table.lookup index).bind RangeEntry.plainId?

/-- The catalog ids of the plain relations at some indexes, in the order of the indexes. -/
def catalogIds (table : RangeTable) (indexes : List Int) : List Int :=
  (sortBy ascending indexes).filterMap table.plainId?

end RangeTable

end CardinalityAdvisor
