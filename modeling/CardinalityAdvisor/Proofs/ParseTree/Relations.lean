import CardinalityAdvisor.Proofs.ParseTree.Occurrence
import CardinalityAdvisor.Session.Guards

/-!
# The relations that a statement scans

A statement scans the relations that nodes of their own name, at any depth. The relation that a
statement inserts into, updates or deletes from is an attribute of the statement and no node, so
it is not among them.

## Main definitions

* `Json.Scans stmt r`, `Json.Changes stmt r`: a statement scans a relation, or changes it
* `Json.NamesRelations stmt`: all scanned relations have names
* `RelationName.Reserved own r`: a relation of the system's catalogs or of the knowledge base

## Main results

* `usesSystemRelations_spec`: the guard finds exactly the reserved relations that are scanned
-/

namespace CardinalityAdvisor

/-- A relation by the attributes that name it: a name, and maybe a schema. -/
def namedRelation (attributes : List (String × Json)) : TreeResult RelationName :=
  relationOf ⟨scanTag, attributes⟩

namespace Json

/-- A statement scans a relation: somewhere in it, a node names the relation. -/
def Scans (stmt : Json) (r : RelationName) : Prop :=
  ∃ attributes, Occurs (.object [(scanTag, .object attributes)]) stmt ∧
    namedRelation attributes = .ok r

/-- A statement changes a relation: somewhere in it, a statement that inserts, updates or deletes
has the relation as an attribute. -/
def Changes (stmt : Json) (r : RelationName) : Prop :=
  ∃ kind ∈ [StatementKind.insert, .update, .delete], ∃ attributes relation,
    Occurs (.object [(kind.tag, .object attributes)]) stmt ∧
      attributes.lookup "relation" = some (.object relation) ∧ namedRelation relation = .ok r

/-- Whether a node that scans a relation, if the fields are those of one, names the relation by a
text, and its schema by a text if it names one. -/
def ScanNamed (fields : List (String × Json)) : Prop :=
  ∀ attributes, fields = [(scanTag, .object attributes)] →
    (∃ name, attributes.lookup "relname" = some (.text name)) ∧
      ((attributes.lookup "schemaname").getD .null = .null ∨
        ∃ schema, attributes.lookup "schemaname" = some (.text schema))

/-- Whether a value is a text. -/
def isText : Json → Bool
  | .text _ => true
  | _ => false

theorem isText_iff {value : Json} : value.isText = true ↔ ∃ text, value = .text text := by
  cases value <;> simp [isText]

/-- The test for nodes that name a relation if they scan one. -/
def scanNamed : List (String × Json) → Bool
  | [(tag, .object attributes)] =>
    tag != scanTag || ((attributes.lookup "relname").any isText &&
      (attributes.lookup "schemaname").all fun schema => schema == .null || schema.isText)
  | _ => true

theorem scanNamed_iff {fields : List (String × Json)} :
    scanNamed fields = true ↔ ScanNamed fields := by
  unfold scanNamed
  split
  · rename_i tag attributes
    by_cases scans : tag = scanTag
    · have names : (attributes.lookup "relname").any isText = true ↔
          ∃ name, attributes.lookup "relname" = some (.text name) := by
        cases attributes.lookup "relname" <;> simp [isText_iff]
      have schemas : (attributes.lookup "schemaname").all
            (fun schema => schema == .null || schema.isText) = true ↔
          (attributes.lookup "schemaname").getD .null = .null ∨
            ∃ schema, attributes.lookup "schemaname" = some (.text schema) := by
        cases attributes.lookup "schemaname" <;> simp [isText_iff]
      rw [scans, bne_self_eq_false, Bool.false_or, Bool.and_eq_true, names, schemas]
      constructor
      · rintro named _ ⟨⟩
        exact named
      · exact fun named => named attributes rfl
    · refine iff_of_true (by simp [scans]) ?_
      rintro _ ⟨⟩
      exact absurd rfl scans
  · rename_i notNode
    refine iff_of_true rfl ?_
    rintro attributes rfl
    exact absurd rfl (notNode _ _)

instance : DecidablePred ScanNamed := fun _ => decidable_of_iff _ scanNamed_iff

/-- All relations that a statement scans are named. -/
def NamesRelations (stmt : Json) : Prop := Everywhere ScanNamed stmt

instance (stmt : Json) : Decidable (NamesRelations stmt) :=
  inferInstanceAs (Decidable (Everywhere ScanNamed stmt))

end Json

namespace RelationName

/-- A relation belongs to the catalogs of the system, or it has one of the names of the relations
that the knowledge base uses itself. -/
def Reserved (own : List String) (r : RelationName) : Prop :=
  r.isSystem = .ok true ∨ ∃ name ∈ own, r.name = .text name

/-- A relation with a text as name, and a text as schema if it has one. -/
def IsNamed (r : RelationName) : Prop :=
  (∃ name, r.name = .text name) ∧ (r.schema = .null ∨ ∃ schema, r.schema = .text schema)

theorem IsNamed.isSystem {r : RelationName} (h : r.IsNamed) : ∃ b, r.isSystem = .ok b := by
  obtain ⟨⟨name, named⟩, schema⟩ := h
  obtain ⟨schema', name'⟩ := r
  subst named
  unfold RelationName.isSystem
  split
  · rename_i given
    rcases schema with rfl | ⟨schema, rfl⟩
    · cases given
    · exact ⟨_, rfl⟩
  · exact ⟨_, rfl⟩

/-- Whether a relation is reserved is found out by its names. -/
theorem IsNamed.isSystemOr {r : RelationName} (h : r.IsNamed) (own : List String) :
    ∃ b, isSystemOr own r = .ok b ∧ (b = true ↔ r.Reserved own) := by
  obtain ⟨system, isSystem⟩ := h.isSystem
  obtain ⟨⟨name, named⟩, -⟩ := h
  unfold CardinalityAdvisor.isSystemOr Reserved
  rw [isSystem, named]
  cases system with
  | true => exact ⟨true, rfl, by simp⟩
  | false =>
    refine ⟨own.contains name, rfl, ?_⟩
    rw [List.contains_iff_mem]
    constructor
    · exact fun member => .inr ⟨name, member, rfl⟩
    · rintro (same | ⟨_, member, same⟩)
      · cases same
      · cases same
        exact member

end RelationName

theorem anySystemOr_spec (own : List String) {relations : List RelationName}
    (named : ∀ r ∈ relations, r.IsNamed) :
    ∃ b, anySystemOr own relations = .ok b ∧ (b = true ↔ ∃ r ∈ relations, r.Reserved own) := by
  induction relations with
  | nil => exact ⟨false, rfl, by simp⟩
  | cons r rest ih =>
    obtain ⟨here, namedRest⟩ := List.forall_mem_cons.mp named
    obtain ⟨b, found, reserved⟩ := here.isSystemOr own
    obtain ⟨later, foundLater, reservedLater⟩ := ih namedRest
    rw [anySystemOr, found]
    cases b with
    | true => exact ⟨true, rfl, by simpa using .inl (reserved.mp rfl)⟩
    | false =>
      refine ⟨later, foundLater, ?_⟩
      rw [reservedLater]
      simp only [List.mem_cons, exists_eq_or_imp, ← reserved, Bool.false_eq_true, false_or]

/-- The relations of a list of nodes, if all of them name one. -/
theorem mapM_relationOf {list : List Node} (h : ∀ node ∈ list, ∃ r, relationOf node = .ok r) :
    ∃ relations, list.mapM relationOf = .ok relations ∧
      ∀ r, r ∈ relations ↔ ∃ node ∈ list, relationOf node = .ok r := by
  induction list with
  | nil => exact ⟨[], rfl, by simp⟩
  | cons node rest ih =>
    obtain ⟨⟨r, here⟩, namedRest⟩ := List.forall_mem_cons.mp h
    obtain ⟨relations, found, members⟩ := ih namedRest
    refine ⟨r :: relations, ?_, ?_⟩
    · rw [List.mapM_cons, here, found]
      rfl
    · intro other
      simp only [List.mem_cons, members, exists_eq_or_imp, here, Except.ok.injEq, eq_comm (a := r)]

theorem capitalized_scanTag : capitalized scanTag = true := by decide +kernel

/-- The nodes that scan relations are those that occur in the statement. -/
theorem mem_scanNodes {stmt : Json} (shaped : stmt.Shaped) {node : Node} :
    node ∈ (nodes stmt).filter (·.tag == scanTag) ↔
      node.tag = scanTag ∧ Json.Occurs (.object [(scanTag, .object node.attributes)]) stmt := by
  rw [List.mem_filter, mem_nodes_iff shaped, beq_iff_eq]
  constructor
  · rintro ⟨⟨-, occurs⟩, tag⟩
    rw [tag] at occurs
    exact ⟨tag, occurs⟩
  · rintro ⟨tag, occurs⟩
    rw [tag]
    exact ⟨⟨capitalized_scanTag, occurs⟩, rfl⟩

/-- A node that scans a relation has a name for it. -/
theorem Json.NamesRelations.relation {stmt : Json} (named : stmt.NamesRelations)
    {attributes : List (String × Json)}
    (occurs : Occurs (.object [(scanTag, .object attributes)]) stmt) :
    ∃ r, namedRelation attributes = .ok r ∧ r.IsNamed := by
  obtain ⟨⟨name, relname⟩, schema⟩ := named _ occurs attributes rfl
  refine ⟨⟨(attributes.lookup "schemaname").getD .null, .text name⟩, ?_, ⟨name, rfl⟩, ?_⟩
  · rw [namedRelation, relationOf]
    simp only [relname]
  · rcases schema with missing | ⟨schema, given⟩
    · exact .inl missing
    · exact .inr ⟨schema, by rw [given, Option.getD_some]⟩

/-- **The guard against system relations** finds exactly the reserved relations that a statement
scans. -/
theorem usesSystemRelations_spec (own : List String) {stmt : Json} (shaped : stmt.Shaped)
    (named : stmt.NamesRelations) :
    ∃ b, usesSystemRelations own stmt = .ok b ∧
      (b = true ↔ ∃ r, stmt.Scans r ∧ r.Reserved own) := by
  have relation {node : Node} (member : node ∈ (nodes stmt).filter (·.tag == scanTag)) :
      ∃ r, relationOf node = .ok r ∧ r.IsNamed := by
    obtain ⟨tag, occurs⟩ := (mem_scanNodes shaped).mp member
    obtain ⟨r, found, isNamed⟩ := named.relation occurs
    rw [namedRelation, ← tag] at found
    exact ⟨r, found, isNamed⟩
  obtain ⟨relations, found, members⟩ :=
    mapM_relationOf fun node member => (relation member).imp fun _ h => h.1
  have scanned (r : RelationName) : r ∈ relations ↔ stmt.Scans r := by
    rw [members]
    constructor
    · rintro ⟨⟨tag, attributes⟩, member, names⟩
      obtain ⟨rfl, occurs⟩ := (mem_scanNodes shaped).mp member
      exact ⟨attributes, occurs, names⟩
    · rintro ⟨attributes, occurs, names⟩
      exact ⟨⟨scanTag, attributes⟩, (mem_scanNodes shaped).mpr ⟨rfl, occurs⟩, names⟩
  have allNamed : ∀ r ∈ relations, r.IsNamed := by
    intro r member
    obtain ⟨node, inside, names⟩ := (members r).mp member
    obtain ⟨other, same, isNamed⟩ := relation inside
    rw [names] at same
    cases same
    exact isNamed
  obtain ⟨b, answer, reserved⟩ := anySystemOr_spec own allNamed
  refine ⟨b, ?_, ?_⟩
  · rw [usesSystemRelations, referencedRelations, found]
    exact answer
  · rw [reserved]
    exact exists_congr fun r => by rw [scanned]

end CardinalityAdvisor
