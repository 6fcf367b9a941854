import CardinalityAdvisor.Proofs.ParseTree.Relations
import Mathlib.Data.List.Forall2

/-!
# The order of a parse tree

A place in a tree is told by numbers, those of the items and fields that lead to it. Places are
ordered like words: a place comes before all places inside it, and what is inside an item or a field
comes before what is inside a later one. In this order the nodes of a tree are listed, and with them
the relations that it scans.

## Main definitions

* `TreePlace`: a place in a tree
* `InTreeOrder stands entries`: entries for all places at which something stands, in the order of
  the places
* `numbered first lists`: the entries of several parts, with the numbers of the parts in front
* `Json.NodeAt tree place node`: a tagged node stands at a place of a tree

## Main results

* `InTreeOrder.of_parts`: parts that are in order are in order behind each other
* `nodes_in_order`: the nodes of a tree, and the relations that it scans, are those that stand in
  it, in the order of their places
-/

namespace CardinalityAdvisor

/-- A place in a tree: on each level, the number of the item or field that leads to it. -/
abbrev TreePlace := List Nat

section

variable {α β : Type}

/-- Entries for all places at which something stands: one for each, in the order of the places. -/
structure InTreeOrder (stands : TreePlace → α → Prop) (entries : List (TreePlace × α)) : Prop where
  ordered : entries.Pairwise fun a b => a.1 < b.1
  mem_iff : ∀ {place : TreePlace} {x : α}, (place, x) ∈ entries ↔ stands place x

/-- The entries of several parts, with the number of its part in front of each place. -/
def numbered (first : Nat) : List (List (TreePlace × α)) → List (TreePlace × α)
  | [] => []
  | entries :: rest => entries.map (fun e => (first :: e.1, e.2)) ++ numbered (first + 1) rest

theorem map_numbered (first : Nat) (lists : List (List (TreePlace × α))) :
    (numbered first lists).map Prod.snd = lists.flatMap fun entries => entries.map Prod.snd := by
  induction lists generalizing first with
  | nil => rfl
  | cons entries rest ih =>
    rw [numbered, List.map_append, List.map_map, ih, List.flatMap_cons]
    rfl

theorem le_of_mem_numbered {first : Nat} {lists : List (List (TreePlace × α))} {e : TreePlace × α}
    (h : e ∈ numbered first lists) : ∃ i inner, first ≤ i ∧ e.1 = i :: inner := by
  induction lists generalizing first with
  | nil => cases h
  | cons entries rest ih =>
    rcases List.mem_append.mp h with here | later
    · obtain ⟨own, -, rfl⟩ := List.mem_map.mp here
      exact ⟨first, own.1, Nat.le_refl _, rfl⟩
    · obtain ⟨i, inner, above, same⟩ := ih later
      exact ⟨i, inner, by omega, same⟩

theorem pairwise_numbered (first : Nat) {lists : List (List (TreePlace × α))}
    (h : ∀ entries ∈ lists, entries.Pairwise fun a b => a.1 < b.1) :
    (numbered first lists).Pairwise fun a b => a.1 < b.1 := by
  induction lists generalizing first with
  | nil => exact .nil
  | cons entries rest ih =>
    obtain ⟨here, later⟩ := List.forall_mem_cons.mp h
    refine List.pairwise_append.mpr ⟨?_, ih _ later, ?_⟩
    · refine List.pairwise_map.mpr (here.imp fun {a b} before => ?_)
      exact List.cons_lt_cons_iff.mpr (.inr ⟨rfl, before⟩)
    · intro a inFirst b inRest
      obtain ⟨own, -, rfl⟩ := List.mem_map.mp inFirst
      obtain ⟨i, inner, above, same⟩ := le_of_mem_numbered inRest
      rw [same]
      exact List.cons_lt_cons_iff.mpr (.inl (by omega))

theorem mem_numbered {first : Nat} {parts : List β} {lists : List (List (TreePlace × α))}
    {stands : β → TreePlace → α → Prop}
    (h : List.Forall₂ (fun part entries => InTreeOrder (stands part) entries) parts lists)
    {place : TreePlace} {x : α} :
    (place, x) ∈ numbered first lists ↔
      ∃ i inner part, place = (first + i) :: inner ∧ parts[i]? = some part ∧
        stands part inner x := by
  induction h generalizing first with
  | nil => simp [numbered]
  | @cons part entries parts lists here _ ih =>
    rw [numbered, List.mem_append, ih]
    constructor
    · rintro (member | ⟨i, inner, part, rfl, found, stands⟩)
      · obtain ⟨⟨inner, _⟩, own, same⟩ := List.mem_map.mp member
        cases same
        exact ⟨0, inner, part, rfl, rfl, here.mem_iff.mp own⟩
      · exact ⟨i + 1, inner, part, by rw [Nat.add_assoc, Nat.add_comm 1], found, stands⟩
    · rintro ⟨_ | i, inner, part, rfl, found, stands⟩
      · cases found
        exact .inl (List.mem_map.mpr ⟨(inner, x), here.mem_iff.mpr stands, rfl⟩)
      · exact .inr ⟨i, inner, part, by rw [Nat.add_assoc, Nat.add_comm 1], found, stands⟩

namespace InTreeOrder

variable {stands stands' : TreePlace → α → Prop} {entries : List (TreePlace × α)}

theorem congr (h : InTreeOrder stands entries)
    (same : ∀ place x, stands place x ↔ stands' place x) : InTreeOrder stands' entries :=
  ⟨h.ordered, h.mem_iff.trans (same _ _)⟩

/-- Nothing stands anywhere. -/
theorem nil (nothing : ∀ place x, ¬stands place x) : InTreeOrder stands [] :=
  ⟨.nil, iff_of_false List.not_mem_nil (nothing _ _)⟩

/-- What stands at the root comes before all else. -/
theorem root {x : α} (root : ∀ y, stands [] y ↔ y = x)
    (h : InTreeOrder (fun place y => place ≠ [] ∧ stands place y) entries) :
    InTreeOrder stands (([], x) :: entries) := by
  refine ⟨List.pairwise_cons.mpr ⟨?_, h.ordered⟩, ?_⟩
  · rintro ⟨_ | ⟨i, inner⟩, y⟩ member
    · exact absurd rfl (h.mem_iff.mp member).1
    · exact List.nil_lt_cons _ _
  · rintro (_ | ⟨i, inner⟩) y
    · rw [List.mem_cons, h.mem_iff, root, Prod.mk.injEq]
      simp
    · rw [List.mem_cons, h.mem_iff]
      simp

/-- **Parts that are in order** are in order behind each other. -/
theorem of_parts {parts : List β} {lists : List (List (TreePlace × α))}
    (stands : β → TreePlace → α → Prop)
    (h : List.Forall₂ (fun part entries => InTreeOrder (stands part) entries) parts lists) :
    InTreeOrder (fun place x => ∃ i inner part, place = i :: inner ∧ parts[i]? = some part ∧
      stands part inner x) (numbered 0 lists) := by
  refine ⟨pairwise_numbered 0 fun entries member => ?_, ?_⟩
  · obtain ⟨i, bound, rfl⟩ := List.getElem_of_mem member
    exact (h.get (h.length_eq ▸ bound) bound).ordered
  · intro place x
    rw [mem_numbered h]
    simp only [Nat.zero_add]

/-- What is listed part by part is in order if it is in each part. -/
theorem flatMap {parts : List β} (list : β → List α) (stands : β → TreePlace → α → Prop)
    (h : ∀ part ∈ parts, ∃ entries, list part = entries.map Prod.snd ∧
      InTreeOrder (stands part) entries) :
    ∃ entries, parts.flatMap list = entries.map Prod.snd ∧
      InTreeOrder (fun place x => ∃ i inner part, place = i :: inner ∧ parts[i]? = some part ∧
        stands part inner x) entries := by
  choose! entriesOf listed inOrder using h
  refine ⟨numbered 0 (parts.map entriesOf), ?_, of_parts stands ?_⟩
  · rw [map_numbered, List.flatMap_map]
    exact List.flatMap_congr listed
  · exact List.forall₂_map_right_iff.mpr (List.forall₂_same.mpr inOrder)

/-- What is made of some of the things that stand somewhere is in the same order. -/
theorem filterMap (h : InTreeOrder stands entries) (make : α → Option β) :
    InTreeOrder (fun place y => ∃ x, stands place x ∧ make x = some y)
      (entries.filterMap fun e => (make e.2).map fun y => (e.1, y)) := by
  refine ⟨List.pairwise_filterMap.mpr (h.ordered.imp fun {a b} before => ?_), ?_⟩
  · rintro _ made _ made'
    obtain ⟨y, -, rfl⟩ := Option.map_eq_some_iff.mp made
    obtain ⟨y', -, rfl⟩ := Option.map_eq_some_iff.mp made'
    exact before
  · intro place y
    simp only [List.mem_filterMap, Option.map_eq_some_iff, Prod.mk.injEq]
    constructor
    · rintro ⟨⟨_, x⟩, member, _, made, rfl, rfl⟩
      exact ⟨x, h.mem_iff.mp member, made⟩
    · rintro ⟨x, stands, made⟩
      exact ⟨(place, x), h.mem_iff.mpr stands, y, made, rfl, rfl⟩

end InTreeOrder

end

/-! ## The nodes of a tree -/

/-- The value at a place of a tree. -/
def Json.valueAt : Json → TreePlace → Option Json
  | tree, [] => some tree
  | .list items, i :: inner => items[i]?.bind fun item => item.valueAt inner
  | .object fields, i :: inner => fields[i]?.bind fun field => field.2.valueAt inner
  | _, _ :: _ => none

/-- A tagged node stands at a place of a tree. -/
def Json.NodeAt (tree : Json) (place : TreePlace) (node : Node) : Prop :=
  capitalized node.tag = true ∧
    tree.valueAt place = some (.object [(node.tag, .object node.attributes)])

theorem Json.nodeAt_list {items : List Json} {place : TreePlace} {node : Node} :
    (Json.list items).NodeAt place node ↔ ∃ i inner item, place = i :: inner ∧
      items[i]? = some item ∧ item.NodeAt inner node := by
  cases place with
  | nil => simp [NodeAt, valueAt]
  | cons i inner =>
    simp only [NodeAt, valueAt, Option.bind_eq_some_iff, List.cons.injEq]
    constructor
    · rintro ⟨capital, item, found, stands⟩
      exact ⟨i, inner, item, ⟨rfl, rfl⟩, found, capital, stands⟩
    · rintro ⟨_, _, item, ⟨rfl, rfl⟩, found, capital, stands⟩
      exact ⟨capital, item, found, stands⟩

/-- Below the root, the nodes of an object stand in the values of its fields. -/
theorem Json.nodeAt_object {fields : List (String × Json)} {place : TreePlace} {node : Node} :
    place ≠ [] ∧ (Json.object fields).NodeAt place node ↔ ∃ i inner field, place = i :: inner ∧
      fields[i]? = some field ∧ field.2.NodeAt inner node := by
  cases place with
  | nil => simp
  | cons i inner =>
    simp only [NodeAt, valueAt, Option.bind_eq_some_iff, List.cons.injEq]
    constructor
    · rintro ⟨-, capital, field, found, stands⟩
      exact ⟨i, inner, field, ⟨rfl, rfl⟩, found, capital, stands⟩
    · rintro ⟨_, _, field, ⟨rfl, rfl⟩, found, capital, stands⟩
      exact ⟨List.cons_ne_nil _ _, capital, field, found, stands⟩

/-- No node stands in a tree without items and fields. -/
theorem Json.not_nodeAt {tree : Json} (list : ∀ items, tree ≠ .list items)
    (object : ∀ fields, tree ≠ .object fields) (place : TreePlace) (node : Node) :
    ¬tree.NodeAt place node := by
  rintro ⟨-, stands⟩
  cases place with
  | nil => exact object _ (Option.some.inj stands)
  | cons i inner =>
    unfold Json.valueAt at stands
    split at stands
    · rename_i root
      cases root
    · exact list _ rfl
    · exact object _ rfl
    · cases stands

/-- Only a node itself stands at its root. -/
theorem Json.nodeAt_root {tag : String} {attributes : List (String × Json)} {node : Node}
    (capital : capitalized tag = true) :
    (Json.object [(tag, .object attributes)]).NodeAt [] node ↔ node = ⟨tag, attributes⟩ := by
  simp only [NodeAt, valueAt, Option.some.injEq, object.injEq, List.cons.injEq, Prod.mk.injEq,
    and_true]
  constructor
  · rintro ⟨-, rfl, rfl⟩
    rfl
  · rintro rfl
    exact ⟨capital, rfl, rfl⟩

/-- The nodes of a tree are those that stand in it, in the order of their places. -/
theorem exists_nodeEntries {tree : Json} (shaped : tree.Shaped) :
    ∃ entries, nodes tree = entries.map Prod.snd ∧ InTreeOrder tree.NodeAt entries := by
  induction tree using Json.induction with
  | list items ih =>
    obtain ⟨entries, listed, inOrder⟩ := InTreeOrder.flatMap nodes Json.NodeAt
      fun item member => ih item member (shaped.item member)
    refine ⟨entries, ?_, inOrder.congr fun place node => Json.nodeAt_list.symm⟩
    rw [nodes, nodesOfItems_eq, listed]
  | object fields ih =>
    obtain ⟨entries, listed, inOrder⟩ := InTreeOrder.flatMap (fun f => nodes f.2)
      (fun f : String × Json => f.2.NodeAt)
      fun field member => ih field member (shaped.field member)
    have below := inOrder.congr fun place node => Json.nodeAt_object.symm
    rcases shaped.here with ⟨tag, attributes, rfl, capital, plain⟩ | plain
    · refine ⟨([], ⟨tag, attributes⟩) :: entries, ?_, below.root fun _ => Json.nodeAt_root capital⟩
      rw [nodes_tagged_shaped shaped.here capital, List.map_cons, ← listed, List.flatMap_singleton]
    · refine ⟨entries, ?_, below.congr fun place node => ⟨And.right, fun stands => ⟨?_, stands⟩⟩⟩
      · rw [nodes_uncapitalized plain, nodesOfFields_eq, listed]
      · rintro rfl
        obtain ⟨capital, root⟩ := stands
        cases root
        rw [plain _ List.mem_cons_self] at capital
        cases capital
  | other tree list object =>
    exact ⟨[], nodes_other list object, .nil (Json.not_nodeAt list object)⟩

/-! ## The relations that a tree scans -/

/-- A node at a place of a tree scans a relation: it has a name for it, and maybe a schema. -/
def Json.ScansAt (tree : Json) (place : TreePlace) (r : RelationName) : Prop :=
  ∃ attributes, tree.NodeAt place ⟨scanTag, attributes⟩ ∧
    attributes.lookup "relname" = some r.name ∧
      r.schema = (attributes.lookup "schemaname").getD .null

/-- The relation that a node scans, if it does and has a name for it. -/
def Node.scanned? (node : Node) : Option RelationName :=
  if node.tag = scanTag then
    (node.attributes.lookup "relname").map fun name =>
      ⟨(node.attributes.lookup "schemaname").getD .null, name⟩
  else none

theorem Json.scansAt_iff {tree : Json} {place : TreePlace} {r : RelationName} :
    tree.ScansAt place r ↔ ∃ node, tree.NodeAt place node ∧ node.scanned? = some r := by
  constructor
  · rintro ⟨attributes, stands, name, schema⟩
    refine ⟨⟨scanTag, attributes⟩, stands, ?_⟩
    rw [Node.scanned?, if_pos rfl, name, ← schema]
    rfl
  · rintro ⟨⟨tag, attributes⟩, stands, scanned⟩
    unfold Node.scanned? at scanned
    split at scanned
    · rename_i scans
      cases scans
      obtain ⟨name, found, rfl⟩ := Option.map_eq_some_iff.mp scanned
      exact ⟨attributes, stands, found, rfl⟩
    · cases scanned

/-- The relations of nodes that have names for them are found, one for each node that scans. -/
theorem mapM_relationOf_scans {list : List Node}
    (named : ∀ node ∈ list, node.tag = scanTag → (node.attributes.lookup "relname").isSome) :
    (list.filter (·.tag == scanTag)).mapM relationOf = .ok (list.filterMap Node.scanned?) := by
  induction list with
  | nil => rfl
  | cons node rest ih =>
    obtain ⟨here, later⟩ := List.forall_mem_cons.mp named
    by_cases scans : node.tag = scanTag
    · obtain ⟨name, found⟩ := Option.isSome_iff_exists.mp (here scans)
      have relation : relationOf node =
          .ok ⟨(node.attributes.lookup "schemaname").getD .null, name⟩ := by
        rw [relationOf, found]
      have scanned : node.scanned? =
          some ⟨(node.attributes.lookup "schemaname").getD .null, name⟩ := by
        rw [Node.scanned?, if_pos scans, found]
        rfl
      rw [List.filter_cons_of_pos (by simpa using scans), List.mapM_cons, relation, ih later,
        List.filterMap_cons_some scanned]
      rfl
    · have unscanned : node.scanned? = none := by rw [Node.scanned?, if_neg scans]
      rw [List.filter_cons_of_neg (by simpa using scans), ih later,
        List.filterMap_cons_none unscanned]

/-- **Nodes in the order of the tree.** The nodes of a tree are those that stand in it, one for each
place, in the order of the places. If all of them that scan a relation have a name for it, the
relations that the tree scans are found, again one for each place and in this order. -/
theorem nodes_in_order {tree : Json} (shaped : tree.Shaped) :
    (∃ entries, nodes tree = entries.map Prod.snd ∧ InTreeOrder tree.NodeAt entries) ∧
    ((∀ place attributes, tree.NodeAt place ⟨scanTag, attributes⟩ →
        ∃ name, attributes.lookup "relname" = some name) →
      ∃ entries, referencedRelations tree = .ok (entries.map Prod.snd) ∧
        InTreeOrder tree.ScansAt entries) := by
  obtain ⟨entries, listed, inOrder⟩ := exists_nodeEntries shaped
  refine ⟨⟨entries, listed, inOrder⟩, fun named => ?_⟩
  have scans : InTreeOrder tree.ScansAt _ :=
    (inOrder.filterMap Node.scanned?).congr fun _ _ => Json.scansAt_iff.symm
  refine ⟨_, ?_, scans⟩
  rw [referencedRelations, listed, mapM_relationOf_scans]
  · rw [List.map_filterMap, List.filterMap_map]
    congr 2
    funext e
    simp [Option.map_map, Function.comp_def]
  · intro node member scan
    obtain ⟨⟨place, node⟩, entry, rfl⟩ := List.mem_map.mp member
    have stands := inOrder.mem_iff.mp entry
    obtain ⟨tag, attributes⟩ := node
    cases scan
    obtain ⟨name, found⟩ := named place attributes stands
    exact Option.isSome_of_eq_some found

/-- A statement that scans `c` in a common table expression, which stands in attributes without a
tag, then `r` and `s2.s`, and `t` in a subquery of its predicate. -/
def nestedScans : Json :=
  let scan (attributes : List (String × Json)) : Json := .object [(scanTag, .object attributes)]
  let select (attributes : List (String × Json)) : Json :=
    .object [(StatementKind.select.tag, .object attributes)]
  select [
    ("withClause", .object [("ctes", .list [.object [("CommonTableExpr", .object [
      ("ctename", .text "x"),
      ("ctequery", select [("fromClause", .list [scan [("relname", .text "c")]])])])]])]),
    ("fromClause", .list [
      scan [("relname", .text "r")],
      scan [("relname", .text "s"), ("schemaname", .text "s2")]]),
    ("whereClause", .object [("SubLink", .object [
      ("subselect", select [("fromClause", .list [scan [("relname", .text "t")]])])])])]

theorem nodes_in_order_nested : nestedScans.Shaped ∧
    ∃ entries, InTreeOrder nestedScans.ScansAt entries ∧
      referencedRelations nestedScans = .ok (entries.map Prod.snd) ∧
      entries.map Prod.snd = [⟨.null, .text "c"⟩, ⟨.null, .text "r"⟩,
        ⟨.text "s2", .text "s"⟩, ⟨.null, .text "t"⟩] := by
  have shaped : nestedScans.Shaped := by decide +kernel
  obtain ⟨⟨all, listed, inOrder⟩, scans⟩ := nodes_in_order shaped
  have named : ∀ node ∈ nodes nestedScans, node.tag = scanTag →
      (node.attributes.lookup "relname").isSome := by decide +kernel
  obtain ⟨entries, found, relations⟩ := scans fun place attributes stands =>
    Option.isSome_iff_exists.mp <| named ⟨scanTag, attributes⟩
      (listed ▸ List.mem_map.mpr ⟨_, inOrder.mem_iff.mpr stands, rfl⟩) rfl
  have answer : referencedRelations nestedScans = .ok [⟨.null, .text "c"⟩, ⟨.null, .text "r"⟩,
      ⟨.text "s2", .text "s"⟩, ⟨.null, .text "t"⟩] := by decide +kernel
  refine ⟨shaped, entries, relations, found, ?_⟩
  rw [found] at answer
  exact Except.ok.inj answer

end CardinalityAdvisor
