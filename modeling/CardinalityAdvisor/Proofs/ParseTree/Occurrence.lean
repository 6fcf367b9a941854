import CardinalityAdvisor.ParseTree.Walk

/-!
# Occurrences in a parse tree

## Main definitions

* `Json.Occurs x tree`: a value occurs somewhere in a tree
* `Json.Everywhere P tree`: all objects of a tree have a property
* `Json.Shaped tree`: names with a capital letter in front stand only where nodes are tagged

## Main results

* `Json.induction`: induction over a tree along the items of its lists and the values of its fields
* `mem_nodes_iff`: the nodes of a tree are those that occur in it
-/

namespace CardinalityAdvisor

namespace Json

/-- Induction over a tree: a property of all items of a list goes over to the list, and one of the
values of all fields to the object. -/
@[elab_as_elim]
theorem induction {motive : Json → Prop}
    (list : ∀ items, (∀ item ∈ items, motive item) → motive (.list items))
    (object : ∀ fields, (∀ field ∈ fields, motive field.2) → motive (.object fields))
    (other : ∀ tree, (∀ items, tree ≠ .list items) → (∀ fields, tree ≠ .object fields) →
      motive tree) (tree : Json) : motive tree := by
  refine @Json.rec motive (fun items => ∀ item ∈ items, motive item)
    (fun fields => ∀ field ∈ fields, motive field.2) (fun field => motive field.2)
    ?_ ?_ ?_ ?_ ?_ list object ?_ ?_ ?_ ?_ ?_ tree
  · exact other _ (by simp) (by simp)
  · exact fun _ => other _ (by simp) (by simp)
  · exact fun _ => other _ (by simp) (by simp)
  · exact fun _ => other _ (by simp) (by simp)
  · exact fun _ => other _ (by simp) (by simp)
  · simp
  · exact fun head rest h hs => List.forall_mem_cons.mpr ⟨h, hs⟩
  · simp
  · exact fun head rest h hs => List.forall_mem_cons.mpr ⟨h, hs⟩
  · exact fun name value h => h

/-- A tree is a list, an object or neither. -/
theorem shape (tree : Json) : (∃ items, tree = .list items) ∨ (∃ fields, tree = .object fields) ∨
    (∀ items, tree ≠ .list items) ∧ ∀ fields, tree ≠ .object fields := by
  cases tree <;> simp

/-- A value occurs in a tree: as the tree itself, or in an item of a list or the value of a
field. -/
inductive Occurs (x : Json) : Json → Prop
  | here : Occurs x x
  | item {items : List Json} {item : Json} : item ∈ items → Occurs x item →
      Occurs x (.list items)
  | field {fields : List (String × Json)} {field : String × Json} : field ∈ fields →
      Occurs x field.2 → Occurs x (.object fields)

theorem Occurs.trans {x y tree : Json} (inner : Occurs x y) (outer : Occurs y tree) :
    Occurs x tree := by
  induction outer with
  | here => exact inner
  | item member _ ih => exact .item member ih
  | field member _ ih => exact .field member ih

/-- The fields of every object that occurs in a tree have a property. -/
def Everywhere (P : List (String × Json) → Prop) (tree : Json) : Prop :=
  ∀ fields, Occurs (.object fields) tree → P fields

namespace Everywhere

variable {P Q : List (String × Json) → Prop} {tree part : Json} {items : List Json}
  {fields : List (String × Json)}

theorem of_occurs (h : Everywhere P tree) (occurs : Occurs part tree) : Everywhere P part :=
  fun _ inner => h _ (inner.trans occurs)

theorem mono (h : Everywhere P tree) (hPQ : ∀ fields, P fields → Q fields) : Everywhere Q tree :=
  fun fields occurs => hPQ fields (h fields occurs)

theorem item (h : Everywhere P (.list items)) {x : Json} (member : x ∈ items) : Everywhere P x :=
  h.of_occurs (.item member .here)

theorem field (h : Everywhere P (.object fields)) {f : String × Json} (member : f ∈ fields) :
    Everywhere P f.2 := h.of_occurs (.field member .here)

theorem here (h : Everywhere P (.object fields)) : P fields := h fields .here

end Everywhere

theorem everywhere_list {P : List (String × Json) → Prop} {items : List Json} :
    Everywhere P (.list items) ↔ ∀ item ∈ items, Everywhere P item := by
  constructor
  · exact fun h item member => h.item member
  · rintro h fields (_ | ⟨member, occurs⟩ | _)
    exact h _ member fields occurs

theorem everywhere_object {P : List (String × Json) → Prop} {fields : List (String × Json)} :
    Everywhere P (.object fields) ↔ P fields ∧ ∀ f ∈ fields, Everywhere P f.2 := by
  constructor
  · exact fun h => ⟨h.here, fun f member => h.field member⟩
  · rintro ⟨here, inside⟩ fields (_ | _ | ⟨member, occurs⟩)
    · exact here
    · exact inside _ member fields occurs

theorem everywhere_other {P : List (String × Json) → Prop} {tree : Json}
    (list : ∀ items, tree ≠ .list items) (object : ∀ fields, tree ≠ .object fields) :
    Everywhere P tree := by
  rintro fields (_ | _ | _)
  · exact absurd rfl (object fields)
  · exact absurd rfl (list _)
  · exact absurd rfl (object _)

mutual
/-- Whether the fields of every object that occurs in a tree pass a test. -/
def everyObject (test : List (String × Json) → Bool) : Json → Bool
  | .list items => everyObjectOfItems test items
  | .object fields => test fields && everyObjectOfFields test fields
  | _ => true

/-- Whether the fields of every object that occurs in an item pass a test. -/
def everyObjectOfItems (test : List (String × Json) → Bool) : List Json → Bool
  | [] => true
  | item :: rest => everyObject test item && everyObjectOfItems test rest

/-- Whether the fields of every object that occurs in the value of a field pass a test. -/
def everyObjectOfFields (test : List (String × Json) → Bool) : List (String × Json) → Bool
  | [] => true
  | (_, value) :: rest => everyObject test value && everyObjectOfFields test rest
end

theorem everyObjectOfItems_eq (test : List (String × Json) → Bool) (items : List Json) :
    everyObjectOfItems test items = items.all (everyObject test) := by
  induction items with
  | nil => rfl
  | cons item rest ih => rw [everyObjectOfItems, ih, List.all_cons]

theorem everyObjectOfFields_eq (test : List (String × Json) → Bool)
    (fields : List (String × Json)) :
    everyObjectOfFields test fields = fields.all fun f => everyObject test f.2 := by
  induction fields with
  | nil => rfl
  | cons field rest ih => rw [everyObjectOfFields, ih, List.all_cons]

theorem everyObject_iff {test : List (String × Json) → Bool} {tree : Json} :
    everyObject test tree = true ↔ Everywhere (fun fields => test fields = true) tree := by
  induction tree using Json.induction with
  | list items ih =>
    rw [everyObject, everyObjectOfItems_eq, List.all_eq_true, everywhere_list]
    exact forall₂_congr ih
  | object fields ih =>
    rw [everyObject, everyObjectOfFields_eq, Bool.and_eq_true, List.all_eq_true, everywhere_object]
    exact and_congr_right fun _ => forall₂_congr ih
  | other tree list object =>
    refine iff_of_true ?_ (everywhere_other list object)
    unfold everyObject
    split
    · exact absurd rfl (list _)
    · exact absurd rfl (object _)
    · rfl

instance {P : List (String × Json) → Prop} [DecidablePred P] (tree : Json) :
    Decidable (Everywhere P tree) :=
  decidable_of_iff (everyObject (fun fields => decide (P fields)) tree = true) <|
    everyObject_iff.trans <| forall₂_congr fun _ _ => decide_eq_true_iff

/-- Whether the fields of an object are those of a tagged node or the attributes of one: no name
has a capital letter in front but the only one of a node, whose value is an object of attributes. -/
def TagShaped (fields : List (String × Json)) : Prop :=
  (∃ tag attributes, fields = [(tag, .object attributes)] ∧ capitalized tag = true ∧
    ∀ f ∈ attributes, capitalized f.1 = false) ∨ ∀ f ∈ fields, capitalized f.1 = false

/-- The test for objects with the fields of a tagged node or the attributes of one. -/
def tagShaped : List (String × Json) → Bool
  | [(tag, .object attributes)] =>
    !capitalized tag || attributes.all fun f => !capitalized f.1
  | fields => fields.all fun f => !capitalized f.1

theorem tagShaped_iff {fields : List (String × Json)} :
    tagShaped fields = true ↔ TagShaped fields := by
  unfold tagShaped
  split
  · rename_i tag attributes
    constructor
    · intro passes
      cases capital : capitalized tag with
      | true =>
        rw [capital, Bool.not_true, Bool.false_or, List.all_eq_true] at passes
        exact .inl ⟨tag, attributes, rfl, capital, fun f member => by simpa using passes f member⟩
      | false => exact .inr (List.forall_mem_singleton.mpr capital)
    · rintro (⟨_, _, ⟨⟩, -, plain⟩ | plain)
      · rw [Bool.or_eq_true, List.all_eq_true]
        exact .inr fun f member => by rw [plain f member, Bool.not_false]
      · rw [plain _ List.mem_cons_self, Bool.not_false, Bool.true_or]
  · rename_i notNode
    rw [List.all_eq_true]
    constructor
    · exact fun passes => .inr fun f member => by simpa using passes f member
    · rintro (⟨tag, attributes, rfl, -⟩ | plain)
      · exact absurd rfl (notNode tag attributes)
      · exact fun f member => by rw [plain f member, Bool.not_false]

instance : DecidablePred TagShaped := fun _ => decidable_of_iff _ tagShaped_iff

/-- A tree in which names with a capital letter in front stand only where nodes are tagged. -/
def Shaped (tree : Json) : Prop := Everywhere TagShaped tree

instance (tree : Json) : Decidable (Shaped tree) :=
  inferInstanceAs (Decidable (Everywhere TagShaped tree))

end Json

/-! ## The nodes of a tree -/

theorem nodesOfItems_eq (items : List Json) : nodesOfItems items = items.flatMap nodes := by
  induction items with
  | nil => rfl
  | cons item rest ih => rw [nodesOfItems, ih, List.flatMap_cons]

theorem nodesOfFields_eq (fields : List (String × Json)) :
    nodesOfFields fields = fields.flatMap fun f => nodes f.2 := by
  induction fields with
  | nil => rfl
  | cons field rest ih => rw [nodesOfFields, ih, List.flatMap_cons]

theorem nodes_tagged {tag : String} {attributes : List (String × Json)}
    (h : capitalized tag = true) :
    nodes (.object [(tag, .object attributes)]) =
      ⟨tag, attributes⟩ :: nodesOfFields attributes := by
  rw [nodes, if_pos h]

/-- The nodes of an object that is no tagged node itself are those of its values. -/
theorem nodes_untagged {fields : List (String × Json)}
    (h : ∀ tag attributes, fields = [(tag, .object attributes)] → capitalized tag = false) :
    nodes (.object fields) = nodesOfFields fields := by
  unfold nodes
  split
  · rename_i same
    cases same
  · rename_i tag attributes same
    cases same
    rw [if_neg]
    rw [h tag attributes rfl]
    exact Bool.false_ne_true
  · rename_i same
    cases same
    rfl
  · rename_i notObject
    exact absurd rfl (notObject fields)

theorem nodes_uncapitalized {fields : List (String × Json)}
    (h : ∀ f ∈ fields, capitalized f.1 = false) :
    nodes (.object fields) = nodesOfFields fields := by
  apply nodes_untagged
  rintro tag attributes rfl
  exact h _ List.mem_cons_self

theorem nodes_other {tree : Json} (list : ∀ items, tree ≠ .list items)
    (object : ∀ fields, tree ≠ .object fields) : nodes tree = [] := by
  unfold nodes
  split
  · exact absurd rfl (list _)
  · exact absurd rfl (object _)
  · exact absurd rfl (object _)
  · rfl

/-- The nodes of a tagged node are the node itself and those of its attributes, which are no
tagged node. -/
theorem nodes_tagged_shaped {tag : String} {attributes : List (String × Json)}
    (shaped : Json.TagShaped [(tag, .object attributes)]) (capital : capitalized tag = true) :
    nodes (.object [(tag, .object attributes)]) =
      ⟨tag, attributes⟩ :: nodes (.object attributes) := by
  rcases shaped with ⟨_, _, same, -, plain⟩ | plain
  · cases same
    rw [nodes_tagged capital, nodes_uncapitalized plain]
  · rw [plain _ List.mem_cons_self] at capital
    cases capital

theorem nodes_of_occurs {node : Node} {tree : Json} (capital : capitalized node.tag = true)
    (occurs : Json.Occurs (.object [(node.tag, .object node.attributes)]) tree)
    (shaped : tree.Shaped) : node ∈ nodes tree := by
  induction occurs with
  | here =>
    rw [nodes_tagged capital]
    exact List.mem_cons_self
  | item member _ ih =>
    rw [nodes, nodesOfItems_eq]
    exact List.mem_flatMap.mpr ⟨_, member, ih (shaped.item member)⟩
  | @field fields field member _ ih =>
    have inside : node ∈ nodes field.2 := ih (shaped.field member)
    rcases shaped.here with ⟨tag, attributes, rfl, tagged, -⟩ | plain
    · rw [nodes_tagged_shaped shaped.here tagged]
      rw [List.mem_singleton.mp member] at inside
      exact List.mem_cons_of_mem _ inside
    · rw [nodes_uncapitalized plain, nodesOfFields_eq]
      exact List.mem_flatMap.mpr ⟨field, member, inside⟩

theorem occurs_of_nodes {node : Node} (tree : Json) (h : node ∈ nodes tree) :
    capitalized node.tag = true ∧
      Json.Occurs (.object [(node.tag, .object node.attributes)]) tree := by
  -- The attributes of a tagged node are searched field by field, not as an object of the tree.
  suffices (node ∈ nodes tree → capitalized node.tag = true ∧
        Json.Occurs (.object [(node.tag, .object node.attributes)]) tree) ∧
      ∀ fields, tree = .object fields → node ∈ nodesOfFields fields →
        capitalized node.tag = true ∧
          Json.Occurs (.object [(node.tag, .object node.attributes)]) tree from this.1 h
  clear h
  induction tree using Json.induction with
  | list items ih =>
    refine ⟨fun h => ?_, by simp⟩
    rw [nodes, nodesOfItems_eq] at h
    obtain ⟨item, member, inside⟩ := List.mem_flatMap.mp h
    obtain ⟨capital, occurs⟩ := (ih item member).1 inside
    exact ⟨capital, .item member occurs⟩
  | object fields ih =>
    have within (h : node ∈ nodesOfFields fields) : capitalized node.tag = true ∧
        Json.Occurs (.object [(node.tag, .object node.attributes)]) (.object fields) := by
      rw [nodesOfFields_eq] at h
      obtain ⟨field, member, inside⟩ := List.mem_flatMap.mp h
      obtain ⟨capital, occurs⟩ := (ih field member).1 inside
      exact ⟨capital, .field member occurs⟩
    refine ⟨fun h => ?_, ?_⟩
    · by_cases tagged : ∃ tag attributes, fields = [(tag, .object attributes)] ∧
          capitalized tag = true
      · obtain ⟨tag, attributes, rfl, capital⟩ := tagged
        rw [nodes_tagged capital] at h
        rcases List.mem_cons.mp h with rfl | inside
        · exact ⟨capital, .here⟩
        · obtain ⟨capital', occurs⟩ := (ih _ List.mem_cons_self).2 attributes rfl inside
          exact ⟨capital', .field List.mem_cons_self occurs⟩
      · apply within
        rwa [nodes_untagged] at h
        intro tag attributes same
        rw [← Bool.not_eq_true]
        exact fun capital => tagged ⟨tag, attributes, same, capital⟩
    · rintro _ ⟨⟩ inside
      exact within inside
  | other tree list object =>
    refine ⟨fun h => ?_, fun fields same => absurd same (object fields)⟩
    rw [nodes_other list object] at h
    cases h

/-- **The nodes of a tree** are the tagged nodes that occur in it. -/
theorem mem_nodes_iff {node : Node} {tree : Json} (shaped : tree.Shaped) :
    node ∈ nodes tree ↔ capitalized node.tag = true ∧
      Json.Occurs (.object [(node.tag, .object node.attributes)]) tree :=
  ⟨occurs_of_nodes tree, fun ⟨capital, occurs⟩ => nodes_of_occurs capital occurs shaped⟩

end CardinalityAdvisor
