import CardinalityAdvisor.Proofs.Fingerprint.Alike

/-!
# What the guards see of trees that are alike

Before a statement is fingerprinted, the request to explain it is taken off, its kind is found out
and the relations that it scans are looked up. None of this can tell trees apart that are alike. If
a step fails for one of the trees, it fails for the other one, maybe in other words.

## Main definitions

* `Json.fieldNames`, `Json.outline`: the names of an object's fields, and what kind of value it is
* `Json.HoldsStatement tree`: a tree is an object, and so is the statement that it asks to explain
* `finding own list`: what the search for system relations finds among some nodes

## Main results

* `Json.Alike.unwrapExplain`: both ask to explain statements that are alike, or none does
* `Json.Alike.statementKind`: objects that are alike are statements of one kind
* `Json.Alike.usesSystemRelations`: both use system relations, or none does
-/

namespace CardinalityAdvisor

/-- Two computations end alike: both succeed with values that are related, or both fail with faults
that are related. -/
inductive BothEnd {ε α β : Type} (F : ε → ε → Prop) (R : α → β → Prop) :
    Except ε α → Except ε β → Prop
  | ok {value : α} {value' : β} : R value value' → BothEnd F R (.ok value) (.ok value')
  | error {fault fault' : ε} : F fault fault' → BothEnd F R (.error fault) (.error fault')

namespace Json

variable {a b : Json}

/-! ## Fields -/

/-- The names of the fields of an object. -/
def fieldNames : Json → List String
  | .object fields => fields.map Prod.fst
  | _ => []

/-- Trees that are alike have fields with the same names. -/
theorem Alike.fieldNames (h : Alike a b) : a.fieldNames.Perm b.fieldNames := by
  induction h with
  | refl => exact .refl _
  | symm _ ih => exact ih.symm
  | trans _ _ ih ih' => exact ih.trans ih'
  | constant | constants | item => exact .refl _
  | position | field => simp [Json.fieldNames]
  | order _ perm => exact perm.map _

/-- What kind of value a tree is: a scalar is itself, and of lists and objects only whether they
are empty is told. -/
def outline : Json → Json
  | .list items => if items.isEmpty then .list [] else .list [.null]
  | .object fields => if fields.isEmpty then .object [] else .object [("", .null)]
  | other => other

theorem Alike.outline (h : Alike a b) : a.outline = b.outline := by
  induction h with
  | refl => rfl
  | symm _ ih => exact ih.symm
  | trans _ _ ih ih' => exact ih.trans ih'
  | constant => rfl
  | constants nonempty nonempty' => simp [Json.outline, nonempty, nonempty']
  | position | field | item => simp [Json.outline]
  | order _ perm => simp only [Json.outline, perm.isEmpty_eq]

/-- Whether a value is an object is part of its outline. -/
theorem object_of_outline {fields : List (String × Json)}
    (h : (object fields).outline = b.outline) : ∃ fields', b = .object fields' := by
  cases b with
  | object fields' => exact ⟨fields', rfl⟩
  | list items =>
    simp only [Json.outline] at h
    split at h <;> split at h <;> cases h
  | null | bool | int | float | text =>
    simp only [Json.outline] at h
    split at h <;> cases h

/-- **Under a name** that is neither that of a position nor that of a constant, trees that are alike
have values that are alike, or none. -/
theorem Alike.lookup (h : Alike a b) (name : String) (kept : isErased name = false)
    (other : name ≠ "A_Const") :
    (a.lookup name = none ∧ b.lookup name = none) ∨
      ∃ x y, a.lookup name = some x ∧ b.lookup name = some y ∧ Alike x y := by
  have same {a b : Json} (h : a.lookup name = b.lookup name) :
      (a.lookup name = none ∧ b.lookup name = none) ∨
        ∃ x y, a.lookup name = some x ∧ b.lookup name = some y ∧ Alike x y := by
    cases found : b.lookup name with
    | none => exact .inl ⟨h.trans found, rfl⟩
    | some value => exact .inr ⟨value, value, h.trans found, rfl, .refl value⟩
  induction h with
  | refl => exact same rfl
  | symm _ ih =>
    obtain ⟨nothing, nothing'⟩ | ⟨x, y, here, there, alike⟩ := ih
    · exact .inl ⟨nothing', nothing⟩
    · exact .inr ⟨y, x, there, here, alike.symm⟩
  | trans _ _ ih ih' =>
    obtain ⟨nothing, between⟩ | ⟨x, y, here, between, alike⟩ := ih
    · obtain ⟨-, nothing'⟩ | ⟨y, -, there, -⟩ := ih'
      · exact .inl ⟨nothing, nothing'⟩
      · rw [between] at there
        cases there
    · obtain ⟨nothing, -⟩ | ⟨y', z, between', there, alike'⟩ := ih'
      · rw [between] at nothing
        cases nothing
      · rw [between] at between'
        cases between'
        exact .inr ⟨x, z, here, there, alike.trans alike'⟩
  | constant =>
    apply same
    simp only [Json.lookup, lookup_cons_of_ne (f := ("A_Const", _)) other]
  | constants | item => exact .inl ⟨rfl, rfl⟩
  | order distinct perm => exact same (lookup_perm distinct perm name)
  | @position before after erasedName i j erased =>
    have different : name ≠ erasedName := by
      rintro rfl
      rw [kept] at erased
      cases erased
    apply same
    simp only [Json.lookup, List.lookup_append, lookup_cons_of_ne (f := (_, _)) different]
  | @field before after changed x y alike =>
    simp only [Json.lookup, List.lookup_append]
    cases before.lookup name with
    | some value => exact .inr ⟨value, value, rfl, rfl, .refl value⟩
    | none =>
      by_cases here : name = changed
      · subst here
        rw [lookup_cons_self (name, x), lookup_cons_self (name, y)]
        exact .inr ⟨x, y, rfl, rfl, alike⟩
      · rw [lookup_cons_of_ne (by exact here), lookup_cons_of_ne (by exact here)]
        exact same (a := .object after) (b := .object after) rfl

theorem field_eq (name : String) (fields : List (String × Json)) :
    (object fields).field name =
      ((object fields).lookup name).elim (.error (.missing name)) .ok := by
  simp only [field, lookup]
  cases fields.lookup name <;> rfl

theorem field_of_lookup {name : String} {tree value : Json} (h : tree.lookup name = some value) :
    tree.field name = .ok value := by
  cases tree with
  | object fields => rw [field_eq, h, Option.elim_some]
  | _ => cases h

theorem field_of_missing {name : String} {tree : Json} (h : tree.lookup name = none) :
    ∃ fault, tree.field name = .error fault := by
  cases tree with
  | object fields => exact ⟨_, by rw [field_eq, h, Option.elim_none]⟩
  | _ => exact ⟨_, rfl⟩

/-! ## Explained statements and their kinds -/

theorem mentions_eq (name : String) (fields : List (String × Json)) :
    (object fields).mentions name = .ok ((object fields).lookup name).isSome := by
  simp only [mentions, lookup, Except.ok.injEq]
  induction fields with
  | nil => rfl
  | cons f rest ih =>
    rw [List.any_cons, ih]
    by_cases here : name = f.1
    · subst here
      rw [lookup_cons_self, beq_self_eq_true, Bool.true_or, Option.isSome_some]
    · rw [lookup_cons_of_ne here, beq_eq_false_iff_ne.mpr (Ne.symm here), Bool.false_or]

/-- **Both ask to explain** statements that are alike, or none does. -/
theorem Alike.unwrapExplain {fields fields' : List (String × Json)}
    (h : Alike (.object fields) (.object fields')) :
    BothEnd (fun _ _ => True) (fun x y => Alike x.1 y.1 ∧ x.2 = y.2)
      (CardinalityAdvisor.unwrapExplain (.object fields))
      (CardinalityAdvisor.unwrapExplain (.object fields')) := by
  unfold CardinalityAdvisor.unwrapExplain
  rw [mentions_eq, mentions_eq]
  obtain ⟨bare, bare'⟩ | ⟨x, y, here, there, request⟩ :=
    h.lookup "ExplainStmt" (by decide +kernel) (by decide)
  · rw [bare, bare']
    exact .ok ⟨h, rfl⟩
  · rw [here, there, field_of_lookup here, field_of_lookup there]
    obtain ⟨missing, missing'⟩ | ⟨stmt, stmt', found, found', alike⟩ :=
      request.lookup "query" (by decide +kernel) (by decide)
    · obtain ⟨fault, failed⟩ := field_of_missing missing
      obtain ⟨fault', failed'⟩ := field_of_missing missing'
      simp only [Option.isSome_some, bind, Except.bind, if_true, failed, failed']
      exact .error trivial
    · simp only [Option.isSome_some, bind, Except.bind, if_true, field_of_lookup found,
        field_of_lookup found']
      exact .ok ⟨alike, rfl⟩

/-- Whether a value is an object. -/
def isObject : Json → Bool
  | .object _ => true
  | _ => false

/-- A tree is an object, and so is the statement that it asks to explain, if it does. Of a list in
the place of a statement, it would matter how many items it has. -/
structure HoldsStatement (tree : Json) : Prop where
  isObject : tree.isObject = true
  stmt : ∀ posed ∈ (CardinalityAdvisor.unwrapExplain tree).toOption, posed.1.isObject = true

theorem exists_fields {tree : Json} (h : tree.isObject = true) :
    ∃ fields, tree = .object fields := by
  cases tree with
  | object fields => exact ⟨fields, rfl⟩
  | _ => cases h

/-- The statements that are posed are objects that are alike. -/
theorem Alike.posed {tree tree' : Json} (alike : tree.Alike tree') (h : tree.HoldsStatement) :
    BothEnd (fun _ _ => True)
      (fun posed posed' => ∃ fields fields', posed.1 = .object fields ∧ posed'.1 = .object fields' ∧
        Alike (.object fields) (.object fields') ∧ posed.2 = posed'.2)
      (CardinalityAdvisor.unwrapExplain tree) (CardinalityAdvisor.unwrapExplain tree') := by
  obtain ⟨fields, rfl⟩ := exists_fields h.isObject
  obtain ⟨fields', rfl⟩ := object_of_outline alike.outline
  have stmt := h.stmt
  have ends := alike.unwrapExplain
  revert stmt ends
  generalize CardinalityAdvisor.unwrapExplain (.object fields) = r
  generalize CardinalityAdvisor.unwrapExplain (.object fields') = r'
  rintro stmt (⟨same, flag⟩ | -)
  · rename_i posed posed'
    obtain ⟨inner, isObject⟩ := exists_fields (stmt posed rfl)
    rw [isObject] at same
    obtain ⟨inner', isObject'⟩ := object_of_outline same.outline
    rw [isObject'] at same
    exact .ok ⟨inner, inner', isObject, isObject', same, flag⟩
  · exact .error trivial

/-- Only an object with a single field is a node. -/
theorem statementKind_several {fields : List (String × Json)} (several : fields.length ≠ 1) :
    ∃ fault, statementKind (.object fields) = .error fault := by
  refine ⟨.notANode (object fields).display, ?_⟩
  match fields with
  | [] => rfl
  | [f] => exact absurd rfl several
  | _ :: _ :: _ => rfl

/-- **Objects that are alike** are statements of one kind, or none of them is a node. -/
theorem Alike.statementKind {fields fields' : List (String × Json)}
    (h : Alike (.object fields) (.object fields')) :
    BothEnd (fun _ _ => True) Eq (CardinalityAdvisor.statementKind (.object fields))
      (CardinalityAdvisor.statementKind (.object fields')) := by
  have names : (fields.map Prod.fst).Perm (fields'.map Prod.fst) := h.fieldNames
  have length : fields.length = fields'.length := by simpa using names.length_eq
  by_cases one : fields.length = 1
  · obtain ⟨⟨tag, x⟩, rfl⟩ := List.length_eq_one_iff.mp one
    obtain ⟨⟨tag', y⟩, rfl⟩ := List.length_eq_one_iff.mp (length ▸ one)
    obtain rfl : tag = tag' := by simpa using names
    exact .ok rfl
  · obtain ⟨fault, failed⟩ := statementKind_several one
    obtain ⟨fault', failed'⟩ := statementKind_several (length ▸ one)
    rw [failed, failed']
    exact .error trivial

end Json

/-! ## What the search for system relations finds -/

/-- What the search for system relations finds among some nodes: nothing if a relation has no name.
Otherwise it can be told whether one of them is a system relation, or it cannot. -/
def finding (own : List String) (list : List Node) : Option (Option Bool) :=
  ((list.filter (·.tag == scanTag)).mapM relationOf).toOption.map fun relations =>
    (anySystemOr own relations).toOption

/-- What the search finds among some nodes and, if it goes on, among others. -/
def findingOr : Option (Option Bool) → Option (Option Bool) → Option (Option Bool)
  | some here, some later => some (here.bind fun found => if found then some true else later)
  | _, _ => none

theorem usesSystemRelations_toOption (own : List String) (stmt : Json) :
    (usesSystemRelations own stmt).toOption = (finding own (nodes stmt)).join := by
  unfold usesSystemRelations finding referencedRelations
  cases ((nodes stmt).filter (·.tag == scanTag)).mapM relationOf with
  | error fault => rfl
  | ok relations => rfl

theorem anySystemOr_append (own : List String) (rs others : List RelationName) :
    anySystemOr own (rs ++ others) = anySystemOr own rs >>= fun found =>
      if found then .ok true else anySystemOr own others := by
  induction rs with
  | nil => rfl
  | cons r rest ih =>
    rw [List.cons_append, anySystemOr, anySystemOr, ih]
    cases isSystemOr own r with
    | error fault => rfl
    | ok found => cases found <;> rfl

/-- The search goes through a list of nodes from the front. -/
theorem finding_append (own : List String) (list others : List Node) :
    finding own (list ++ others) = findingOr (finding own list) (finding own others) := by
  unfold finding
  rw [List.filter_append, List.mapM_append]
  cases (list.filter (·.tag == scanTag)).mapM relationOf with
  | error fault => rfl
  | ok rs =>
    cases (others.filter (·.tag == scanTag)).mapM relationOf with
    | error fault => rfl
    | ok rs' =>
      show some (anySystemOr own (rs ++ rs')).toOption = some ((anySystemOr own rs).toOption.bind
        fun found => if found then some true else (anySystemOr own rs').toOption)
      rw [anySystemOr_append]
      cases anySystemOr own rs with
      | error fault => rfl
      | ok found => cases found <;> rfl

/-- Among nodes that scan nothing, nothing is found. -/
theorem finding_of_other (own : List String) {list : List Node}
    (h : ∀ node ∈ list, node.tag ≠ scanTag) : finding own list = some (some false) := by
  have nothing : list.filter (·.tag == scanTag) = [] := by
    rw [List.filter_eq_nil_iff]
    intro node member
    rw [beq_iff_eq]
    exact h node member
  rw [finding, nothing]
  rfl

/-- Where all relations have names, it is found out whether one of them is reserved. -/
theorem finding_of_named (own : List String) {list : List Node}
    (named : ∀ node ∈ list, node.tag = scanTag → ∃ r, relationOf node = .ok r ∧ r.IsNamed) :
    ∃ b, finding own list = some (some b) ∧ (b = true ↔
      ∃ node ∈ list, node.tag = scanTag ∧ ∃ r, relationOf node = .ok r ∧ r.Reserved own) := by
  have scans {node : Node} : node ∈ list.filter (·.tag == scanTag) ↔
      node ∈ list ∧ node.tag = scanTag := by
    rw [List.mem_filter, beq_iff_eq]
  obtain ⟨relations, found, members⟩ := mapM_relationOf fun node member => by
    obtain ⟨inside, tag⟩ := scans.mp member
    obtain ⟨r, names, -⟩ := named node inside tag
    exact ⟨r, names⟩
  have allNamed : ∀ r ∈ relations, r.IsNamed := by
    intro r member
    obtain ⟨node, inside, names⟩ := (members r).mp member
    obtain ⟨inside, tag⟩ := scans.mp inside
    obtain ⟨other, same, isNamed⟩ := named node inside tag
    rw [names] at same
    cases same
    exact isNamed
  obtain ⟨b, answer, reserved⟩ := anySystemOr_spec own allNamed
  refine ⟨b, ?_, ?_⟩
  · rw [finding, found]
    show some (anySystemOr own relations).toOption = _
    rw [answer]
    rfl
  · rw [reserved]
    constructor
    · rintro ⟨r, member, isReserved⟩
      obtain ⟨node, inside, names⟩ := (members r).mp member
      obtain ⟨inside, tag⟩ := scans.mp inside
      exact ⟨node, inside, tag, r, names, isReserved⟩
    · rintro ⟨node, inside, tag, r, names, isReserved⟩
      exact ⟨r, (members r).mpr ⟨node, scans.mpr ⟨inside, tag⟩, names⟩, isReserved⟩

/-- Where all relations have names, it does not matter in which order they are looked at. -/
theorem finding_perm (own : List String) {list list' : List Node} (perm : list.Perm list')
    (named : ∀ node ∈ list, node.tag = scanTag → ∃ r, relationOf node = .ok r ∧ r.IsNamed) :
    finding own list = finding own list' := by
  obtain ⟨b, found, reserved⟩ := finding_of_named own named
  obtain ⟨b', found', reserved'⟩ := finding_of_named own fun node member =>
    named node (perm.mem_iff.mpr member)
  have same : b = b' := by
    rw [Bool.eq_iff_iff, reserved, reserved']
    simp only [perm.mem_iff]
  rw [found, found', same]

/-! ## Trees that are alike use the same system relations -/

/-- Of the names of a relation no more is looked at than their outlines. -/
theorem isSystemOr_outline (own : List String) (r : RelationName) :
    isSystemOr own ⟨r.schema.outline, r.name.outline⟩ = isSystemOr own r := by
  obtain ⟨schema, name⟩ := r
  have holds : (Value.ofJson schema.outline).holds = (Value.ofJson schema).holds := by
    cases schema with
    | list items => cases items <;> rfl
    | object fields => cases fields <;> rfl
    | _ => rfl
  have among (names : List String) (value : Json) :
      RelationName.isAmong names value.outline = RelationName.isAmong names value := by
    cases value with
    | list items => cases items <;> rfl
    | object fields => cases fields <;> rfl
    | _ => rfl
  have unqualified : RelationName.isSystem ⟨.null, name.outline⟩ =
      RelationName.isSystem ⟨.null, name⟩ := by
    cases name with
    | list items => cases items <;> rfl
    | object fields => cases fields <;> rfl
    | _ => rfl
  have system : RelationName.isSystem ⟨schema.outline, name.outline⟩ =
      RelationName.isSystem ⟨schema, name⟩ := by
    unfold RelationName.isSystem RelationName.hasSchema at unqualified ⊢
    rw [holds, among]
    cases (Value.ofJson schema).holds with
    | true => rfl
    | false => exact unqualified
  unfold isSystemOr
  rw [system, among]

/-- Of a node that scans a relation, the outlines of the names that it gives to the relation are
looked at. -/
theorem finding_scan (own : List String) (attributes : List (String × Json)) :
    finding own [⟨scanTag, attributes⟩] =
      ((attributes.lookup "relname").map Json.outline).map fun name =>
        (isSystemOr own
          ⟨((attributes.lookup "schemaname").map Json.outline).getD .null, name⟩).toOption := by
  have only : [(⟨scanTag, attributes⟩ : Node)].filter (·.tag == scanTag) =
      [⟨scanTag, attributes⟩] := rfl
  rw [finding, only, List.mapM_cons, List.mapM_nil, relationOf]
  cases attributes.lookup "relname" with
  | none => rfl
  | some name =>
    have outlines : isSystemOr own
          ⟨((attributes.lookup "schemaname").map Json.outline).getD .null, name.outline⟩ =
        isSystemOr own ⟨(attributes.lookup "schemaname").getD .null, name⟩ := by
      cases attributes.lookup "schemaname" with
      | none => exact isSystemOr_outline own ⟨.null, name⟩
      | some schema => exact isSystemOr_outline own ⟨schema, name⟩
    rw [Option.map_some, Option.map_some, outlines]
    show some (anySystemOr own [⟨(attributes.lookup "schemaname").getD .null, name⟩]).toOption = _
    rw [anySystemOr, anySystemOr]
    cases isSystemOr own ⟨(attributes.lookup "schemaname").getD .null, name⟩ with
    | error fault => rfl
    | ok found => cases found <;> rfl

namespace Json

/-- The nodes in the fields of an object. -/
def nodesInside : Json → List Node
  | .object fields => nodesOfFields fields
  | _ => []

/-- No node of a tree that scans nothing scans a relation. -/
theorem ScansNothing.nodes {tree : Json} (h : tree.ScansNothing) {node : Node}
    (member : node ∈ CardinalityAdvisor.nodes tree) : node.tag ≠ scanTag := by
  intro tag
  obtain ⟨-, occurs⟩ := occurs_of_nodes tree member
  exact h _ occurs ⟨node.attributes, by rw [tag]⟩

theorem NamesRelations.nodes {tree : Json} (h : tree.NamesRelations) {node : Node}
    (member : node ∈ CardinalityAdvisor.nodes tree) (tag : node.tag = scanTag) :
    ∃ r, relationOf node = .ok r ∧ r.IsNamed := by
  obtain ⟨-, occurs⟩ := occurs_of_nodes tree member
  obtain ⟨r, names, isNamed⟩ := h.relation (tag ▸ occurs)
  rw [namedRelation, ← tag] at names
  exact ⟨r, names, isNamed⟩

theorem ScansNothing.nodesInside {tree : Json} (h : tree.ScansNothing) {node : Node}
    (member : node ∈ tree.nodesInside) : node.tag ≠ scanTag := by
  cases tree with
  | object fields =>
    rw [Json.nodesInside, nodesOfFields_eq] at member
    obtain ⟨field, inside, member⟩ := List.mem_flatMap.mp member
    exact ScansNothing.nodes (h.field inside) member
  | _ => cases member

theorem Alike.lookup_outline {a b : Json} (h : Alike a b) (name : String)
    (kept : isErased name = false) (other : name ≠ "A_Const") :
    (a.lookup name).map Json.outline = (b.lookup name).map Json.outline := by
  obtain ⟨nothing, nothing'⟩ | ⟨x, y, here, there, alike⟩ := h.lookup name kept other
  · rw [nothing, nothing']
  · rw [here, there, Option.map_some, Option.map_some, alike.outline]

/-- Nodes with one tag and attributes that are alike are found out about alike. -/
theorem Alike.finding_node {attributes attributes' : List (String × Json)}
    (h : Alike (.object attributes) (.object attributes')) (own : List String) (tag : String) :
    finding own [⟨tag, attributes⟩] = finding own [⟨tag, attributes'⟩] := by
  by_cases scans : tag = scanTag
  · have name := h.lookup_outline "relname" (by decide +kernel) (by decide)
    have schema := h.lookup_outline "schemaname" (by decide +kernel) (by decide)
    simp only [Json.lookup] at name schema
    rw [scans, finding_scan, finding_scan, name, schema]
  · rw [finding_of_other own (List.forall_mem_singleton.mpr scans),
      finding_of_other own (List.forall_mem_singleton.mpr scans)]

/-- Two trees in which the same is found, as nodes and as attributes of nodes. -/
structure SameFinding (own : List String) (a b : Json) : Prop where
  nodes : finding own (nodes a) = finding own (nodes b)
  inside : finding own a.nodesInside = finding own b.nodesInside

/-- Where nothing is scanned, nothing is found. -/
theorem SameFinding.of_nothing (own : List String) {a b : Json} (h : a.ScansNothing)
    (h' : b.ScansNothing) : SameFinding own a b where
  nodes := by
    rw [finding_of_other own fun _ member => h.nodes member,
      finding_of_other own fun _ member => h'.nodes member]
  inside := by
    rw [finding_of_other own fun _ member => h.nodesInside member,
      finding_of_other own fun _ member => h'.nodesInside member]

theorem finding_fields (own : List String) (before after : List (String × Json)) (name : String)
    (x : Json) : finding own (nodesOfFields (before ++ (name, x) :: after)) =
      findingOr (finding own (nodesOfFields before))
        (findingOr (finding own (nodes x)) (finding own (nodesOfFields after))) := by
  simp only [nodesOfFields_eq, List.flatMap_append, List.flatMap_cons, finding_append]

/-- What the same is found in may stand in the place of the other under any name. An object in
such a place may be the attributes of a node. -/
theorem SameFinding.replaced {own : List String} {x y : Json} (h : SameFinding own x y)
    (node : (∀ fields, x ≠ .object fields) ∧ (∀ fields, y ≠ .object fields) ∨ Alike x y)
    (before after : List (String × Json)) (name : String) :
    SameFinding own (.object (before ++ (name, x) :: after))
      (.object (before ++ (name, y) :: after)) := by
  have inside : finding own (nodesOfFields (before ++ (name, x) :: after)) =
      finding own (nodesOfFields (before ++ (name, y) :: after)) := by
    rw [finding_fields, finding_fields, h.nodes]
  refine ⟨?_, inside⟩
  obtain ⟨rfl, rfl⟩ | several := alone_or_several before after
  · simp only [List.nil_append] at inside ⊢
    by_cases tagged : capitalized name = true ∧ ∃ attributes, x = .object attributes
    · obtain ⟨capital, attributes, rfl⟩ := tagged
      obtain ⟨noObject, -⟩ | alike := node
      · exact absurd rfl (noObject attributes)
      · obtain ⟨attributes', rfl⟩ := object_of_outline alike.outline
        rw [nodes_tagged capital, nodes_tagged capital, ← List.singleton_append,
          ← List.singleton_append (l := nodesOfFields attributes'), finding_append, finding_append,
          alike.finding_node own name]
        exact congrArg _ h.inside
    · have tagged' : ¬(capitalized name = true ∧ ∃ attributes, y = .object attributes) := by
        rintro ⟨capital, attributes, rfl⟩
        obtain ⟨-, noObject⟩ | alike := node
        · exact noObject attributes rfl
        · exact tagged ⟨capital, object_of_outline alike.symm.outline⟩
      rw [nodes_untagged, nodes_untagged, inside]
      · rintro _ attributes ⟨⟩
        rw [← Bool.not_eq_true]
        exact fun capital => tagged' ⟨capital, attributes, rfl⟩
      · rintro _ attributes ⟨⟩
        rw [← Bool.not_eq_true]
        exact fun capital => tagged ⟨capital, attributes, rfl⟩
  · rw [nodes_several (several _), nodes_several (several _), inside]

theorem SameFinding.of_perm (own : List String) {fs gs : List (String × Json)}
    (perm : fs.Perm gs) (named : NamesRelations (.object fs)) :
    SameFinding own (.object fs) (.object gs) := by
  obtain rfl | ⟨several, several'⟩ := eq_or_several perm
  · exact ⟨rfl, rfl⟩
  · have inside : finding own (nodesOfFields fs) = finding own (nodesOfFields gs) := by
      apply finding_perm
      · rw [nodesOfFields_eq, nodesOfFields_eq]
        exact perm.flatMap_right _
      · rw [← nodes_several several]
        exact fun _ member => named.nodes member
    refine ⟨?_, inside⟩
    rw [nodes_several several, nodes_several several', inside]

theorem Alike.sameFinding {a b : Json} (own : List String) (h : Alike a b) :
    SameFinding own a b := by
  induction h with
  | refl => exact ⟨rfl, rfl⟩
  | symm _ ih => exact ⟨ih.nodes.symm, ih.inside.symm⟩
  | trans _ _ ih ih' => exact ⟨ih.nodes.trans ih'.nodes, ih.inside.trans ih'.inside⟩
  | constant scansNothing scansNothing' => exact .of_nothing own scansNothing scansNothing'
  | constants _ _ constant constant' =>
    exact .of_nothing own (everywhere_list.mpr fun x member => (constant x member).2)
      (everywhere_list.mpr fun x member => (constant' x member).2)
  | position =>
    apply SameFinding.replaced
    · exact ⟨rfl, rfl⟩
    · exact .inl ⟨by simp, by simp⟩
  | order _ perm named => exact .of_perm own perm named
  | item _ ih =>
    refine ⟨?_, rfl⟩
    simp only [CardinalityAdvisor.nodes, nodesOfItems_eq, List.flatMap_append, List.flatMap_cons,
      finding_append, ih.nodes]
  | field alike ih => exact ih.replaced (.inr alike) _ _ _

/-- **Trees that are alike use the same system relations**, or none of them can be searched. -/
theorem Alike.usesSystemRelations {a b : Json} (own : List String) (h : Alike a b) :
    BothEnd (fun _ _ => True) Eq (CardinalityAdvisor.usesSystemRelations own a)
      (CardinalityAdvisor.usesSystemRelations own b) := by
  have same : (CardinalityAdvisor.usesSystemRelations own a).toOption =
      (CardinalityAdvisor.usesSystemRelations own b).toOption := by
    rw [usesSystemRelations_toOption, usesSystemRelations_toOption, (h.sameFinding own).nodes]
  revert same
  cases CardinalityAdvisor.usesSystemRelations own a with
  | ok used =>
    cases CardinalityAdvisor.usesSystemRelations own b with
    | ok used' => exact fun same => .ok (Option.some.inj same)
    | error => nofun
  | error =>
    cases CardinalityAdvisor.usesSystemRelations own b with
    | ok used' => nofun
    | error => exact fun _ => .error trivial

end Json

end CardinalityAdvisor
