import CardinalityAdvisor.Fingerprint.Clause
import CardinalityAdvisor.Proofs.Fingerprint.Texts
import Mathlib.Data.List.Induction
import Mathlib.Logic.Relation

/-!
# Classes of columns that equalities connect

Two columns are in one class if a chain of equalities leads from one to the other. So the classes
depend only on which equalities there are, not on their order.

## Main definitions

* `Linked equalities`: a chain of equalities leads from one column to another
* `Occurs equalities`: a column is a side of an equality
* `Components equalities blocks`: the blocks are the connected components of the equalities
* `Json.Fingerprinted clause`: a clause has a fingerprint

## Main results

* `components_blocksOf`: blocks of columns are connected components
* `classOf_of_mem_iff`: the same clauses in another order give every column the same class
* `Json.Fingerprinted.clauseKey`: the clauses that have a fingerprint
-/

namespace CardinalityAdvisor.Fingerprint

variable {equalities equalities' : List (Int × Int)} {blocks : List (List Int)}
  {a b c d : Int}

/-- A chain of equalities leads from one column to another. -/
def Linked (equalities : List (Int × Int)) : Int → Int → Prop :=
  Relation.EqvGen fun a b => (a, b) ∈ equalities

/-- A column is a side of an equality. -/
def Occurs (equalities : List (Int × Int)) (column : Int) : Prop :=
  ∃ e ∈ equalities, column = e.1 ∨ column = e.2

/-! ## Chains of equalities -/

theorem Linked.refl (c : Int) : Linked equalities c c := Relation.EqvGen.refl c

theorem Linked.symm (h : Linked equalities c d) : Linked equalities d c :=
  Relation.EqvGen.symm _ _ h

theorem Linked.trans (h : Linked equalities b c) (h' : Linked equalities c d) :
    Linked equalities b d := Relation.EqvGen.trans _ _ _ h h'

theorem Linked.mono (more : equalities ⊆ equalities') (h : Linked equalities c d) :
    Linked equalities' c d := Relation.EqvGen.mono (fun _ _ found => more found) _ _ h

theorem Linked.append (h : Linked equalities c d) : Linked (equalities ++ [(a, b)]) c d :=
  h.mono (List.subset_append_left _ _)

/-- A column that is no side of an equality is linked to itself only. -/
theorem Linked.occurs (h : Linked equalities c d) :
    c = d ∨ Occurs equalities c ∧ Occurs equalities d := by
  induction h with
  | rel c d found => exact .inr ⟨⟨_, found, .inl rfl⟩, ⟨_, found, .inr rfl⟩⟩
  | refl c => exact .inl rfl
  | symm c d _ ih =>
    rcases ih with same | ⟨first, second⟩
    · exact .inl same.symm
    · exact .inr ⟨second, first⟩
  | trans b c d _ _ ih ih' =>
    rcases ih with rfl | ⟨first, middle⟩
    · exact ih'
    rcases ih' with rfl | ⟨_, last⟩
    · exact .inr ⟨first, middle⟩
    · exact .inr ⟨first, last⟩

/-- One more equality links what was linked before, and what was linked to its two sides. -/
theorem linked_append_iff : Linked (equalities ++ [(a, b)]) c d ↔
    Linked equalities c d ∨ Linked equalities c a ∧ Linked equalities b d ∨
      Linked equalities c b ∧ Linked equalities a d := by
  constructor
  · intro h
    induction h with
    | rel c d found =>
      rcases List.mem_append.mp found with found | found
      · exact .inl (.rel _ _ found)
      · cases List.mem_singleton.mp found
        exact .inr (.inl ⟨.refl _, .refl _⟩)
    | refl c => exact .inl (.refl c)
    | symm c d _ ih =>
      rcases ih with h | ⟨h, h'⟩ | ⟨h, h'⟩
      · exact .inl h.symm
      · exact .inr (.inr ⟨h'.symm, h.symm⟩)
      · exact .inr (.inl ⟨h'.symm, h.symm⟩)
    | trans c d e _ _ ih ih' =>
      rcases ih with h | ⟨h, h'⟩ | ⟨h, h'⟩
      · rcases ih' with k | ⟨k, k'⟩ | ⟨k, k'⟩
        · exact .inl (h.trans k)
        · exact .inr (.inl ⟨h.trans k, k'⟩)
        · exact .inr (.inr ⟨h.trans k, k'⟩)
      · rcases ih' with k | ⟨k, k'⟩ | ⟨k, k'⟩
        · exact .inr (.inl ⟨h, h'.trans k⟩)
        · exact .inr (.inl ⟨h, k'⟩)
        · exact .inl (h.trans k')
      · rcases ih' with k | ⟨k, k'⟩ | ⟨k, k'⟩
        · exact .inr (.inr ⟨h, h'.trans k⟩)
        · exact .inl (h.trans k')
        · exact .inr (.inr ⟨h, k'⟩)
  · have sides : Linked (equalities ++ [(a, b)]) a b := .rel _ _ (by simp)
    rintro (h | ⟨h, h'⟩ | ⟨h, h'⟩)
    · exact h.append
    · exact h.append.trans (sides.trans h'.append)
    · exact h.append.trans (sides.symm.trans h'.append)

theorem occurs_append_iff :
    Occurs (equalities ++ [(a, b)]) c ↔ Occurs equalities c ∨ c = a ∨ c = b := by
  unfold Occurs
  simp [or_and_right, exists_or]

/-! ## Blocks of columns -/

/-- The blocks are the connected components of the equalities. -/
structure Components (equalities : List (Int × Int)) (blocks : List (List Int)) : Prop where
  nodup : ∀ block ∈ blocks, block.Nodup
  disjoint : blocks.Pairwise List.Disjoint
  occurs : ∀ c, (∃ block ∈ blocks, c ∈ block) ↔ Occurs equalities c
  linked : ∀ block ∈ blocks, ∀ c ∈ block, ∀ d, d ∈ block ↔ Linked equalities c d

theorem touches_iff {block : List Int} : touches a b block = true ↔ a ∈ block ∨ b ∈ block := by
  simp [touches]

theorem components_nil : Components [] [] where
  nodup := by simp
  disjoint := .nil
  occurs c := by simp [Occurs]
  linked := by simp

/-- The block of two columns that were found equal. -/
def connected (blocks : List (List Int)) (a b : Int) : List Int :=
  ((blocks.filter (touches a b)).flatten.insert b).insert a

theorem connect_eq : connect blocks a b =
    connected blocks a b :: blocks.filter fun block => !touches a b block := rfl

theorem mem_connected_iff : d ∈ connected blocks a b ↔
    d = a ∨ d = b ∨ ∃ block ∈ blocks, (a ∈ block ∨ b ∈ block) ∧ d ∈ block := by
  simp [connected, touches_iff, and_assoc]

namespace Components

/-- All columns of the block of two columns that were found equal are linked to them. -/
theorem mem_connected (h : Components equalities blocks) :
    d ∈ connected blocks a b ↔ Linked (equalities ++ [(a, b)]) a d := by
  have sides : Linked (equalities ++ [(a, b)]) a b := .rel _ _ (by simp)
  rw [mem_connected_iff]
  constructor
  · rintro (rfl | rfl | ⟨block, inside, touched | touched, member⟩)
    · exact .refl _
    · exact sides
    · exact ((h.linked block inside a touched d).mp member).append
    · exact sides.trans ((h.linked block inside b touched d).mp member).append
  · intro linked
    have either : Linked equalities a d ∨ Linked equalities b d := by
      rcases linked_append_iff.mp linked with h | ⟨-, h⟩ | ⟨-, h⟩
      · exact .inl h
      · exact .inr h
      · exact .inl h
    rcases either with linked | linked
    · rcases linked.occurs with rfl | ⟨occurs, -⟩
      · exact .inl rfl
      obtain ⟨block, inside, touched⟩ := (h.occurs a).mpr occurs
      have member := (h.linked block inside a touched d).mpr linked
      exact .inr (.inr ⟨block, inside, .inl touched, member⟩)
    · rcases linked.occurs with rfl | ⟨occurs, -⟩
      · exact .inr (.inl rfl)
      obtain ⟨block, inside, touched⟩ := (h.occurs b).mpr occurs
      have member := (h.linked block inside b touched d).mpr linked
      exact .inr (.inr ⟨block, inside, .inr touched, member⟩)

theorem nodup_connected (h : Components equalities blocks) : (connected blocks a b).Nodup := by
  refine List.Nodup.insert (List.Nodup.insert (List.nodup_flatten.mpr ⟨?_, ?_⟩))
  · intro block member
    exact h.nodup block (List.mem_of_mem_filter member)
  · exact h.disjoint.filter _

/-- **One more equality** makes one component of those that hold its sides. -/
theorem connect (h : Components equalities blocks) :
    Components (equalities ++ [(a, b)]) (connect blocks a b) := by
  rw [connect_eq]
  have apart {block : List Int} (kept : block ∈ blocks.filter fun block => !touches a b block) :
      block ∈ blocks ∧ a ∉ block ∧ b ∉ block := by
    rw [List.mem_filter, Bool.not_eq_true', ← Bool.not_eq_true, touches_iff, not_or] at kept
    exact kept
  refine ⟨?_, ?_, ?_, ?_⟩
  · intro block member
    rcases List.mem_cons.mp member with rfl | kept
    · exact h.nodup_connected
    · exact h.nodup block (apart kept).1
  · refine List.pairwise_cons.mpr ⟨?_, h.disjoint.filter _⟩
    intro block kept c first second
    obtain ⟨inside, noA, noB⟩ := apart kept
    have linked := linked_append_iff.mp (h.mem_connected.mp first)
    have same := h.linked block inside c second
    rcases linked with linked | ⟨-, linked⟩ | ⟨-, linked⟩
    · exact noA ((same a).mpr linked.symm)
    · exact noB ((same b).mpr linked.symm)
    · exact noA ((same a).mpr linked.symm)
  · intro c
    rw [occurs_append_iff, ← h.occurs]
    simp only [List.exists_mem_cons_iff, mem_connected_iff]
    constructor
    · rintro ((rfl | rfl | ⟨block, inside, -, member⟩) | ⟨block, kept, member⟩)
      · exact .inr (.inl rfl)
      · exact .inr (.inr rfl)
      · exact .inl ⟨block, inside, member⟩
      · exact .inl ⟨block, (apart kept).1, member⟩
    · rintro (⟨block, inside, member⟩ | rfl | rfl)
      · by_cases touched : a ∈ block ∨ b ∈ block
        · exact .inl (.inr (.inr ⟨block, inside, touched, member⟩))
        · refine .inr ⟨block, List.mem_filter.mpr ⟨inside, ?_⟩, member⟩
          rw [Bool.not_eq_true', ← Bool.not_eq_true, touches_iff]
          exact touched
      · exact .inl (.inl rfl)
      · exact .inl (.inr (.inl rfl))
  · intro block member c first d
    rcases List.mem_cons.mp member with rfl | kept
    · rw [h.mem_connected]
      have linked := h.mem_connected.mp first
      exact ⟨linked.symm.trans, linked.trans⟩
    · obtain ⟨inside, noA, noB⟩ := apart kept
      have same := h.linked block inside c first
      rw [same, linked_append_iff]
      constructor
      · exact .inl
      · rintro (linked | ⟨linked, -⟩ | ⟨linked, -⟩)
        · exact linked
        · exact absurd ((same a).mpr linked) noA
        · exact absurd ((same b).mpr linked) noB

end Components

/-- **Blocks of columns** are the connected components of the equalities. -/
theorem components_blocksOf (equalities : List (Int × Int)) :
    Components equalities (blocksOf equalities) := by
  induction equalities using List.reverseRecOn with
  | nil => exact components_nil
  | append_singleton equalities e ih =>
    rw [blocksOf, List.foldl_append]
    exact ih.connect

/-! ## Classes -/

theorem classKey_of_perm {block block' : List Int} (h : block.Perm block') :
    classKey block = classKey block' := by
  rw [classKey, classKey, classText, classText, multisetKey_of_perm h]

/-- The class of a column is that of the first block that holds it. -/
theorem lookup_ofBlocks (blocks : List (List Int)) (c : Int) :
    (Equivalence.ofBlocks blocks).classes.lookup c =
      (blocks.find? (·.contains c)).map classKey := by
  have within (block : List Int) (key : Int) (rest : List (Int × Int)) :
      (block.map (fun column => (column, key)) ++ rest).lookup c =
        if c ∈ block then some key else rest.lookup c := by
    induction block with
    | nil => simp
    | cons first block ih =>
      rw [List.map_cons, List.cons_append, List.lookup_cons, ih]
      by_cases same : c = first
      · simp [same]
      · rw [beq_eq_false_iff_ne.mpr same]
        simp [same]
  induction blocks with
  | nil => rfl
  | cons block blocks ih =>
    show List.lookup c (block.map _ ++ (Equivalence.ofBlocks blocks).classes) = _
    rw [within, ih, List.find?_cons]
    by_cases member : c ∈ block
    · simp [member]
    · simp [member]

/-- Components of the same links that share a column have the same columns. -/
theorem Components.perm {blocks' : List (List Int)} {block block' : List Int}
    (h : Components equalities blocks) (h' : Components equalities' blocks')
    (linked : ∀ c d, Linked equalities c d ↔ Linked equalities' c d) (inside : block ∈ blocks)
    (inside' : block' ∈ blocks') (member : c ∈ block) (member' : c ∈ block') :
    block.Perm block' := by
  apply (List.perm_ext_iff_of_nodup (h.nodup block inside) (h'.nodup block' inside')).mpr
  intro d
  rw [h.linked block inside c member, h'.linked block' inside' c member']
  exact linked c d

/-- A column has the key of the component that holds it. -/
theorem Components.lookup_eq_some_iff (h : Components equalities blocks) {key : Int} :
    (Equivalence.ofBlocks blocks).classes.lookup c = some key ↔
      ∃ block ∈ blocks, c ∈ block ∧ classKey block = key := by
  rw [lookup_ofBlocks, Option.map_eq_some_iff]
  constructor
  · rintro ⟨block, found, same⟩
    exact ⟨block, List.mem_of_find?_eq_some found, by simpa using List.find?_some found, same⟩
  · rintro ⟨block, inside, member, rfl⟩
    cases found : blocks.find? (·.contains c) with
    | none => exact absurd (by simpa using member) (List.find?_eq_none.mp found block inside)
    | some first =>
      have member' : c ∈ first := by simpa using List.find?_some found
      have inside' := List.mem_of_find?_eq_some found
      exact ⟨first, rfl,
        classKey_of_perm (h.perm h (fun _ _ => .rfl) inside' inside member' member)⟩

/-- **The class of a column** depends only on which columns are linked. -/
theorem lookup_congr (linked : ∀ c d, Linked equalities c d ↔ Linked equalities' c d)
    (occurs : ∀ c, Occurs equalities c ↔ Occurs equalities' c) (c : Int) :
    (Equivalence.ofBlocks (blocksOf equalities)).classes.lookup c =
      (Equivalence.ofBlocks (blocksOf equalities')).classes.lookup c := by
  have left := components_blocksOf equalities
  have right := components_blocksOf equalities'
  apply Option.ext
  intro key
  show _ = some key ↔ _ = some key
  rw [left.lookup_eq_some_iff, right.lookup_eq_some_iff]
  constructor
  · rintro ⟨block, inside, member, rfl⟩
    obtain ⟨block', inside', member'⟩ :=
      (right.occurs c).mpr ((occurs c).mp ((left.occurs c).mp ⟨block, inside, member⟩))
    have same := right.perm left (fun c d => (linked c d).symm) inside' inside member' member
    exact ⟨block', inside', member', classKey_of_perm same⟩
  · rintro ⟨block, inside, member, rfl⟩
    obtain ⟨block', inside', member'⟩ :=
      (left.occurs c).mpr ((occurs c).mpr ((right.occurs c).mp ⟨block, inside, member⟩))
    have same := left.perm right linked inside' inside member' member
    exact ⟨block', inside', member', classKey_of_perm same⟩

/-- The same equalities give every column the same class, however often and in whatever order they
come. -/
theorem lookup_of_mem_iff (same : ∀ e, e ∈ equalities ↔ e ∈ equalities') (c : Int) :
    (Equivalence.ofBlocks (blocksOf equalities)).classes.lookup c =
      (Equivalence.ofBlocks (blocksOf equalities')).classes.lookup c := by
  refine lookup_congr (fun c d => ?_) (fun c => ?_) c
  · exact ⟨.mono fun e => (same e).mp, .mono fun e => (same e).mpr⟩
  · simp only [Occurs, same]

/-! ## Classes among clauses -/

/-- The equalities of some clauses are found if those of each of them are. -/
theorem exists_equalities {clauses : List Json}
    (h : ∀ clause ∈ clauses, ∃ own, Equivalence.equalityOf clause = .ok own) :
    ∃ found, Equivalence.equalities clauses = .ok found := by
  induction clauses with
  | nil => exact ⟨[], rfl⟩
  | cons clause rest ih =>
    obtain ⟨⟨own, first⟩, later⟩ := List.forall_mem_cons.mp h
    obtain ⟨others, rest⟩ := ih later
    refine ⟨own.toList ++ others, ?_⟩
    rw [Equivalence.equalities, first, rest]
    rfl

/-- The equalities of some clauses are those of each of them. -/
theorem mem_equalities {clauses : List Json} {found : List (Int × Int)}
    (h : Equivalence.equalities clauses = .ok found) (e : Int × Int) :
    e ∈ found ↔ ∃ clause ∈ clauses, Equivalence.equalityOf clause = .ok (some e) := by
  induction clauses generalizing found with
  | nil =>
    cases h
    simp
  | cons clause rest ih =>
    rw [Equivalence.equalities] at h
    cases first : Equivalence.equalityOf clause with
    | error fault =>
      rw [first] at h
      cases h
    | ok own =>
      cases others : Equivalence.equalities rest with
      | error fault =>
        rw [first, others] at h
        cases h
      | ok later =>
        rw [first, others] at h
        cases h
        rw [List.mem_append, ih others, List.exists_mem_cons_iff, first]
        simp [Option.mem_toList]

/-- The same clauses give every column the same class, however often and in whatever order they
come. -/
theorem classOf_of_mem_iff {clauses clauses' : List Json} {e e' : Equivalence}
    (h : Equivalence.ofClauses clauses = .ok e) (h' : Equivalence.ofClauses clauses' = .ok e')
    (same : ∀ clause, clause ∈ clauses ↔ clause ∈ clauses') : e.classOf = e'.classOf := by
  rw [Equivalence.ofClauses] at h h'
  cases found : Equivalence.equalities clauses with
  | error fault =>
    rw [found] at h
    cases h
  | ok own =>
    cases found' : Equivalence.equalities clauses' with
    | error fault =>
      rw [found'] at h'
      cases h'
    | ok own' =>
      rw [found] at h
      rw [found'] at h'
      cases h
      cases h'
      funext column
      apply lookup_of_mem_iff
      intro pair
      rw [mem_equalities found, mem_equalities found']
      simp only [same]

/-- The fingerprint of a clause depends on the clauses around it only by the classes they give. -/
theorem clauseKey_congr {e e' : Equivalence} (same : e.classOf = e'.classOf) (join : JoinType)
    (clause : Json) : clauseKey e join clause = clauseKey e' join clause := by
  have replaced : e.replacement = e'.replacement := by
    funext column
    rw [Equivalence.replacement, Equivalence.replacement, same]
  have common : commonClass e = commonClass e' := by
    funext arguments
    unfold commonClass
    rw [same]
  rw [clauseKey, clauseKey, replaced, common]

end CardinalityAdvisor.Fingerprint

namespace CardinalityAdvisor

/-! ## Clauses with fingerprints -/

/-- A clause has a fingerprint among all clauses: it is an expression whose equality, if it is one,
is between columns, and all of its casts can be looked through. -/
structure Json.Fingerprinted (clause : Json) : Prop where
  columns : ∃ found, Fingerprint.Equivalence.equalityOf clause = .ok found
  readable : clause.isReadable = true

theorem Json.Fingerprinted.arguments {clause : Json} (h : clause.Fingerprinted) :
    ∃ arguments, equalityArguments clause = .ok arguments ∧
      Fingerprint.checkColumns arguments = .ok () := by
  obtain ⟨found, columns⟩ := h.columns
  unfold Fingerprint.Equivalence.equalityOf at columns
  cases arguments : equalityArguments clause with
  | error fault =>
    rw [arguments] at columns
    cases columns
  | ok both =>
    refine ⟨both, rfl, ?_⟩
    rw [arguments] at columns
    match both with
    | none => rfl
    | some (left, right) =>
      simp only [bind, Except.bind, Fingerprint.expressionKeyOf] at columns
      cases leftChecked : left.checkCasts with
      | error fault => simp [leftChecked] at columns
      | ok _ =>
        cases rightChecked : right.checkCasts with
        | error fault => simp [leftChecked, rightChecked] at columns
        | ok _ => simp [Fingerprint.checkColumns, bind, Except.bind, leftChecked, rightChecked]

theorem Json.Fingerprinted.clauseKey {clause : Json} (h : clause.Fingerprinted)
    (e : Fingerprint.Equivalence) (join : JoinType) :
    ∃ key, Fingerprint.clauseKey e join clause = .ok key := by
  obtain ⟨arguments, same, checked⟩ := h.arguments
  have canonical : canonicalFormWith e.replacement clause =
      .ok (canonicalWith e.replacement clause) := by
    rw [canonicalFormWith, Json.checkCasts, if_pos h.readable]
    rfl
  simp only [Fingerprint.clauseKey, same, checked, canonical, bind, Except.bind]
  split
  · exact ⟨_, rfl⟩
  · exact ⟨_, rfl⟩

theorem exists_ofClauses {clauses : List Json} (h : ∀ clause ∈ clauses, clause.Fingerprinted) :
    ∃ e, Fingerprint.Equivalence.ofClauses clauses = .ok e := by
  obtain ⟨found, same⟩ :=
    Fingerprint.exists_equalities fun clause member => (h clause member).columns
  refine ⟨.ofBlocks (Fingerprint.blocksOf found), ?_⟩
  rw [Fingerprint.Equivalence.ofClauses, same]
  rfl

end CardinalityAdvisor
