import CardinalityAdvisor.Proofs.Fingerprint.Changes
import CardinalityAdvisor.Proofs.Fingerprint.ColumnClasses

/-!
# Fingerprints of interchangeable clauses

A clause is fingerprinted in one of two ways: an equality of two columns of one class has the key of
the class, any other clause the key of its canonical form. Changes that keep the classes of
references keep the operator of a clause and its two columns, so the way is the same.

## Main definitions

* `Json.atom`: a value that has no parts, or what kind of value it is
* `operatorText`, `starred`: what is read from the name of an operator, and from the parts of a
  reference

## Main results

* `Changed.equalityArguments`: both clauses are equalities of columns, or none is
* `Interchangeable.classOf`: interchangeable columns have the same class
* `clauseKey_of_interchangeable`: interchangeable clauses have the same fingerprint
-/

namespace CardinalityAdvisor

section BothEnd

variable {ε α β γ δ : Type} {F : ε → ε → Prop} {R : α → β → Prop} {S : γ → δ → Prop}
  {x : Except ε α} {y : Except ε β}

/-- Two computations end alike if their first steps do, and what follows them. -/
theorem BothEnd.bind {f : α → Except ε γ} {g : β → Except ε δ} (h : BothEnd F R x y)
    (next : ∀ a b, R a b → BothEnd F S (f a) (g b)) : BothEnd F S (x >>= f) (y >>= g) := by
  cases h with
  | ok related => exact next _ _ related
  | error related => exact .error related

theorem BothEnd.map {f : α → γ} {g : β → δ} (h : BothEnd F R x y)
    (next : ∀ a b, R a b → S (f a) (g b)) : BothEnd F S (f <$> x) (g <$> y) := by
  cases h with
  | ok related => exact .ok (next _ _ related)
  | error related => exact .error related

/-- A computation ends like itself. -/
theorem BothEnd.of_eq {R : α → α → Prop} {x y : Except ε α} (h : x = y) (refl : ∀ a, R a a) :
    BothEnd Eq R x y := by
  subst h
  cases x with
  | ok a => exact .ok (refl a)
  | error fault => exact .error rfl

/-- Computations end alike if they have the same results but for what a function forgets. -/
theorem BothEnd.of_map {f : α → γ} {x y : Except ε α} (h : f <$> x = f <$> y) :
    BothEnd Eq (fun a b => f a = f b) x y := by
  cases x with
  | ok a =>
    cases y with
    | ok b => exact .ok (Except.ok.inj h)
    | error fault => cases h
  | error fault =>
    cases y with
    | ok b => cases h
    | error fault' => exact .error (Except.error.inj h)

theorem BothEnd.eq {x y : Except ε α} (h : BothEnd Eq Eq x y) : x = y := by
  cases h with
  | ok same => rw [same]
  | error same => rw [same]

end BothEnd

namespace Json

/-- A value that has no parts; of lists and objects, no more than what they are. -/
def atom : Json → Json
  | .list _ => .list []
  | .object _ => .object []
  | other => other

variable {a b : Json}

/-- Values of the same kind are both lists, both objects or the same. -/
theorem cases_of_atom (h : a.atom = b.atom) :
    (∃ as bs, a = .list as ∧ b = .list bs) ∨ (∃ fs gs, a = .object fs ∧ b = .object gs) ∨
      a = b := by
  cases a <;> cases b <;> simp_all [atom]

theorem eq_text_iff (h : a.atom = b.atom) (s : String) : a = .text s ↔ b = .text s := by
  obtain ⟨as, bs, rfl, rfl⟩ | ⟨fs, gs, rfl, rfl⟩ | rfl := cases_of_atom h
  · simp
  · simp
  · rfl

theorem eq_null_iff (h : a.atom = b.atom) : a = .null ↔ b = .null := by
  obtain ⟨as, bs, rfl, rfl⟩ | ⟨fs, gs, rfl, rfl⟩ | rfl := cases_of_atom h
  · simp
  · simp
  · rfl

/-- A constant is an object whose only field has the name of a constant or of a cast. -/
theorem eq_of_isConstant (h : a.isConstant = true) :
    ∃ tag value, a = .object [(tag, value)] ∧ (tag = "A_Const" ∨ tag = "TypeCast") := by
  unfold isConstant at h
  split at h
  · rename_i tag value
    rw [Bool.or_eq_true, Bool.and_eq_true, beq_iff_eq, beq_iff_eq] at h
    exact ⟨tag, value, rfl, h.imp_right And.left⟩
  · cases h

end Json

namespace Fingerprint

variable {e : Equivalence} {keeps : Json → Json → Prop} {a b : Json}

namespace Changed

theorem atom (h : Changed e keeps a b) : a.atom = b.atom := by
  induction h with
  | refl => rfl
  | symm _ ih => exact ih.symm
  | trans _ _ ih ih' => exact ih.trans ih'
  | change change => cases change <;> rfl
  | item | field => rfl

/-- Under a name that neither a position nor a constant nor a reference has, changed trees have
changed values, or none. -/
theorem lookup (h : Changed e keeps a b) (name : String) (kept : isErased name = false)
    (other : name ≠ "A_Const" ∧ name ≠ "ColumnRef") :
    Option.Rel (Changed e keeps) (a.lookup name) (b.lookup name) := by
  have same {x y : Option Json} (h : x = y) : Option.Rel (Changed e keeps) x y := by
    subst h
    cases x with
    | none => exact .none
    | some value => exact .some (.refl value)
  -- Values may be changed only in the step for a field of this name. All other steps keep them.
  induction h with
  | refl => exact same rfl
  | symm _ ih =>
    revert ih
    generalize Json.lookup name _ = x
    generalize Json.lookup name _ = y
    rintro (changed | _)
    · exact .some changed.symm
    · exact .none
  | trans _ _ ih ih' =>
    revert ih ih'
    generalize Json.lookup name _ = x
    generalize Json.lookup name _ = y
    generalize Json.lookup name _ = z
    rintro (changed | _) (changed' | _)
    · exact .some (changed.trans changed')
    · exact .none
  | change change =>
    cases change with
    | constant =>
      apply same
      simp only [Json.lookup, Json.lookup_cons_of_ne (f := ("A_Const", _)) other.1]
    | constants => exact .none
    | positions _ _ _ unchanged => exact same (unchanged name kept)
    | column =>
      apply same
      simp only [Json.lookup, Json.lookup_cons_of_ne (f := ("ColumnRef", _)) other.2]
  | item => exact .none
  | @field before after changed x y _ here =>
    simp only [Json.lookup, List.lookup_append]
    cases before.lookup name with
    | some value => exact .some (.refl value)
    | none =>
      by_cases named : name = changed
      · subst named
        rw [Json.lookup_cons_self (name, x), Json.lookup_cons_self (name, y)]
        exact .some here
      · rw [Json.lookup_cons_of_ne (by exact named), Json.lookup_cons_of_ne (by exact named)]
        exact same rfl

/-! ## Fields and names -/

/-- Of changed trees, a field that must be there is found in both or missing in both. -/
theorem field_both (h : Changed e keeps a b) (name : String) (kept : isErased name = false)
    (other : name ≠ "A_Const" ∧ name ≠ "ColumnRef") :
    BothEnd Eq (Changed e keeps) (a.field name) (b.field name) := by
  obtain ⟨as, bs, rfl, rfl⟩ | ⟨fs, gs, rfl, rfl⟩ | rfl := Json.cases_of_atom h.atom
  · exact .error rfl
  · rw [Json.field_eq, Json.field_eq]
    have related := h.lookup name kept other
    generalize (Json.object fs).lookup name = x at related ⊢
    generalize (Json.object gs).lookup name = y at related ⊢
    cases related with
    | some changed => exact .ok changed
    | none => exact .error rfl
  · exact .of_eq rfl .refl

/-- A field that may be missing is found in both or missing in both. -/
theorem field?_both (h : Changed e keeps a b) (name : String) (kept : isErased name = false)
    (other : name ≠ "A_Const" ∧ name ≠ "ColumnRef") :
    BothEnd Eq (Option.Rel (Changed e keeps)) (a.field? name) (b.field? name) := by
  obtain ⟨as, bs, rfl, rfl⟩ | ⟨fs, gs, rfl, rfl⟩ | rfl := Json.cases_of_atom h.atom
  · exact .error rfl
  · have related := h.lookup name kept other
    simp only [Json.lookup] at related
    simp only [Json.field?]
    generalize fs.lookup name = x at related ⊢
    generalize gs.lookup name = y at related ⊢
    cases related with
    | none => exact .ok .none
    | @some x y changed =>
      by_cases null : x = .null
      · rw [null, (Json.eq_null_iff changed.atom).mp null]
        exact .ok .none
      · have null' := mt (Json.eq_null_iff changed.atom).mpr null
        simp only []
        exact .ok (.some changed)
  · refine .of_eq rfl fun found => ?_
    cases found with
    | none => exact .none
    | some value => exact .some (.refl value)

/-- Changed trees mention the same names, except for those of positions. -/
theorem mentions (h : Changed e keeps a b) (name : String) (kept : isErased name = false) :
    a.mentions name = b.mentions name := by
  induction h with
  | refl => rfl
  | symm _ ih => exact ih.symm
  | trans _ _ ih ih' => exact ih.trans ih'
  | change change =>
    cases change with
    | constant | column => rfl
    | constants _ _ constant constant' =>
      have nothing {items : List Json} (constant : ∀ x ∈ items, x.isConstant = true) :
          items.any (· == .text name) = false := by
        rw [List.any_eq_false]
        intro x member
        obtain ⟨tag, value, rfl, -⟩ := Json.eq_of_isConstant (constant x member)
        simp
      rw [Json.mentions, Json.mentions, nothing constant, nothing constant']
    | positions _ _ _ same =>
      rw [Json.mentions_eq, Json.mentions_eq, Json.lookup, Json.lookup, same name kept]
  | @item before after x y changed =>
    have here : (x == Json.text name) = (y == Json.text name) := by
      rw [Bool.eq_iff_iff, beq_iff_eq, beq_iff_eq]
      exact Json.eq_text_iff changed.atom name
    simp only [Json.mentions, List.any_append, List.any_cons, here]
  | field => simp [Json.mentions]

end Changed

/-! ## References to columns -/

/-- Whether one of the parts of a reference speaks of all columns. -/
def starred (parts : Json) : TreeResult Bool := parts.elements >>= hasStar

theorem hasStar_constants {items : List Json} (constant : ∀ x ∈ items, x.isConstant = true) :
    hasStar items = .ok false := by
  have nodes : ∀ x ∈ items, x.isObject = true := by
    intro x member
    obtain ⟨tag, value, rfl, -⟩ := Json.eq_of_isConstant (constant x member)
    rfl
  rw [Json.hasStar_eq nodes, Except.ok.injEq, List.any_eq_false]
  intro x member
  obtain ⟨tag, value, rfl, rfl | rfl⟩ := Json.eq_of_isConstant (constant x member)
  · simp [Json.lookup, List.lookup_cons]
  · simp [Json.lookup, List.lookup_cons]

/-- Among the names of the fields of an object, a part of one may speak of all columns. -/
theorem hasStar_names (fields : List (String × Json)) :
    hasStar (fields.map fun f => .text f.1) = .ok (Json.namesStar fields) := by
  induction fields with
  | nil => rfl
  | cons f rest ih =>
    rw [List.map_cons, hasStar, ih, Json.mentions]
    simp only [Json.namesStar, List.any_cons, bind, Except.bind]
    cases Text.occursIn "A_Star".toList f.1.toList <;> rfl

theorem hasStar_replaced {x y : Json} (same : x.mentions "A_Star" = y.mentions "A_Star")
    (before after : List Json) :
    hasStar (before ++ x :: after) = hasStar (before ++ y :: after) := by
  induction before with
  | nil => rw [List.nil_append, List.nil_append, hasStar, hasStar, same]
  | cons z before ih => rw [List.cons_append, List.cons_append, hasStar, hasStar, ih]

theorem Changed.starred (h : Changed e keeps a b) :
    Fingerprint.starred a = Fingerprint.starred b := by
  induction h with
  | refl => rfl
  | symm _ ih => exact ih.symm
  | trans _ _ ih ih' => exact ih.trans ih'
  | change change =>
    cases change with
    | constant | column => rfl
    | constants _ _ constant constant' =>
      exact (hasStar_constants constant).trans (hasStar_constants constant').symm
    | @positions fs gs _ _ star _ =>
      show hasStar (fs.map _) = hasStar (gs.map _)
      rw [hasStar_names, hasStar_names, star]
  | item changed =>
    exact hasStar_replaced (changed.mentions "A_Star" (by decide +kernel)) _ _
  | field => simp [Fingerprint.starred, Json.elements]

/-- Whether an object is a reference to one column is told by what it holds under that name. -/
theorem isColumnRef_object (fields : List (String × Json)) :
    isColumnRef (.object fields) = ((fields.lookup "ColumnRef").elim (.ok false) fun reference =>
      (!·) <$> (reference.field "fields" >>= starred)) := by
  unfold isColumnRef
  rw [Json.mentions_eq, Json.lookup]
  cases found : fields.lookup "ColumnRef" with
  | none => rfl
  | some reference =>
    have here : (Json.object fields).field "ColumnRef" = .ok reference :=
      Json.field_of_lookup found
    simp only [Option.isSome_some, bind, Except.bind, if_true, here, starred, Option.elim_some]
    cases reference.field "fields" with
    | error fault => rfl
    | ok parts =>
      simp only []
      cases parts.elements with
      | error fault => rfl
      | ok items => rfl

/-- A list is no reference, and none can be read from it. -/
theorem isColumnRef_list (items : List Json) : isColumnRef (.list items) =
    ((Json.list items).mentions "ColumnRef" >>= fun named =>
      if named then .error .wrongKind else .ok false) := rfl

/-- **Changed trees are references** to one column, or none is. -/
theorem Changed.isColumnRef (h : Changed e keeps a b) :
    CardinalityAdvisor.isColumnRef a = CardinalityAdvisor.isColumnRef b := by
  induction h with
  | refl => rfl
  | symm _ ih => exact ih.symm
  | trans _ _ ih ih' => exact ih.trans ih'
  | change change =>
    have changed : Changed e keeps _ _ := .change change
    have same := changed.mentions "ColumnRef" (by decide +kernel)
    cases change with
    | constant => rfl
    | constants => rw [isColumnRef_list, isColumnRef_list, same]
    | positions _ _ _ unchanged =>
      rw [isColumnRef_object, isColumnRef_object, unchanged "ColumnRef" (by decide +kernel)]
    | column member member' => rw [member.single, member'.single]
  | @item before after x y inside =>
    have changed : Changed e keeps (.list (before ++ x :: after)) (.list (before ++ y :: after)) :=
      .item inside
    have same := changed.mentions "ColumnRef" (by decide +kernel)
    rw [isColumnRef_list, isColumnRef_list, same]
  | @field before after name x y _ changed =>
    rw [isColumnRef_object, isColumnRef_object, List.lookup_append, List.lookup_append]
    cases before.lookup "ColumnRef" with
    | some reference => rfl
    | none =>
      by_cases named : "ColumnRef" = name
      · subst named
        rw [Json.lookup_cons_self ("ColumnRef", x), Json.lookup_cons_self ("ColumnRef", y)]
        have parts : (x.field "fields" >>= Fingerprint.starred) =
            (y.field "fields" >>= Fingerprint.starred) :=
          BothEnd.eq <| (changed.field_both "fields" (by decide +kernel) (by decide)).bind
            fun parts parts' changed => .of_eq changed.starred fun _ => rfl
        simp only [Option.or, Option.elim, parts]
      · rw [Json.lookup_cons_of_ne (by exact named), Json.lookup_cons_of_ne (by exact named)]

/-- **Interchangeable columns** have the same class, or none has one. -/
theorem Interchangeable.classOf (h : Interchangeable e a b) (column : isColumnRef a = .ok true) :
    e.classOf a = e.classOf b := by
  -- Of the changes, only those of nodes can make a column: a list is none.
  have noList {items : List Json} (h : isColumnRef (.list items) = .ok true) : False := by
    rw [isColumnRef_list, Json.mentions] at h
    cases named : items.any (· == .text "ColumnRef") <;> simp [named, bind, Except.bind] at h
  induction h with
  | refl => rfl
  | symm changed ih => exact (ih (changed.isColumnRef.trans column)).symm
  | trans changed _ ih ih' => exact (ih column).trans (ih' (changed.isColumnRef.symm.trans column))
  | change change =>
    cases change with
    | constant => cases column
    | constants => exact (noList column).elim
    | positions shaped shaped' star same =>
      have positions : Interchangeable .empty _ _ := .change (.positions shaped shaped' star same)
      rw [Equivalence.classOf, Equivalence.classOf, positions.expressionKey_eq]
    | column member member' => rw [member.classOf, member'.classOf]
  | item => exact (noList column).elim
  | @field before after name x y keeps =>
    -- The whole node is a column, so the changed field lies in a reference, which keeps its class.
    refine keeps (Decidable.by_contra fun missing => ?_)
    rw [isColumnRef_object, List.lookup_eq_none_iff.mpr] at column
    · cases column
    · intro f member
      refine bne_iff_ne.mpr fun same => missing ?_
      exact List.mem_map.mpr ⟨f, member, same.symm⟩

/-! ## Operators and their sides -/

/-- The operator that a list of names ends with. -/
def operatorText (names : Json) : TreeResult Json :=
  lastItem names >>= fun part => part.field "String" >>= Json.field "sval"

theorem operatorText_constants {items : List Json} (nonempty : items ≠ [])
    (constant : ∀ x ∈ items, x.isConstant = true) :
    operatorText (.list items) = .error (.missing "String") := by
  have last : lastItem (.list items) = .ok (items.getLast nonempty) := by
    rw [lastItem, List.getLast?_eq_some_getLast nonempty]
  obtain ⟨tag, value, same, named⟩ :=
    Json.eq_of_isConstant (constant _ (List.getLast_mem nonempty))
  rw [operatorText, last, same]
  obtain rfl | rfl := named <;> rfl

/-- The operators of changed trees are the same, unless they are no texts. -/
theorem Changed.operatorText (h : Changed e keeps a b) :
    Json.atom <$> Fingerprint.operatorText a = Json.atom <$> Fingerprint.operatorText b := by
  induction h with
  | refl => rfl
  | symm _ ih => exact ih.symm
  | trans _ _ ih ih' => exact ih.trans ih'
  | change change =>
    cases change with
    | constant | column | positions => rfl
    | constants nonempty nonempty' constant constant' =>
      rw [operatorText_constants nonempty constant, operatorText_constants nonempty' constant']
  | @item before after x y changed =>
    rcases after.eq_nil_or_concat with rfl | ⟨others, last, rfl⟩
    · have string := changed.field_both "String" (by decide +kernel) (by decide)
      have text := string.bind fun _ _ changed =>
        changed.field_both "sval" (by decide +kernel) (by decide)
      simp only [Fingerprint.operatorText, lastItem, List.getLast?_append, List.getLast?_singleton,
        Option.some_or]
      exact BothEnd.eq (text.map fun _ _ changed => changed.atom)
    · have unchanged (z : Json) : (before ++ z :: others.concat last).getLast? = some last := by
        rw [List.concat_eq_append, ← List.cons_append, ← List.append_assoc, List.getLast?_concat]
      simp only [Fingerprint.operatorText, lastItem, unchanged]
  | field => rfl

/-- The operator is read from an operator expression, if it is one of the ordinary kind. -/
theorem operatorName_eq (expr : Json) : operatorName expr =
    (expr.mentions "A_Expr" >>= fun named => if named then
      expr.field "A_Expr" >>= fun operation => operation.field "kind" >>= fun kind =>
        if kind = .text "AEXPR_OP" then some <$> (operation.field "name" >>= operatorText)
        else .ok none
    else .ok none) := by
  simp [operatorName, operatorText]

/-- Changed clauses have the same operator, or none. -/
theorem Changed.operatorName (h : Changed e keeps a b) :
    BothEnd Eq (Option.Rel fun x y => x.atom = y.atom) (CardinalityAdvisor.operatorName a)
      (CardinalityAdvisor.operatorName b) := by
  rw [operatorName_eq, operatorName_eq, h.mentions "A_Expr" (by decide +kernel)]
  refine BothEnd.bind (R := Eq) (.of_eq rfl fun _ => rfl) ?_
  rintro named _ rfl
  cases named with
  | false => exact .ok .none
  | true =>
    refine (h.field_both "A_Expr" (by decide +kernel) (by decide)).bind fun op op' changed => ?_
    refine (changed.field_both "kind" (by decide +kernel) (by decide)).bind fun k k' kinds => ?_
    have kind := Json.eq_text_iff kinds.atom "AEXPR_OP"
    by_cases isOperator : k = .text "AEXPR_OP"
    · rw [if_pos isOperator, if_pos (kind.mp isOperator)]
      have names := changed.field_both "name" (by decide +kernel) (by decide)
      refine BothEnd.map (names.bind fun _ _ changed => ?_) fun _ _ same => .some same
      exact .of_map changed.operatorText
    · rw [if_neg isOperator, if_neg (mt kind.mpr isOperator)]
      exact .ok .none

/-- The two columns of an equality, and what they are changed into. -/
structure ChangedSides (e : Equivalence) (keeps : Json → Json → Prop) (x y : Json × Json) :
    Prop where
  left : Changed e keeps x.1 y.1
  right : Changed e keeps x.2 y.2
  columns : isColumnRef x.1 = .ok true ∧ isColumnRef x.2 = .ok true

/-- **Changed clauses are equalities** of columns, and their columns are changed, or none is. -/
theorem Changed.equalityArguments (h : Changed e keeps a b) :
    BothEnd Eq (Option.Rel (ChangedSides e keeps))
      (CardinalityAdvisor.equalityArguments a) (CardinalityAdvisor.equalityArguments b) := by
  unfold CardinalityAdvisor.equalityArguments
  refine h.operatorName.bind fun name name' names => ?_
  have equality : name = some (.text "=") ↔ name' = some (.text "=") := by
    cases names with
    | none => simp
    | some same => rw [Option.some.injEq, Option.some.injEq, Json.eq_text_iff same]
  by_cases isEquality : name = some (.text "=")
  · rw [if_pos isEquality, if_pos (equality.mp isEquality)]
    refine (h.field_both "A_Expr" (by decide +kernel) (by decide)).bind fun op op' changed => ?_
    refine (changed.field?_both "lexpr" (by decide +kernel) (by decide)).bind fun l l' lefts => ?_
    refine (changed.field?_both "rexpr" (by decide +kernel) (by decide)).bind fun r r' rights => ?_
    rcases lefts with @⟨l, l', left⟩ | _
    · rcases rights with @⟨r, r', right⟩ | _
      · simp only [← left.isColumnRef, ← right.isColumnRef]
        cases isLeft : CardinalityAdvisor.isColumnRef l with
        | error fault => exact .error rfl
        | ok found =>
          cases found with
          | false => exact .ok .none
          | true =>
            cases isRight : CardinalityAdvisor.isColumnRef r with
            | error fault => exact .error rfl
            | ok found =>
              cases found with
              | false => exact .ok .none
              | true => exact .ok (.some ⟨left, right, isLeft, isRight⟩)
      · exact .ok .none
    · cases rights <;> exact .ok .none
  · rw [if_neg isEquality, if_neg (mt equality.mpr isEquality)]
    exact .ok .none

/-! ## Fingerprints -/

/-- **Interchangeable clauses have the same fingerprint**, or none has one. -/
theorem Interchangeable.clauseKey (h : Interchangeable e a b) (join : JoinType) :
    Fingerprint.clauseKey e join a = Fingerprint.clauseKey e join b := by
  have forms : (fun tree => foldJoin join (treeKey tree)) <$> canonicalFormWith e.replacement a =
      (fun tree => foldJoin join (treeKey tree)) <$> canonicalFormWith e.replacement b := by
    have keys := congrArg digestOf h.same_canonical.compact
    simp only [canonicalFormWith, Json.checkCasts, h.isReadable, treeKey, bind, Except.bind]
    cases b.isReadable with
    | false => rfl
    | true => exact congrArg (fun key => Except.ok (foldJoin join key)) keys
  refine BothEnd.eq (h.equalityArguments.bind fun sides sides' changed => ?_)
  have same : checkColumns sides = checkColumns sides' ∧
      commonClass e sides = commonClass e sides' := by
    rcases changed with @⟨⟨left, right⟩, ⟨left', right'⟩, both⟩ | _
    · have classes := Interchangeable.classOf both.left both.columns.1
      have classes' := Interchangeable.classOf both.right both.columns.2
      simp only [checkColumns, commonClass, Json.checkCasts, both.left.isReadable,
        both.right.isReadable, classes, classes', and_self]
    · exact ⟨rfl, rfl⟩
  rw [same.1, same.2, forms]
  exact .of_eq rfl fun _ => rfl

/-- A field may be changed in a node that is no reference. -/
theorem Changed.inside (before after : List (String × Json)) (name : String)
    (other : "ColumnRef" ∉ (before ++ (name, a) :: after).map Prod.fst) (h : Changed e keeps a b) :
    Changed e keeps (.object (before ++ (name, a) :: after))
      (.object (before ++ (name, b) :: after)) :=
  .field (fun present => absurd present other) h

/-- A comparison of a column with a constant. -/
def filterOn (operator column value : Json) : Json :=
  .object [("A_Expr", .object [("kind", .text "AEXPR_OP"), ("name", operator), ("lexpr", column),
    ("rexpr", .object [("A_Const", value)])])]

/-- Filters on interchangeable columns are interchangeable, whatever they compare the columns
with. -/
theorem Interchangeable.filterOn (h : Interchangeable e a b) (operator value value' : Json) :
    Interchangeable e (Fingerprint.filterOn operator a value)
      (Fingerprint.filterOn operator b value') := by
  have column := h.inside [("kind", .text "AEXPR_OP"), ("name", operator)]
    [("rexpr", .object [("A_Const", value)])] "lexpr" (by simp)
  have constant : Interchangeable e (.object [("A_Const", value)])
      (.object [("A_Const", value')]) := .change (.constant value value')
  have compared := constant.inside [("kind", .text "AEXPR_OP"), ("name", operator), ("lexpr", b)] []
    "rexpr" (by simp)
  exact (column.trans compared).inside [] [] "A_Expr" (by simp)

/-- A clause has a fingerprint if it has the shape of one and the attributes of its casts are
objects. -/
theorem exists_clauseKey {clause : Json} (shaped : clause.IsClause)
    (casts : Json.Everywhere Json.CastShaped clause) (e : Equivalence) (join : JoinType) :
    ∃ key, Fingerprint.clauseKey e join clause = .ok key := by
  obtain ⟨pair, own, -⟩ := exists_equalityOf shaped
  have fingerprinted : clause.Fingerprinted := ⟨⟨pair, own⟩, casts.isReadable⟩
  exact fingerprinted.clauseKey e join

/-- An equality between two members of a class has the fingerprint of the class. -/
theorem clauseKey_of_members {clause left right : Json} {key : Int}
    (arguments : equalityArguments clause = .ok (some (left, right))) (onLeft : IsMember e key left)
    (onRight : IsMember e key right) (join : JoinType) :
    clauseKey e join clause = .ok (foldJoin join key) := by
  have common : commonClass e (some (left, right)) = some key := by
    simp [commonClass, onLeft.classOf, onRight.classOf, Option.filter]
  simp [clauseKey, arguments, checkColumns, Json.checkCasts, onLeft.readable, onRight.readable,
    common, bind, Except.bind]

/-- **The fingerprint of a clause** does not show which constants and which columns of a class it
uses, and at which positions. Constants and positions may be changed in references to columns as
well, and other references in them as long as these keep their classes. An equality between two
members of a class and a filter on one have the same fingerprint for all members. -/
theorem clauseKey_of_interchangeable (e : Equivalence) (join : JoinType) :
    (∀ a b, Interchangeable e a b → clauseKey e join a = clauseKey e join b) ∧
    (∀ a b, SameButConstants a b → Interchangeable e a b) ∧
    (∀ clause left right key, equalityArguments clause = .ok (some (left, right)) →
      IsMember e key left → IsMember e key right →
      clauseKey e join clause = .ok (foldJoin join key)) ∧
    (∀ c d key operator value value', IsMember e key c → IsMember e key d →
      clauseKey e join (filterOn operator c value) =
        clauseKey e join (filterOn operator d value')) ∧
    ∀ clause, clause.IsClause → Json.Everywhere Json.CastShaped clause →
      ∃ key, clauseKey e join clause = .ok key := by
  refine ⟨fun a b h => h.clauseKey join, fun a b h => h.interchangeable e, ?_, ?_, ?_⟩
  · intro clause left right key arguments onLeft onRight
    exact clauseKey_of_members arguments onLeft onRight join
  · intro c d key operator value value' ofC ofD
    have columns : Interchangeable e c d := .change (.of_members ofC ofD)
    exact (columns.filterOn operator value value').clauseKey join
  · exact fun clause shaped casts => exists_clauseKey shaped casts e join

/-- The negation of a comparison with a constant. -/
def negatedFilter (column value : Json) : Json :=
  .object [("BoolExpr", .object [("boolop", .text "NOT_EXPR"), ("args", .list [filterOn
    (.list [.object [("String", .object [("sval", .text "<")])]]) column value])])]

/-- With `r.a = s.b`, the clauses `NOT r.a < 1` and `NOT s.b < 2` have the same fingerprint. -/
theorem clauseKey_of_interchangeable_negated :
    ∃ e, Equivalence.ofClauses [.equationAt (.columnAt "r" "a" 6) (.columnAt "s" "b" 12) 10] =
        .ok e ∧
      Interchangeable e (negatedFilter (.columnAt "r" "a" 24) (.int 1))
        (negatedFilter (.columnAt "s" "b" 24) (.int 2)) ∧
      clauseKey e .left (negatedFilter (.columnAt "r" "a" 24) (.int 1)) =
        clauseKey e .left (negatedFilter (.columnAt "s" "b" 24) (.int 2)) := by
  let e : Equivalence := ⟨[(3274961423543082245, 3044347721141032883),
    (2577058349625164710, 3044347721141032883)]⟩
  have classes : Equivalence.ofClauses
      [.equationAt (.columnAt "r" "a" 6) (.columnAt "s" "b" 12) 10] = .ok e := by decide +kernel
  have ofA : IsMember e 3044347721141032883 (.columnAt "r" "a" 24) :=
    ⟨⟨_, rfl⟩, rfl, rfl, by decide +kernel⟩
  have ofB : IsMember e 3044347721141032883 (.columnAt "s" "b" 24) :=
    ⟨⟨_, rfl⟩, rfl, rfl, by decide +kernel⟩
  have columns : Interchangeable e (.columnAt "r" "a" 24) (.columnAt "s" "b" 24) :=
    .change (.of_members ofA ofB)
  have compared := columns.filterOn (.list [.object [("String", .object [("sval", .text "<")])]])
    (.int 1) (.int 2)
  have listed := @Changed.item _ _ [] [] _ _ compared
  have negated := listed.inside [("boolop", .text "NOT_EXPR")] [] "args" (by simp)
  have whole := negated.inside [] [] "BoolExpr" (by simp)
  exact ⟨e, classes, whole, (clauseKey_of_interchangeable e .left).1 _ _ whole⟩

/-- A reference with a single part. -/
def referenceTo (part : Json) : Json :=
  .object [("ColumnRef", .object [("fields", .list [part])])]

/-- A reference to a column may be a part of another one. If it becomes another column of its class,
the reference around it need not keep its class, and then the fingerprint changes. -/
theorem clauseKey_differs_in_nested_references :
    ¬∀ (clauses : List Json) (e : Equivalence) (join : JoinType) (a b : Json),
      Equivalence.ofClauses clauses = .ok e → Json.Everywhere Json.TermShaped a →
      Json.Everywhere Json.TermShaped b → Changed e (fun _ _ => True) a b →
      clauseKey e join a = clauseKey e join b := by
  intro same
  let inner := referenceTo (.object [("String", .object [("sval", .text "a")])])
  have classes : Equivalence.ofClauses [.equationAt inner (referenceTo inner) 2] =
      .ok ⟨[(-4111426629801147098, 2682667501331747719),
        (4789548899494624789, 2682667501331747719)]⟩ := by decide +kernel
  have changed : Changed ⟨[(-4111426629801147098, 2682667501331747719),
        (4789548899494624789, 2682667501331747719)]⟩ (fun _ _ => True) (referenceTo inner)
      (referenceTo (referenceTo inner)) := by
    refine @Changed.field _ _ [] [] "ColumnRef" _ _ (fun _ => trivial) ?_
    refine @Changed.field _ _ [] [] "fields" _ _ (fun _ => trivial) ?_
    refine @Changed.item _ _ [] [] _ _ (.change (@Change.column _ _ _ 2682667501331747719 ?_ ?_))
    · exact ⟨⟨_, rfl⟩, rfl, rfl, by decide +kernel⟩
    · exact ⟨⟨_, rfl⟩, rfl, rfl, by decide +kernel⟩
  have keys := same _ _ .inner _ _ classes (by decide) (by decide) changed
  revert keys
  decide +kernel

end Fingerprint

end CardinalityAdvisor
