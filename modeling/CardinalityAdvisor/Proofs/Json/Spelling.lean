import CardinalityAdvisor.Proofs.Fingerprint.Texts
import CardinalityAdvisor.Proofs.Json.KeyOrder
import CardinalityAdvisor.Proofs.Json.Units

/-!
# What a compact text says

A compact text is taken apart from its front: the first character tells a word, a string, a list and
an object apart, a string ends at its quote and a word where a comma or a bracket follows. So the
text of a value says how the value is spelled: its words, the UTF-16 units of its strings, its items
in their order and its fields in the order of their names. A double is a word of the shortest digits
that read back as the double.

## Main definitions

* `Json.Spelling`, `Json.spelling v`: how a value is spelled
* `Json.Plain v`: a value without doubles, in whose texts no half of a surrogate pair stands alone

## Main results

* `Json.compact_append_inj`: the spelling of a value is told by the front of a text
* `Json.compact_eq_iff`: two values have the same compact text iff they are spelled alike
* `Json.spelling_eq_iff`: plain values are spelled alike iff they differ only in the order of fields
-/

namespace CardinalityAdvisor.Json

/-! ## Words -/

/-- Whether a character neither begins nor ends a string, a list or an object. -/
def isWordChar (c : Char) : Bool := !(['"', '[', '\x7b', ',', ']', '\x7d'].contains c)

/-- A text in which a value does not go on: it is empty, or a comma or a closing bracket stands in
front. -/
def Ends (rest : List Char) : Prop := ∀ c ∈ rest.head?, c = ',' ∨ c = ']' ∨ c = '\x7d'

theorem ends_nil : Ends [] := nofun

theorem ends_cons {c : Char} (rest : List Char) (h : c = ',' ∨ c = ']' ∨ c = '\x7d') :
    Ends (c :: rest) := by
  rintro _ ⟨⟩
  exact h

/-- A word is told by the front of a text in which it ends. -/
theorem word_append_inj {word word' rest rest' : List Char}
    (isWord : ∀ c ∈ word, isWordChar c = true) (isWord' : ∀ c ∈ word', isWordChar c = true)
    (ends : Ends rest) (ends' : Ends rest') (h : word ++ rest = word' ++ rest') :
    word = word' ∧ rest = rest' := by
  have taken {word rest : List Char} (isWord : ∀ c ∈ word, isWordChar c = true)
      (ends : Ends rest) : (word ++ rest).takeWhile isWordChar = word := by
    rw [List.takeWhile_append_of_pos isWord]
    cases rest with
    | nil => exact List.append_nil _
    | cons c rest =>
      have other : isWordChar c = false := by
        rcases ends c rfl with rfl | rfl | rfl <;> rfl
      rw [List.takeWhile_cons_of_neg (by simp [other]), List.append_nil]
  have same : word = word' := by rw [← taken isWord ends, h, taken isWord' ends']
  rw [same] at h
  exact ⟨same, List.append_cancel_left h⟩

theorem isWordChar_of_isDigit {c : Char} (digit : c.isDigit = true) : isWordChar c = true := by
  have brackets : ∀ d ∈ ['"', '[', '\x7b', ',', ']', '\x7d'], d.isDigit = false := by simp
  rw [isWordChar, Bool.not_eq_true', List.contains_eq_mem, decide_eq_false_iff_not]
  intro member
  exact Bool.false_ne_true ((brackets c member).symm.trans digit)

theorem isWordChar_of_mem_digitsOf {n : Nat} : ∀ c ∈ Decimal.digitsOf n, isWordChar c = true :=
  fun _ member => isWordChar_of_isDigit (Decimal.isDigit_of_mem_digitsOf member)

theorem isWordChar_of_mem_integerText {i : Int} : ∀ c ∈ integerText i, isWordChar c = true := by
  unfold integerText
  split
  · exact List.forall_mem_cons.mpr ⟨rfl, isWordChar_of_mem_digitsOf⟩
  · exact isWordChar_of_mem_digitsOf

/-- Digits with a decimal point or an exponent are a word. -/
theorem isWordChar_of_mem_write {n : Decimal.PointRange} {digits : List Char} {point : Int}
    (isWord : ∀ c ∈ digits, isWordChar c = true) :
    ∀ c ∈ (n.write digits point).toList, isWordChar c = true := by
  have zeros (count : Nat) : ∀ c ∈ List.replicate count '0', isWordChar c = true := fun c member =>
    List.eq_of_mem_replicate member ▸ rfl
  have part (count : Nat) : ∀ c ∈ digits.drop count, isWordChar c = true := fun c member =>
    isWord c (List.mem_of_mem_drop member)
  have whole (count : Nat) : ∀ c ∈ digits.take count, isWordChar c = true := fun c member =>
    isWord c (List.mem_of_mem_take member)
  have exponent (e : Int) : ∀ c ∈ (Decimal.exponentText e).toList, isWordChar c = true := by
    have sign : ∀ c ∈ (if e < 0 then "e-" else "e+").toList, isWordChar c = true := by
      split <;> exact List.all_eq_true.mp rfl
    rw [Decimal.exponentText, String.toList_append, List.forall_mem_append, String.toList_ofList]
    refine ⟨sign, ?_⟩
    split
    · exact List.forall_mem_cons.mpr ⟨rfl, isWordChar_of_mem_digitsOf⟩
    · exact isWordChar_of_mem_digitsOf
  unfold Decimal.PointRange.write
  split_ifs
  · rw [String.toList_ofList]
    exact List.forall_mem_cons.mpr ⟨rfl, List.forall_mem_cons.mpr ⟨rfl,
      List.forall_mem_append.mpr ⟨zeros _, isWord⟩⟩⟩
  · simp only [String.toList_ofList, List.forall_mem_append, List.forall_mem_cons]
    refine ⟨⟨whole _, zeros _⟩, rfl, ?_⟩
    split
    · exact List.all_eq_true.mp rfl
    · exact part _
  · simp only [String.toList_append, String.toList_ofList, List.forall_mem_append]
    refine ⟨⟨whole _, ?_⟩, exponent _⟩
    split
    · exact List.all_eq_true.mp rfl
    · exact List.forall_mem_cons.mpr ⟨rfl, part _⟩

/-- A double is written as a word. -/
theorem isWordChar_of_mem_floatText {x : Float} : ∀ c ∈ floatText x, isWordChar c = true := by
  have digits (b : Decimal.Binary) :
      ∀ c ∈ (Decimal.shortestDigits b).1, isWordChar c = true := fun c member => by
    have inside := List.mem_reverse.mp ((List.dropWhile_sublist _).mem (List.mem_reverse.mp member))
    exact isWordChar_of_mem_digitsOf c inside
  unfold floatText Decimal.shortest
  split_ifs
  · exact List.all_eq_true.mp rfl
  · exact List.all_eq_true.mp rfl
  · exact List.all_eq_true.mp rfl
  · split
    · rw [Decimal.specialText]
      split_ifs <;> exact List.all_eq_true.mp rfl
    · extract_lets text
      have written : ∀ c ∈ text.toList, isWordChar c = true := by
        simp only [text]
        split
        · exact List.all_eq_true.mp rfl
        · exact isWordChar_of_mem_write (digits _)
      split
      · rw [String.toList_append, List.forall_mem_append]
        exact ⟨List.all_eq_true.mp rfl, written⟩
      · exact written

theorem write_ne_empty {n : Decimal.PointRange} {digits : List Char} {point : Int} :
    (n.write digits point).toList ≠ [] := by
  unfold Decimal.PointRange.write Decimal.exponentText
  split_ifs <;> simp

theorem floatText_ne_nil (x : Float) : floatText x ≠ [] := by
  unfold floatText Decimal.shortest
  split_ifs
  · exact List.cons_ne_nil _ _
  · exact List.cons_ne_nil _ _
  · exact List.cons_ne_nil _ _
  · split
    · rw [Decimal.specialText]
      split_ifs <;> exact List.cons_ne_nil _ _
    · extract_lets text
      have written : text.toList ≠ [] := by
        simp only [text]
        split
        · exact List.cons_ne_nil _ _
        · exact write_ne_empty
      split
      · simp
      · exact written

/-! ## Rows -/

section Rows

variable {α : Type} {text : α → List Char} {R : α → α → Prop} {close : Char} {xs ys : List α}
  {rest rest' : List Char}

theorem commaSeparated_cons (text : List Char) (texts : List (List Char)) :
    commaSeparated (text :: texts) = text ++ texts.flatMap (',' :: ·) := by
  induction texts generalizing text with
  | nil => simp [commaSeparated, List.intercalate]
  | cons second texts ih =>
    rw [List.flatMap_cons, List.cons_append, ← ih]
    simp [commaSeparated, List.intercalate]

/-- What follows a value in a row. -/
theorem ends_row (closing : close = ']' ∨ close = '\x7d') (xs : List α) (rest : List Char) :
    Ends (xs.flatMap (fun x => ',' :: text x) ++ close :: rest) := by
  cases xs with
  | nil => exact ends_cons _ (.inr closing)
  | cons x xs => exact ends_cons _ (.inl rfl)

/-- **A row of values** up to its closing bracket is told by the front of a text if each of its
values is, and none of them begins with the bracket. -/
theorem row_append_inj (text : α → List Char) (closing : close = ']' ∨ close = '\x7d')
    (told : ∀ x ∈ xs, ∀ y ∈ ys, ∀ rest rest', Ends rest → Ends rest' →
      text x ++ rest = text y ++ rest' → R x y ∧ rest = rest')
    (starts : ∀ z ∈ xs ++ ys, ∃ c after, text z = c :: after ∧ c ≠ close)
    (h : commaSeparated (xs.map text) ++ close :: rest =
      commaSeparated (ys.map text) ++ close :: rest') :
    List.Forall₂ R xs ys ∧ rest = rest' := by
  have later {xs ys : List α} (told : ∀ x ∈ xs, ∀ y ∈ ys, ∀ rest rest', Ends rest → Ends rest' →
        text x ++ rest = text y ++ rest' → R x y ∧ rest = rest')
      (h : xs.flatMap (fun x => ',' :: text x) ++ close :: rest =
        ys.flatMap (fun y => ',' :: text y) ++ close :: rest') :
      List.Forall₂ R xs ys ∧ rest = rest' := by
    have comma : ',' ≠ close := by rcases closing with rfl | rfl <;> decide
    induction xs generalizing ys with
    | nil =>
      cases ys with
      | nil => exact ⟨.nil, (List.cons.inj h).2⟩
      | cons y ys => exact absurd (List.cons.inj h).1.symm comma
    | cons x xs ih =>
      cases ys with
      | nil => exact absurd (List.cons.inj h).1 comma
      | cons y ys =>
        simp only [List.flatMap_cons, List.cons_append, List.append_assoc, List.cons.injEq,
          true_and] at h
        obtain ⟨first, h⟩ := told x List.mem_cons_self y List.mem_cons_self _ _
          (ends_row closing xs rest) (ends_row closing ys rest') h
        obtain ⟨others, last⟩ := ih (fun x inside y inside' =>
          told x (List.mem_cons_of_mem _ inside) y (List.mem_cons_of_mem _ inside')) h
        exact ⟨.cons first others, last⟩
  cases xs with
  | nil =>
    cases ys with
    | nil => exact ⟨.nil, (List.cons.inj h).2⟩
    | cons y ys =>
      obtain ⟨c, after, written, other⟩ := starts y (by simp)
      rw [List.map_cons, commaSeparated_cons, written] at h
      exact absurd (List.cons.inj h).1.symm other
  | cons x xs =>
    cases ys with
    | nil =>
      obtain ⟨c, after, written, other⟩ := starts x (by simp)
      rw [List.map_cons, commaSeparated_cons, written] at h
      exact absurd (List.cons.inj h).1 other
    | cons y ys =>
      simp only [List.map_cons, commaSeparated_cons, List.flatMap_map, List.append_assoc] at h
      obtain ⟨first, h⟩ := told x List.mem_cons_self y List.mem_cons_self _ _
        (ends_row closing xs rest) (ends_row closing ys rest') h
      obtain ⟨others, last⟩ := later (fun x inside y inside' =>
        told x (List.mem_cons_of_mem _ inside) y (List.mem_cons_of_mem _ inside')) h
      exact ⟨.cons first others, last⟩

end Rows

/-! ## Values -/

/-- How a value is spelled: its words, the UTF-16 units of its strings and names, its items in their
order, and its fields in the order of their names. -/
inductive Spelling where
  /-- A constant or a number. -/
  | word (text : List Char)
  | string (units : List Nat)
  | list (items : List Spelling)
  | object (fields : List (List Nat × Spelling))

mutual
/-- The spelling of a value. -/
def spelling : Json → Spelling
  | .null => .word "null".toList
  | .bool b => .word (if b then "true" else "false").toList
  | .int i => .word (integerText i)
  | .float x => .word (floatText x)
  | .text s => .string (Text.units s)
  | .list items => .list (itemSpellings items)
  | .object fields =>
    .object ((sortBy fieldLe (fieldSpellings fields)).map fun (name, value) =>
      (Text.units name, value))

/-- The spellings of the items of a list. -/
def itemSpellings : List Json → List Spelling
  | [] => []
  | item :: rest => spelling item :: itemSpellings rest

/-- The names of the fields with the spellings of their values. -/
def fieldSpellings : List (String × Json) → List (String × Spelling)
  | [] => []
  | (name, value) :: rest => (name, spelling value) :: fieldSpellings rest
end

theorem spelling_list (items : List Json) : (list items).spelling = .list (items.map spelling) := by
  rw [spelling]
  congr 1
  induction items with
  | nil => rfl
  | cons item rest ih => rw [itemSpellings, ih, List.map_cons]

theorem spelling_object (fields : List (String × Json)) : (object fields).spelling =
    .object ((sortBy fieldLe fields).map fun f => (Text.units f.1, f.2.spelling)) := by
  have spelled : fieldSpellings fields = fields.map fun f => (f.1, f.2.spelling) := by
    induction fields with
    | nil => rfl
    | cons f rest ih => rw [fieldSpellings, ih, List.map_cons]
  have sorted : sortBy fieldLe (fields.map fun f => (f.1, f.2.spelling)) =
      (sortBy fieldLe fields).map fun f => (f.1, f.2.spelling) :=
    sortBy_map (fun _ _ => rfl) fields
  rw [spelling, spelled, sorted, List.map_map]
  rfl

/-- A field with its name, as it stands in the text of an object. -/
def fieldText (f : String × Json) : List Char := string .ascii f.1 ++ ':' :: f.2.compact

/-- The fields of an object are written in the order of their names. -/
theorem compact_object (fields : List (String × Json)) : (object fields).compact =
    '\x7b' :: commaSeparated ((sortBy fieldLe fields).map fieldText) ++ ['\x7d'] := by
  have sorted : sortBy fieldLe (fields.map fun f => (f.1, f.2.compact)) =
      (sortBy fieldLe fields).map fun f => (f.1, f.2.compact) := sortBy_map (fun _ _ => rfl) fields
  rw [compact, compactFields_eq, sorted]
  simp only [List.map_map]
  rfl

/-- The kinds of values that the first character of a text tells apart. -/
inductive Kind where
  | word
  | string
  | list
  | object

/-- The kind of a value. -/
def kind : Json → Kind
  | .text _ => .string
  | .list _ => .list
  | .object _ => .object
  | _ => .word

/-- The kind of the value that a character begins. -/
def kindAt (c : Char) : Kind :=
  if c = '"' then .string else if c = '[' then .list else if c = '\x7b' then .object else .word

/-- The words among the values. -/
theorem exists_word {v : Json} (word : v.kind = .word) :
    ∃ text, v.spelling = .word text ∧ v.compact = text ∧ text ≠ [] ∧
      ∀ c ∈ text, isWordChar c = true := by
  match v with
  | .null => exact ⟨_, rfl, rfl, List.cons_ne_nil _ _, List.all_eq_true.mp rfl⟩
  | .bool true => exact ⟨_, rfl, rfl, List.cons_ne_nil _ _, List.all_eq_true.mp rfl⟩
  | .bool false => exact ⟨_, rfl, rfl, List.cons_ne_nil _ _, List.all_eq_true.mp rfl⟩
  | .int i => exact ⟨_, rfl, rfl, integerText_ne_nil i, isWordChar_of_mem_integerText⟩
  | .float x => exact ⟨_, rfl, rfl, floatText_ne_nil x, isWordChar_of_mem_floatText⟩

/-- The first character of a text tells the kind of the value. -/
theorem exists_first (v : Json) :
    ∃ c after, v.compact = c :: after ∧ kindAt c = v.kind ∧ c ≠ ']' := by
  by_cases word : v.kind = .word
  · obtain ⟨text, -, rfl, nonempty, isWord⟩ := exists_word word
    obtain ⟨c, after, written⟩ := List.exists_cons_of_ne_nil nonempty
    have other (d : Char) (bracket : isWordChar d = false) : c ≠ d := by
      rintro rfl
      exact Bool.false_ne_true (bracket.symm.trans (isWord c (written ▸ List.mem_cons_self)))
    refine ⟨c, after, written, ?_, other _ rfl⟩
    rw [word, kindAt, if_neg (other _ rfl), if_neg (other _ rfl), if_neg (other _ rfl)]
  · match v with
    | .text s => exact ⟨'"', _, rfl, rfl, by decide⟩
    | .list items => exact ⟨'[', _, rfl, rfl, by decide⟩
    | .object fields => exact ⟨'\x7b', _, rfl, rfl, by decide⟩

theorem kind_eq_of_compact {a b : Json} {rest rest' : List Char}
    (h : a.compact ++ rest = b.compact ++ rest') : a.kind = b.kind := by
  obtain ⟨c, after, written, tells, -⟩ := exists_first a
  obtain ⟨d, after', written', tells', -⟩ := exists_first b
  rw [written, written'] at h
  rw [← tells, ← tells', (List.cons.inj h).1]

theorem map_eq_map_iff_forall₂ {α β : Type} {f : α → β} {xs ys : List α} :
    xs.map f = ys.map f ↔ List.Forall₂ (fun x y => f x = f y) xs ys := by
  rw [← List.forall₂_eq_eq_eq, List.forall₂_map_left_iff, List.forall₂_map_right_iff]

/-- **The spelling of a value** is told by the front of a text in which the value ends. -/
theorem compact_append_inj {a b : Json} {rest rest' : List Char} (ends : Ends rest)
    (ends' : Ends rest') (h : a.compact ++ rest = b.compact ++ rest') :
    a.spelling = b.spelling ∧ rest = rest' := by
  have kinds := kind_eq_of_compact h
  induction a using Json.induction generalizing b rest rest' with
  | list as ih =>
    cases b with
    | list bs =>
      rw [compact, compact, compactItems_eq, compactItems_eq, List.cons_append, List.cons_append,
        List.append_assoc, List.append_assoc] at h
      obtain ⟨items, last⟩ := row_append_inj (R := fun x y => x.spelling = y.spelling) compact
        (.inl rfl)
        (fun x inside y _ _ _ ends ends' h => ih x inside ends ends' h (kind_eq_of_compact h))
        (fun z _ => by
          obtain ⟨c, after, written, -, other⟩ := exists_first z
          exact ⟨c, after, written, other⟩)
        (List.cons.inj h).2
      rw [spelling_list, spelling_list, map_eq_map_iff_forall₂.mpr items]
      exact ⟨rfl, last⟩
    | _ => cases kinds
  | object fs ih =>
    cases b with
    | object gs =>
      rw [compact_object, compact_object, List.cons_append, List.cons_append, List.append_assoc,
        List.append_assoc] at h
      obtain ⟨fields, last⟩ := row_append_inj
        (R := fun f g => (Text.units f.1, f.2.spelling) = (Text.units g.1, g.2.spelling)) fieldText
        (.inr rfl)
        (fun f inside g _ rest rest' ends ends' h => by
          simp only [fieldText, List.append_assoc, List.cons_append] at h
          obtain ⟨names, behind⟩ := string_append_inj h
          have behind := (List.cons.inj behind).2
          obtain ⟨values, last⟩ := ih f ((mem_sortBy fieldLe).mp inside) ends ends' behind
            (kind_eq_of_compact behind)
          exact ⟨Prod.ext names values, last⟩)
        (fun z _ => ⟨'"', _, rfl, by decide⟩)
        (List.cons.inj h).2
      rw [spelling_object, spelling_object, map_eq_map_iff_forall₂.mpr fields]
      exact ⟨rfl, last⟩
    | _ => cases kinds
  | other tree list object =>
    by_cases word : tree.kind = .word
    · obtain ⟨text, spelled, rfl, -, isWord⟩ := exists_word word
      obtain ⟨text', spelled', rfl, -, isWord'⟩ := exists_word (kinds ▸ word)
      rw [spelled, spelled']
      obtain ⟨same, last⟩ := word_append_inj isWord isWord' ends ends' h
      rw [same]
      exact ⟨rfl, last⟩
    · cases tree with
      | text s =>
        cases b with
        | text s' =>
          obtain ⟨same, last⟩ := string_append_inj h
          rw [spelling, spelling, same]
          exact ⟨rfl, last⟩
        | _ => cases kinds
      | list as => exact absurd rfl (list as)
      | object fs => exact absurd rfl (object fs)
      | _ => exact absurd rfl word

theorem map_congr_of_map {α β γ : Type} {f : α → β} {g : α → γ} {xs ys : List α}
    (told : ∀ x ∈ xs, ∀ y, f x = f y → g x = g y) (h : xs.map f = ys.map f) :
    xs.map g = ys.map g := by
  rw [map_eq_map_iff_forall₂, List.forall₂_iff_zip] at h ⊢
  exact ⟨h.1, fun pair => told _ (List.of_mem_zip pair).1 _ (h.2 pair)⟩

/-- Values that are spelled alike have the same compact text. -/
theorem compact_congr {a b : Json} (h : a.spelling = b.spelling) : a.compact = b.compact := by
  induction a using Json.induction generalizing b with
  | list as ih =>
    cases b with
    | list bs =>
      rw [spelling_list, spelling_list, Spelling.list.injEq] at h
      rw [compact, compact, compactItems_eq, compactItems_eq,
        map_congr_of_map (fun x inside _ => ih x inside) h]
    | _ => cases h
  | object fs ih =>
    cases b with
    | object gs =>
      rw [spelling_object, spelling_object, Spelling.object.injEq] at h
      rw [compact_object, compact_object, map_congr_of_map (fun f inside g same => ?_) h]
      obtain ⟨names, values⟩ := Prod.mk.inj same
      rw [fieldText, fieldText, string_eq, names, ← string_eq,
        ih f ((mem_sortBy fieldLe).mp inside) values]
    | _ => cases h
  | other tree list object =>
    by_cases word : tree.kind = .word
    · obtain ⟨text, spelled, rfl, -⟩ := exists_word word
      have sameKind : b.kind = .word := by
        rw [spelled] at h
        cases b <;> first | rfl | cases h
      obtain ⟨text', spelled', rfl, -⟩ := exists_word sameKind
      rw [spelled, spelled', Spelling.word.injEq] at h
      exact h
    · cases tree with
      | text s =>
        cases b with
        | text s' =>
          have units : Text.units s = Text.units s' := Spelling.string.inj h
          rw [compact, compact, string_eq, string_eq, units]
        | _ => cases h
      | list as => exact absurd rfl (list as)
      | object fs => exact absurd rfl (object fs)
      | _ => exact absurd rfl word

/-- **The compact text of a value** says how the value is spelled, and nothing else. -/
theorem compact_eq_iff {a b : Json} : a.compact = b.compact ↔ a.spelling = b.spelling := by
  constructor
  · intro h
    refine (compact_append_inj ends_nil ends_nil ?_).1
    rw [List.append_nil, List.append_nil, h]
  · exact compact_congr

/-! ## Plain values -/

mutual
/-- Whether a value has no doubles, and all of its texts are whole. -/
def isPlain : Json → Bool
  | .float _ => false
  | .text s => Text.isWhole s
  | .list items => itemsPlain items
  | .object fields => fieldsPlain fields
  | _ => true

/-- Whether all items of a list are plain. -/
def itemsPlain : List Json → Bool
  | [] => true
  | item :: rest => item.isPlain && itemsPlain rest

/-- Whether the names and the values of all fields are plain. -/
def fieldsPlain : List (String × Json) → Bool
  | [] => true
  | (name, value) :: rest => Text.isWhole name && value.isPlain && fieldsPlain rest
end

/-- A value without doubles, in whose texts no half of a surrogate pair stands alone. -/
def Plain (v : Json) : Prop := v.isPlain = true

instance : DecidablePred Plain := fun v => inferInstanceAs (Decidable (v.isPlain = true))

theorem plain_list {items : List Json} : Plain (.list items) ↔ ∀ item ∈ items, Plain item := by
  rw [Plain, isPlain]
  induction items with
  | nil => simp [itemsPlain]
  | cons item rest ih => rw [itemsPlain, Bool.and_eq_true, ih, List.forall_mem_cons, Plain]

theorem plain_object {fields : List (String × Json)} :
    Plain (.object fields) ↔ ∀ f ∈ fields, Text.isWhole f.1 = true ∧ Plain f.2 := by
  rw [Plain, isPlain]
  induction fields with
  | nil => simp [fieldsPlain]
  | cons f rest ih =>
    rw [fieldsPlain, Bool.and_eq_true, Bool.and_eq_true, ih, List.forall_mem_cons, Plain]

/-- Objects whose fields in the order of their names are the same, one by one, are the same. -/
theorem same_object_of_sorted {fs gs : List (String × Json)}
    (h : List.Forall₂ (fun f g => f.1 = g.1 ∧ Same f.2 g.2) (sortBy fieldLe fs)
      (sortBy fieldLe gs)) : Same (.object fs) (.object gs) := by
  have sorted (fields : List (String × Json)) :
      sortBy fieldLe (fields.map fun f => (f.1, f.2.inKeyOrder)) =
        (sortBy fieldLe fields).map fun f => (f.1, f.2.inKeyOrder) :=
    sortBy_map (fun _ _ => rfl) fields
  rw [Same, inKeyOrder, inKeyOrder, fieldsInKeyOrder_eq, fieldsInKeyOrder_eq, sorted, sorted,
    object.injEq, map_eq_map_iff_forall₂]
  exact h.imp fun f g same => Prod.ext same.1 same.2

/-- No number is written like a constant, in which a letter stands. -/
theorem integerText_ne (i : Int) {c : Char} {text : List Char} (member : c ∈ text)
    (letter : c.isDigit = false ∧ c ≠ '-') : integerText i ≠ text := by
  have digits (n : Nat) : c ∉ Decimal.digitsOf n := fun member =>
    Bool.false_ne_true (letter.1.symm.trans (Decimal.isDigit_of_mem_digitsOf member))
  rintro rfl
  unfold integerText at member
  split at member
  · exact (List.mem_cons.mp member).elim letter.2 (digits _)
  · exact digits _ member

/-- **Plain values** are spelled alike iff they differ only in the order of fields. -/
theorem spelling_eq_iff {a b : Json} (ha : a.Plain) (hb : b.Plain) :
    a.spelling = b.spelling ↔ Same a b := by
  refine ⟨fun h => ?_, fun same => compact_eq_iff.mp same.compact⟩
  induction a using Json.induction generalizing b with
  | list as ih =>
    cases b with
    | list bs =>
      rw [plain_list] at ha hb
      rw [spelling_list, spelling_list, Spelling.list.injEq, map_eq_map_iff_forall₂,
        List.forall₂_iff_zip] at h
      exact same_list_iff.mpr (List.forall₂_iff_zip.mpr ⟨h.1, fun pair =>
        have inside := List.of_mem_zip pair
        ih _ inside.1 (ha _ inside.1) (hb _ inside.2) (h.2 pair)⟩)
    | _ => cases h
  | object fs ih =>
    cases b with
    | object gs =>
      rw [plain_object] at ha hb
      rw [spelling_object, spelling_object, Spelling.object.injEq, map_eq_map_iff_forall₂,
        List.forall₂_iff_zip] at h
      refine same_object_of_sorted (List.forall₂_iff_zip.mpr ⟨h.1, fun {f g} pair => ?_⟩)
      have inside := List.of_mem_zip pair
      rw [mem_sortBy, mem_sortBy] at inside
      obtain ⟨names, values⟩ := Prod.mk.inj (h.2 pair)
      exact ⟨Text.units_inj (ha f inside.1).1 (hb g inside.2).1 names,
        ih f inside.1 (ha f inside.1).2 (hb g inside.2).2 values⟩
    | _ => cases h
  | other tree list object =>
    have null (i : Int) : integerText i ≠ "null".toList :=
      integerText_ne i (List.mem_cons_self : 'n' ∈ _) (by decide)
    have bool (i : Int) (b : Bool) : integerText i ≠ (if b then "true" else "false").toList := by
      cases b
      · exact integerText_ne i (List.mem_cons_self : 'f' ∈ _) (by decide)
      · exact integerText_ne i (List.mem_cons_self : 't' ∈ _) (by decide)
    match tree, b with
    | .null, .null => rfl
    | .bool true, .bool true | .bool false, .bool false => rfl
    | .int i, .int j =>
      rw [integerText_inj (Spelling.word.inj h)]
      rfl
    | .text s, .text s' =>
      rw [Text.units_inj ha hb (Spelling.string.inj h)]
      rfl
    | .null, .bool true | .null, .bool false | .bool true, .null | .bool false, .null
    | .bool true, .bool false | .bool false, .bool true => cases h
    | .int i, .null => exact absurd (Spelling.word.inj h) (null i)
    | .null, .int i => exact absurd (Spelling.word.inj h).symm (null i)
    | .int i, .bool b => exact absurd (Spelling.word.inj h) (bool i b)
    | .bool b, .int i => exact absurd (Spelling.word.inj h).symm (bool i b)
    | .list as, _ => exact absurd rfl (list as)
    | .object fs, _ => exact absurd rfl (object fs)

end CardinalityAdvisor.Json
