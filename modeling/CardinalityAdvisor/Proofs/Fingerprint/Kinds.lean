import CardinalityAdvisor.Fingerprint.Clause
import CardinalityAdvisor.Proofs.Fingerprint.WellFormed
import CardinalityAdvisor.Proofs.Json.Spelling

/-!
# What a digested text says

Keys of six kinds are digests of texts in one space: multisets of numbers, classes of columns,
fingerprints with a join type, groups, samples and expressions. A text says which kind of key it is
for and what the key is made of. So two keys are the same only if they are of one kind and made of
the same parts, unless two different texts have the same digest.

## Main definitions

* `Parts`: what a key is made of
* `Parts.Agree`: two keys are of the same kind and made of the same parts
* `sampleTexts`: the texts that are digested on the way to the key of a sample

## Main results

* `Parts.text_eq_iff`: the text of a key says what the key is made of
* `Parts.agree_expression_iff`: expressions agree iff they have the same canonical form
* `keys_tell_parts`: keys are the same only for the same parts or by a collision
-/

namespace CardinalityAdvisor

namespace Json

/-- The canonical form of a node is an object again. -/
theorem exists_canonical_object (fields : List (String × Json)) :
    ∃ fields', canonical (.object fields) = .object fields' := by
  cases constant : isOnlyField "A_Const" fields with
  | true => exact ⟨_, canonical_constant constant⟩
  | false => exact ⟨_, canonical_fields constant⟩

/-- Nothing is written anew in a canonical form. -/
theorem Plain.canonical {tree : Json} (plain : tree.Plain) : (canonical tree).Plain := by
  induction tree using Json.induction with
  | list items ih =>
    rw [plain_list] at plain
    by_cases constants : items ≠ [] ∧ ∀ x ∈ items, x.isConstant = true
    · rw [canonical_constants constants.1 constants.2]
      decide
    · rw [canonical_list constants, plain_list, List.forall_mem_map]
      exact fun item inside => ih item inside (plain item inside)
  | object fields ih =>
    cases constant : isOnlyField "A_Const" fields with
    | true =>
      rw [canonical_constant constant]
      decide
    | false =>
      rw [plain_object] at plain
      rw [canonical_fields constant, plain_object, List.forall_mem_map]
      intro f member
      have inside := (List.mem_filter.mp member).1
      exact ⟨(plain f inside).1, ih f inside (plain f inside).2⟩
  | other tree list object =>
    rw [canonical_other list object]
    exact plain

end Json

namespace Fingerprint

/-- A sequence of texts without commas is told by its text. -/
theorem sequenceText_eq_iff {part part' : List Char} {parts parts' : List (List Char)}
    (clean : ∀ text ∈ part :: parts, ',' ∉ text) (clean' : ∀ text ∈ part' :: parts', ',' ∉ text) :
    sequenceText (part :: parts) = sequenceText (part' :: parts') ↔
      part = part' ∧ parts = parts' := by
  rw [← List.cons.injEq]
  constructor
  · intro h
    exact Json.commaSeparated_inj (List.append_cancel_right (List.cons.inj h).2)
      (List.cons_ne_nil _ _) (List.cons_ne_nil _ _) clean clean'
  · exact congrArg sequenceText

theorem integerText_eq_iff {i j : Int} : Json.integerText i = Json.integerText j ↔ i = j :=
  ⟨Json.integerText_inj, congrArg Json.integerText⟩

theorem joinName_eq_iff {join join' : JoinType} :
    join.name.toList = join'.name.toList ↔ join = join' := by
  constructor
  · cases join <;> cases join' <;> simp [JoinType.name]
  · rintro rfl
    rfl

/-! ## Parts of keys -/

/-- What a key is made of. -/
inductive Parts where
  /-- A multiset of numbers. -/
  | multiset (members : List Int)
  /-- A class of columns. -/
  | columns (block : List Int)
  /-- A fingerprint with the type of a join other than the inner join. -/
  | joined (join : JoinType) (outer : join ≠ .inner) (key : Int)
  /-- The key of an input with the grouping expressions. -/
  | groups (inputKey : Int) (exprs : List Json)
  /-- A feature space with relations and clauses. -/
  | sample (space : Int) (relations clauses : List Int)
  /-- A node. -/
  | expression (fields : List (String × Json))

namespace Parts

/-- The text that is digested. -/
def text : Parts → List Char
  | multiset members => multisetText members
  | columns block => classText block
  | joined join _ key => joinText join key
  | groups inputKey exprs => groupText inputKey exprs
  | sample space relations clauses => sampleText space relations clauses
  | expression fields => (canonical (.object fields)).compact

/-- The key. -/
def key : Parts → Int
  | multiset members => multisetKey members
  | columns block => classKey block
  | joined join _ key => foldJoin join key
  | groups inputKey exprs => groupKey inputKey exprs
  | sample space relations clauses => sampleKey space relations clauses
  | expression fields => expressionKey (.object fields)

/-- Two keys are of the same kind and made of the same parts. What was digested before is a part by
its digest. -/
def Agree : Parts → Parts → Prop
  | multiset members, multiset members' => members.Perm members'
  | columns block, columns block' => multisetKey block = multisetKey block'
  | joined join _ key, joined join' _ key' => join = join' ∧ key = key'
  | groups inputKey exprs, groups inputKey' exprs' => inputKey = inputKey' ∧
    multisetKey (exprs.map expressionKey) = multisetKey (exprs'.map expressionKey)
  | sample space relations clauses, sample space' relations' clauses' => space = space' ∧
    multisetKey relations = multisetKey relations' ∧ multisetKey clauses = multisetKey clauses'
  | expression fields, expression fields' =>
    (canonical (.object fields)).spelling = (canonical (.object fields')).spelling
  | _, _ => False

theorem key_eq (a : Parts) : a.key = digestOf a.text := by
  cases a with
  | joined join outer key => exact if_neg outer
  | _ => rfl

/-- The parts of the sequence that is digested, if the text is none of a multiset or a tree. -/
def sequence : Parts → Option (List Char × List (List Char))
  | columns block => some ("eclass".toList, [Json.integerText (multisetKey block)])
  | joined join _ key => some ("join".toList, [join.name.toList, Json.integerText key])
  | groups inputKey exprs => some ("group".toList, [Json.integerText inputKey,
      Json.integerText (multisetKey (exprs.map expressionKey))])
  | sample space relations clauses => some ("fss".toList, [Json.integerText space,
      Json.integerText (multisetKey relations), Json.integerText (multisetKey clauses)])
  | _ => none

/-- The bracket that a text begins with. -/
def bracket : Parts → Char
  | multiset _ => '['
  | expression _ => '\x7b'
  | _ => '('

theorem head_text (a : Parts) : a.text.head? = some a.bracket := by
  cases a with
  | expression fields =>
    obtain ⟨fields', same⟩ := Json.exists_canonical_object fields
    rw [text, same]
    rfl
  | _ => rfl

theorem Agree.bracket {a b : Parts} (agree : a.Agree b) : a.bracket = b.bracket := by
  cases a <;> cases b <;> first | rfl | exact agree.elim

/-- Every text in a round bracket is that of a sequence, and no part of it has a comma. -/
theorem exists_sequence {a : Parts} (h : a.bracket = '(') : ∃ word parts,
    a.sequence = some (word, parts) ∧ a.text = sequenceText (word :: parts) ∧
      ∀ text ∈ word :: parts, ',' ∉ text := by
  have name (join : JoinType) : ',' ∉ join.name.toList := by cases join <;> decide
  cases a with
  | multiset => simp [bracket] at h
  | expression => simp [bracket] at h
  | _ =>
    refine ⟨_, _, rfl, rfl, ?_⟩
    simp [Json.comma_not_mem_integerText, name]

theorem agree_iff_sequence {a b : Parts} {word word' : List Char} {parts parts' : List (List Char)}
    (ha : a.sequence = some (word, parts)) (hb : b.sequence = some (word', parts')) :
    a.Agree b ↔ word = word' ∧ parts = parts' := by
  cases a <;> cases b <;> cases ha <;> cases hb <;>
    simp [Agree, integerText_eq_iff, joinName_eq_iff]

theorem text_eq_of_sequence {a b : Parts} (ha : a.bracket = '(') (hb : b.bracket = '(') :
    a.text = b.text ↔ a.Agree b := by
  obtain ⟨word, parts, sequence, written, clean⟩ := exists_sequence ha
  obtain ⟨word', parts', sequence', written', clean'⟩ := exists_sequence hb
  rw [written, written', sequenceText_eq_iff clean clean', agree_iff_sequence sequence sequence']

/-- **The text of a key** says of which kind the key is and what it is made of. -/
theorem text_eq_iff (a b : Parts) : a.text = b.text ↔ a.Agree b := by
  -- The bracket in front tells multisets, nodes and sequences apart. All other kinds of keys are
  -- sequences, and are told apart by their first word.
  by_cases brackets : a.bracket = b.bracket
  · cases a with
    | multiset members =>
      cases b with
      | multiset members' => exact multisetText_eq_iff
      | _ => simp [bracket] at brackets
    | expression fields =>
      cases b with
      | expression fields' => exact Json.compact_eq_iff
      | _ => simp [bracket] at brackets
    | _ => exact text_eq_of_sequence rfl brackets.symm
  · refine iff_of_false (fun same => brackets ?_) (fun agree => brackets agree.bracket)
    rw [← Option.some.injEq, ← head_text, ← head_text, same]

/-- Expressions without doubles and halves of surrogate pairs agree iff they have the same canonical
form. -/
theorem agree_expression_iff {fields fields' : List (String × Json)}
    (plain : (Json.object fields).Plain) (plain' : (Json.object fields').Plain) :
    (expression fields).Agree (expression fields') ↔
      (canonical (.object fields)).Same (canonical (.object fields')) :=
  Json.spelling_eq_iff plain.canonical plain'.canonical

end Parts

/-! ## Keys -/

/-- Two different texts have the same digest. -/
def Collide (text text' : List Char) : Prop := text ≠ text' ∧ digestOf text = digestOf text'

instance (text text' : List Char) : Decidable (Collide text text') :=
  inferInstanceAs (Decidable (_ ∧ _))

/-- The texts that are digested for the key of a sample. -/
def sampleTexts (space : Int) (relations clauses : List Int) : List (List Char) :=
  [sampleText space relations clauses, multisetText relations, multisetText clauses]

/-- Keys of any kinds are the same only for the same parts or by a collision. -/
theorem Parts.agree_or_collide {a b : Parts} (same : a.key = b.key) :
    a.Agree b ∨ Collide a.text b.text := by
  rw [key_eq, key_eq] at same
  by_cases texts : a.text = b.text
  · exact .inl ((text_eq_iff a b).mp texts)
  · exact .inr ⟨texts, same⟩

theorem perm_or_collide {xs ys : List Int} (same : multisetKey xs = multisetKey ys) :
    xs.Perm ys ∨ Collide (multisetText xs) (multisetText ys) :=
  Parts.agree_or_collide (a := .multiset xs) (b := .multiset ys) same

/-- **Keys tell their parts.** The key of a sample does not depend on the order of the relations and
the clauses, and it tells the feature space and both multisets unless two different texts among
those that are digested have the same digest. Likewise the texts that are digested for keys of any
two kinds are the same only if the kinds are and the keys are made of the same parts, so that keys
of different kinds, or made of different parts, are confused only by a collision. -/
theorem keys_tell_parts :
    (∀ (space space' : Int) (relations relations' clauses clauses' : List Int),
      (space = space' ∧ relations.Perm relations' ∧ clauses.Perm clauses' →
        sampleKey space relations clauses = sampleKey space' relations' clauses') ∧
      (sampleKey space relations clauses = sampleKey space' relations' clauses' →
        space = space' ∧ relations.Perm relations' ∧ clauses.Perm clauses' ∨
          ∃ text ∈ sampleTexts space relations clauses,
            ∃ text' ∈ sampleTexts space' relations' clauses', Collide text text')) ∧
    (∀ a b : Parts, (a.text = b.text ↔ a.Agree b) ∧
      (a.key = b.key → a.Agree b ∨ Collide a.text b.text)) ∧
    ∀ fields fields' : List (String × Json),
      (Json.object fields).Plain → (Json.object fields').Plain →
        ((Parts.expression fields).Agree (.expression fields') ↔
          (canonical (.object fields)).Same (canonical (.object fields'))) := by
  refine ⟨fun space space' relations relations' clauses clauses' => ⟨?_, fun same => ?_⟩,
    fun a b => ⟨Parts.text_eq_iff a b, Parts.agree_or_collide⟩,
    fun _ _ => Parts.agree_expression_iff⟩
  · rintro ⟨rfl, sameRelations, sameClauses⟩
    rw [sampleKey, sampleKey, sampleText_of_perm space sameRelations sameClauses]
  · rcases Parts.agree_or_collide (a := .sample space relations clauses)
      (b := .sample space' relations' clauses') same with ⟨rfl, keys, keys'⟩ | collide
    · rcases perm_or_collide keys with sameRelations | collide
      · rcases perm_or_collide keys' with sameClauses | collide
        · exact .inl ⟨rfl, sameRelations, sameClauses⟩
        · exact .inr ⟨_, by simp [sampleTexts], _, by simp [sampleTexts], collide⟩
      · exact .inr ⟨_, by simp [sampleTexts], _, by simp [sampleTexts], collide⟩
    · exact .inr ⟨_, List.mem_cons_self, _, List.mem_cons_self, collide⟩

end Fingerprint

end CardinalityAdvisor
