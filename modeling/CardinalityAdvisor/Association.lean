/-!
# Lists of keys with values

A list of keys with values keeps the order in which the keys came first.

## Main definitions

* `put key value entries`: the entries with one more, or with another value for a known key

## Main results

* `lookup_put`: what is found after an entry was put
* `lookup_eq_none_iff`, `put_of_unknown`: a key without an entry
-/

namespace CardinalityAdvisor

/-- The entries with one more at the end, or with another value in the place of a known key. -/
def put {α β : Type} [DecidableEq α] (key : α) (value : β) : List (α × β) → List (α × β)
  | [] => [(key, value)]
  | (other, old) :: rest =>
    if key = other then (other, value) :: rest else (other, old) :: put key value rest

/-- What is found after an entry was put. -/
theorem lookup_put {α β : Type} [DecidableEq α] (key other : α) (value : β)
    (entries : List (α × β)) :
    (put key value entries).lookup other =
      if other = key then some value else entries.lookup other := by
  induction entries with
  | nil =>
    by_cases h : other = key
    · simp [put, h]
    · simp [put, List.lookup_cons, h, beq_false_of_ne h]
  | cons entry rest ih =>
    obtain ⟨first, old⟩ := entry
    by_cases h : key = first
    · subst h
      by_cases h : other = key
      · simp [put, h]
      · simp [put, List.lookup_cons, h, beq_false_of_ne h]
    · by_cases h' : other = first
      · subst h'
        simp [put, h, Ne.symm h]
      · simp [put, List.lookup_cons, h, beq_false_of_ne h', ih]

section

variable {α β : Type} [DecidableEq α] {key : α} {entries : List (α × β)}

/-- Nothing is found under a key without an entry. -/
theorem lookup_eq_none_iff : entries.lookup key = none ↔ key ∉ entries.map Prod.fst := by
  simp only [List.lookup_eq_none_iff, List.mem_map, bne_iff_ne, ne_eq]
  constructor
  · rintro none ⟨entry, held, rfl⟩
    exact none entry held rfl
  · intro none entry held same
    exact none ⟨entry, held, same.symm⟩

/-- An entry for an unknown key comes last. -/
theorem put_of_unknown (value : β) (unknown : key ∉ entries.map Prod.fst) :
    put key value entries = entries ++ [(key, value)] := by
  induction entries with
  | nil => rfl
  | cons entry rest ih =>
    rw [List.map_cons, List.mem_cons, not_or] at unknown
    rw [put, if_neg unknown.1, ih unknown.2, List.cons_append]

end

end CardinalityAdvisor
