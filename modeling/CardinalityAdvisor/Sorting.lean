/-!
# Sorting by insertion

Fields of an object are written in the order of their names and the members of a multiset in the
order of their values. The lists are short, so they are sorted by insertion, which keeps equal
elements in their order.

## Main definitions

* `ascending`: the order of numbers and texts
* `insertBy le x xs`: `x` put before the first element that is not smaller
* `sortBy le xs`: the elements of `xs` in order

## Main results

* `sortBy_perm`: sorting keeps the elements and how often they occur
-/

namespace CardinalityAdvisor

/-- Whether `a` may stand before `b` in ascending order. -/
def ascending {α : Type} [LE α] [DecidableLE α] (a b : α) : Bool := decide (a ≤ b)

/-- The list with `x` put in front of the first element that `x` may precede. -/
def insertBy {α : Type} (le : α → α → Bool) (x : α) : List α → List α
  | [] => [x]
  | y :: ys => if le x y then x :: y :: ys else y :: insertBy le x ys

/-- The elements of the list in ascending order, equal ones in the order of the list. -/
def sortBy {α : Type} (le : α → α → Bool) : List α → List α
  | [] => []
  | x :: xs => insertBy le x (sortBy le xs)

theorem insertBy_perm {α : Type} (le : α → α → Bool) (x : α) (xs : List α) :
    (insertBy le x xs).Perm (x :: xs) := by
  induction xs with
  | nil => exact .refl _
  | cons y ys ih =>
    unfold insertBy
    split
    · exact .refl _
    · exact (ih.cons y).trans (.swap x y ys)

theorem sortBy_perm {α : Type} (le : α → α → Bool) (xs : List α) : (sortBy le xs).Perm xs := by
  induction xs with
  | nil => exact .refl _
  | cons x xs ih => exact (insertBy_perm le x _).trans (ih.cons x)

theorem mem_sortBy {α : Type} (le : α → α → Bool) {x : α} {xs : List α} :
    x ∈ sortBy le xs ↔ x ∈ xs :=
  (sortBy_perm le xs).mem_iff

end CardinalityAdvisor
