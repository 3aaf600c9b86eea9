/-!
# Sorting

Insertion sort by a comparison.  An element is placed before the first element that it does not
exceed, so elements that compare equal keep their order: the sort is stable.
-/

namespace CommentSpell

variable {α : Type}

/-- `insertBy le a l` is `l` with `a` placed before the first element `b` with `le a b`. -/
def insertBy (le : α → α → Bool) (a : α) : List α → List α
  | [] => [a]
  | b :: l => if le a b then a :: b :: l else b :: insertBy le a l

/-- `sortBy le l` are the elements of `l` in ascending order by `le`; equal elements keep their order. -/
def sortBy (le : α → α → Bool) (l : List α) : List α :=
  l.foldr (insertBy le) []

/-! ### Each element is kept -/

theorem insertBy_perm (le : α → α → Bool) (a : α) (l : List α) :
    (insertBy le a l).Perm (a :: l) := by
  induction l with
  | nil => exact .refl _
  | cons b l ih =>
    rw [insertBy]
    split
    · exact .refl _
    · exact (ih.cons b).trans (.swap a b l)

theorem sortBy_perm (le : α → α → Bool) (l : List α) : (sortBy le l).Perm l := by
  induction l with
  | nil => exact .refl _
  | cons a l ih => exact (insertBy_perm le a (sortBy le l)).trans (ih.cons a)

end CommentSpell
