import CommentSpell.Sorting
import Mathlib.Data.List.Sort

/-!
# The sort in terms of the library

Sorting by a comparison is the insertion sort of the library (`sortBy_eq_insertionSort`), so what holds of
that one holds here: the result is in order (`pairwise_sortBy`), a list in order stays as it is
(`sortBy_eq_self`), and elements that compare equal keep their order (`filter_sortBy`).  The last two
determine the result (`eq_of_pairwise_of_filter_eq`).
-/

namespace CommentSpell

variable {α : Type}

/-- `sortBy le l` is the `List.insertionSort` of `l`. -/
theorem sortBy_eq_insertionSort (le : α → α → Bool) (l : List α) :
    sortBy le l = l.insertionSort fun a b => le a b := by
  have hinsert : ∀ (a : α) (l : List α), insertBy le a l = l.orderedInsert (fun a b => le a b) a := by
    intro a l
    induction l with
    | nil => rfl
    | cons b l ih => rw [insertBy, List.orderedInsert_cons, ih]
  induction l with
  | nil => rfl
  | cons a l ih =>
    rw [List.insertionSort_cons, ← ih, ← hinsert]
    rfl

theorem sortBy_eq_self {le : α → α → Bool} {l : List α}
    (h : l.Pairwise fun a b => le a b) : sortBy le l = l := by
  rw [sortBy_eq_insertionSort]
  exact h.insertionSort_eq

/-- `sortBy le l` is in order, if `le` is total and transitive. -/
theorem pairwise_sortBy {le : α → α → Bool} (htotal : ∀ a b, le a b ∨ le b a)
    (htrans : ∀ a b c, le a b → le b c → le a c) (l : List α) :
    (sortBy le l).Pairwise fun a b => le a b := by
  have : Std.Total fun a b => (le a b : Prop) := ⟨htotal⟩
  have : IsTrans α fun a b => (le a b : Prop) := ⟨htrans⟩
  rw [sortBy_eq_insertionSort]
  exact List.pairwise_insertionSort _ l

/-- `sortBy` is stable: if `le a b` for all `a` and `b` with `p a` and `p b`, then
`(sortBy le l).filter p = l.filter p`. -/
theorem filter_sortBy {le : α → α → Bool} {p : α → Bool} (h : ∀ a b, p a → p b → le a b)
    (l : List α) : (sortBy le l).filter p = l.filter p := by
  have hordered : (l.filter p).Pairwise fun a b => (le a b : Prop) :=
    List.pairwise_of_forall_mem_list fun a ha b hb =>
      h a b (List.mem_filter.mp ha).2 (List.mem_filter.mp hb).2
  have hsublist : (l.filter p).Sublist (sortBy le l) := by
    rw [sortBy_eq_insertionSort]
    exact List.sublist_insertionSort hordered List.filter_sublist
  have hfiltered := hsublist.filter p
  rw [List.filter_filter] at hfiltered
  simp only [Bool.and_self] at hfiltered
  exact (hfiltered.eq_of_length ((sortBy_perm le l).filter p).length_eq.symm).symm

section Key

variable {κ : Type} [DecidableEq κ] {key : α → κ} {l l' : List α}

theorem mem_iff_of_filter_eq (hfilter : ∀ k, l.filter (key · = k) = l'.filter (key · = k)) (a : α) :
    a ∈ l ↔ a ∈ l' := by
  have hiff : a ∈ l.filter (key · = key a) ↔ a ∈ l'.filter (key · = key a) := by
    rw [hfilter (key a)]
  simpa using hiff

/-- Two lists in order are equal if, for each key `k`, they have the same elements of key `k` in the
same order. -/
theorem eq_of_pairwise_of_filter_eq {le : α → α → Bool}
    (hkey : ∀ a b, le a b → le b a → key a = key b) (hl : l.Pairwise fun a b => le a b)
    (hl' : l'.Pairwise fun a b => le a b)
    (hfilter : ∀ k, l.filter (key · = k) = l'.filter (key · = k)) : l = l' := by
  induction l generalizing l' with
  | nil =>
    refine (List.eq_nil_iff_forall_not_mem.mpr fun a ha => ?_).symm
    exact List.not_mem_nil ((mem_iff_of_filter_eq hfilter a).mpr ha)
  | cons a l ih =>
    have hfirst := (mem_iff_of_filter_eq hfilter a).mp List.mem_cons_self
    cases l' with
    | nil => cases hfirst
    | cons b l' =>
      have hfirst' := (mem_iff_of_filter_eq hfilter b).mpr List.mem_cons_self
      obtain ⟨ha, hrest⟩ := List.pairwise_cons.mp hl
      obtain ⟨hb, hrest'⟩ := List.pairwise_cons.mp hl'
      -- each first element stands in the other list as well, so they have one key
      have hsame : key b = key a := by
        rcases List.mem_cons.mp hfirst with heq | hin
        · rw [heq]
        · rcases List.mem_cons.mp hfirst' with heq | hin'
          · rw [heq]
          · exact hkey b a (hb a hin) (ha b hin')
      have hheads := hfilter (key a)
      simp only [List.filter_cons, hsame, decide_true, if_true, List.cons.injEq] at hheads
      obtain ⟨rfl, -⟩ := hheads
      have htails : ∀ k, l.filter (key · = k) = l'.filter (key · = k) := by
        intro k
        have hcons := hfilter k
        rw [List.filter_cons, List.filter_cons] at hcons
        split at hcons
        · exact (List.cons.inj hcons).2
        · exact hcons
      rw [ih hrest hrest' htails]

end Key

end CommentSpell
