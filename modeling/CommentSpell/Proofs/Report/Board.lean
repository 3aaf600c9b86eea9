import CommentSpell.Report.Board
import Mathlib.Data.List.Basic

/-!
# Reading the board

Setting the diagnostics of a document changes what is read for that document and nothing else.  Taking
diagnostics off leaves some of those that were there, in their order (`get_erase_sublist`,
`get_delete_sublist`).
-/

namespace CommentSpell.Board

theorem lookup_map_replaced {uri : Text} {diagnostics : List Diagnostic}
    {entries : List (Text × List Diagnostic)} (h : entries.any (·.1 == uri)) :
    (entries.map (replaced uri diagnostics)).lookup uri = some diagnostics := by
  induction entries with
  | nil => cases h
  | cons entry entries ih =>
    rw [List.map_cons, replaced]
    by_cases hkey : entry.1 == uri
    · rw [if_pos hkey, List.lookup_cons]
      have huri : uri == entry.1 := by
        rw [beq_iff_eq] at hkey ⊢
        exact hkey.symm
      rw [huri]
    · have huri : (uri == entry.1) = false := by
        rw [beq_iff_eq] at hkey
        exact beq_false_of_ne fun heq => hkey heq.symm
      rw [if_neg hkey, List.lookup_cons, huri]
      refine ih ?_
      rw [List.any_cons, Bool.or_eq_true] at h
      exact h.resolve_left hkey

theorem lookup_append_of_absent {uri : Text} {diagnostics : List Diagnostic}
    {entries : List (Text × List Diagnostic)} (h : ¬ entries.any (·.1 == uri)) :
    (entries ++ [(uri, diagnostics)]).lookup uri = some diagnostics := by
  have hnone : entries.lookup uri = none := by
    refine List.lookup_eq_none_iff.mpr fun entry hmem => ?_
    have hkey : (entry.1 == uri) = false := by
      rw [Bool.eq_false_iff]
      exact fun heq => h (List.any_eq_true.mpr ⟨entry, hmem, heq⟩)
    simpa using Ne.symm (ne_of_beq_false hkey)
  rw [List.lookup_append, hnone, Option.none_or, List.lookup_cons, beq_self_eq_true]

/-- `(board.set uri diagnostics).get uri = diagnostics`. -/
theorem get_set_self (board : Board) (uri : Text) (diagnostics : List Diagnostic) :
    (board.set uri diagnostics).get uri = diagnostics := by
  unfold get set
  split
  · rename_i hentry
    dsimp only
    rw [lookup_map_replaced hentry, Option.getD_some]
  · rename_i hentry
    dsimp only
    rw [lookup_append_of_absent hentry, Option.getD_some]

/-! ### Other documents -/

section Other

variable {uri other : Text}

theorem lookup_map_replaced_of_ne (h : other ≠ uri) (diagnostics : List Diagnostic)
    (entries : List (Text × List Diagnostic)) :
    (entries.map (replaced uri diagnostics)).lookup other = entries.lookup other := by
  induction entries with
  | nil => rfl
  | cons entry entries ih =>
    rw [List.map_cons, replaced]
    by_cases hkey : entry.1 == uri
    · have hother : (other == entry.1) = false := by
        rw [beq_iff_eq] at hkey
        rw [hkey]
        exact beq_false_of_ne h
      rw [if_pos hkey, List.lookup_cons, List.lookup_cons, hother, ih]
    · rw [if_neg hkey, List.lookup_cons, List.lookup_cons, ih]

theorem lookup_filter_of_ne (h : other ≠ uri) (entries : List (Text × List Diagnostic)) :
    (entries.filter (·.1 != uri)).lookup other = entries.lookup other := by
  induction entries with
  | nil => rfl
  | cons entry entries ih =>
    rw [List.filter_cons]
    by_cases hkey : entry.1 = uri
    · have hother : (other == entry.1) = false := by
        rw [hkey]
        exact beq_false_of_ne h
      rw [if_neg (by simp [hkey]), ih, List.lookup_cons, hother]
    · rw [if_pos (by simp [hkey]), List.lookup_cons, List.lookup_cons, ih]

/-- `(board.set uri diagnostics).get other = board.get other` if `other ≠ uri`. -/
theorem get_set_of_ne (h : other ≠ uri) (board : Board) (diagnostics : List Diagnostic) :
    (board.set uri diagnostics).get other = board.get other := by
  unfold get set
  split
  · dsimp only
    rw [lookup_map_replaced_of_ne h]
  · have hother : (other == uri) = false := beq_false_of_ne h
    simp [List.lookup_append, List.lookup_cons, hother]

end Other

/-! ### Taking diagnostics off -/

theorem get_erase_self (board : Board) (uri : Text) (diagnostic : Diagnostic) :
    (board.erase uri diagnostic).get uri = (board.get uri).filter (· ≠ diagnostic) := by
  unfold erase
  split
  · exact get_set_self _ _ _
  · rename_i habsent
    symm
    refine List.filter_eq_self.mpr fun other hmem => decide_eq_true fun heq => ?_
    exact habsent (heq ▸ hmem)

theorem get_erase_of_ne {uri other : Text} (h : other ≠ uri) (board : Board) (diagnostic : Diagnostic) :
    (board.erase uri diagnostic).get other = board.get other := by
  unfold erase
  split
  · exact get_set_of_ne h _ _
  · rfl

/-- `(board.erase uri diagnostic).get other` is a sublist of `board.get other`. -/
theorem get_erase_sublist (board : Board) (uri : Text) (diagnostic : Diagnostic) (other : Text) :
    ((board.erase uri diagnostic).get other).Sublist (board.get other) := by
  by_cases h : other = uri
  · rw [h, get_erase_self]
    exact List.filter_sublist
  · rw [get_erase_of_ne h]

theorem get_delete_self (board : Board) (uri : Text) : (board.delete uri).get uri = [] := by
  have hnone : (board.entries.filter (·.1 != uri)).lookup uri = none := by
    refine List.lookup_eq_none_iff.mpr fun entry hmem => ?_
    have hkey := (List.mem_filter.mp hmem).2
    rw [bne_iff_ne] at hkey
    simpa using hkey.symm
  unfold get delete
  dsimp only
  rw [hnone, Option.getD_none]

theorem get_delete_of_ne {uri other : Text} (h : other ≠ uri) (board : Board) :
    (board.delete uri).get other = board.get other := by
  unfold get delete
  dsimp only
  rw [lookup_filter_of_ne h]

theorem get_delete_sublist (board : Board) (uri other : Text) :
    ((board.delete uri).get other).Sublist (board.get other) := by
  by_cases h : other = uri
  · rw [h, get_delete_self]
    exact List.nil_sublist _
  · rw [get_delete_of_ne h]

/-- `board.erase uri diagnostic` takes `diagnostic` off alone, if those of `uri` all differ. -/
theorem erase_eq_set {board : Board} {uri : Text} {front behind : List Diagnostic}
    {diagnostic : Diagnostic} (hget : board.get uri = front ++ diagnostic :: behind)
    (hnodup : (board.get uri).Nodup) :
    board.erase uri diagnostic = board.set uri (front ++ behind) := by
  have hmem : diagnostic ∈ board.get uri := by simp [hget]
  rw [hget, List.perm_middle.nodup_iff, List.nodup_cons] at hnodup
  have hothers : (front ++ behind).filter (· ≠ diagnostic) = front ++ behind :=
    List.filter_eq_self.mpr fun other hother => decide_eq_true fun heq => hnodup.1 (heq ▸ hother)
  rw [erase, if_pos hmem, hget, List.filter_append, List.filter_cons_of_neg (by simp),
    ← List.filter_append, hothers]

end CommentSpell.Board
