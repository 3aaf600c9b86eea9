import CommentSpell.Report.Placement
import CommentSpell.Proofs.Text.Basic

/-!
# Where tokens are found

`StandsAt` says that a token stands as a whole at an offset.  The search gives the first such offset
from the cursor on, and nothing only if there is none (`isFirst_find?`).  Tokens that are located one
after the other stand where they are located, in order and apart from each other (`locate_spec`).
-/

namespace CommentSpell.Placement

/-- `StandsAt token text i` iff `token` stands in `text` at `i` as a whole: what is before and behind
it delimits a token. -/
structure StandsAt (token text : Text) (i : Nat) : Prop where
  le_length : i ≤ text.length
  reads : text.ReadsAt token i
  before : delimits (text.charBefore i)
  after : delimits text[i + token.length]?

/-! ### The search for one token -/

/-- The search for `token` stops at `rest`, behind `pre`, iff that is not before `cursor` and `token`
stands there. -/
theorem found_iff_standsAt {token pre rest : Text} {cursor : Nat} :
    (cursor ≤ pre.length && delimits pre.getLast? &&
        (Text.after? token rest).any fun following => delimits following.head?) = true
      ↔ cursor ≤ pre.length ∧ StandsAt token (pre ++ rest) pre.length := by
  have hdrop : (pre ++ rest).drop pre.length = rest := List.drop_left
  rw [Bool.and_eq_true, Bool.and_eq_true, decide_eq_true_eq, Option.any_eq_true, and_assoc]
  refine and_congr_right fun _ => ?_
  constructor
  · rintro ⟨hbefore, following, hafter, hdelimits⟩
    obtain rfl := Text.after?_eq_some_iff.mp hafter
    refine ⟨by simp, ?_, ?_, ?_⟩
    · rw [Text.ReadsAt, hdrop]
      exact List.prefix_append token following
    · rwa [Text.charBefore_length_append]
    · rwa [← List.append_assoc, ← List.length_append, ← List.head?_drop, List.drop_left]
  · rintro ⟨-, hreads, hbefore, hafter⟩
    rw [Text.ReadsAt, hdrop] at hreads
    obtain ⟨following, rfl⟩ := hreads
    rw [Text.charBefore_length_append] at hbefore
    rw [← List.append_assoc, ← List.length_append, ← List.head?_drop, List.drop_left] at hafter
    exact ⟨hbefore, following, Text.after?_eq_some_iff.mpr rfl, hafter⟩

/-- `IsFirst P base result` iff `result` is the first offset from `base` on with `P`, if there is one. -/
def IsFirst (P : Nat → Prop) (base : Nat) : Option Nat → Prop
  | some i => base ≤ i ∧ P i ∧ ∀ j, base ≤ j → j < i → ¬ P j
  | none => ∀ j, base ≤ j → ¬ P j

theorem IsFirst.step {P : Nat → Prop} {base : Nat} {result : Option Nat} (hbase : ¬ P base)
    (h : IsFirst P (base + 1) result) : IsFirst P base result := by
  cases result with
  | some i =>
    obtain ⟨hle, hi, hfirst⟩ := h
    refine ⟨by omega, hi, fun j hj hlt => ?_⟩
    rcases Nat.eq_or_lt_of_le hj with rfl | hj
    · exact hbase
    · exact hfirst j hj hlt
  | none =>
    intro j hj
    rcases Nat.eq_or_lt_of_le hj with rfl | hj
    · exact hbase
    · exact h j hj

theorem isFirst_findFrom (token : Text) (cursor : Nat) (rest : Text) : ∀ pre : Text,
    IsFirst (fun j => cursor ≤ j ∧ StandsAt token (pre ++ rest) j) pre.length
      (findFrom token cursor pre.getLast? pre.length rest) := by
  induction rest with
  | nil =>
    intro pre
    have hend : (token.isEmpty && cursor ≤ pre.length && delimits pre.getLast?) = true
        ↔ cursor ≤ pre.length ∧ StandsAt token (pre ++ []) pre.length := by
      rw [← found_iff_standsAt]
      cases token with
      | nil => simp [Text.after?, delimits]
      | cons c token => simp [Text.after?]
    rw [findFrom]
    split
    · rename_i hfound
      exact ⟨Nat.le_refl _, hend.mp hfound, fun j hj hlt => absurd hj (Nat.not_le.mpr hlt)⟩
    · rename_i hfound
      rintro j hj hstands
      -- behind the end of the text no token stands
      have hle := hstands.2.le_length
      rw [List.append_nil] at hle
      obtain rfl := Nat.le_antisymm hle hj
      exact hfound (hend.mpr hstands)
  | cons c rest ih =>
    intro pre
    rw [findFrom]
    split
    · rename_i hfound
      exact ⟨Nat.le_refl _, found_iff_standsAt.mp hfound,
        fun j hj hlt => absurd hj (Nat.not_le.mpr hlt)⟩
    · rename_i hfound
      have hrest := ih (pre ++ [c])
      rw [List.append_assoc, List.singleton_append, List.getLast?_concat, List.length_append,
        List.length_singleton] at hrest
      exact hrest.step fun hstands => hfound (found_iff_standsAt.mpr hstands)

theorem isFirst_find? (token text : Text) (cursor : Nat) :
    IsFirst (fun j => cursor ≤ j ∧ StandsAt token text j) 0 (find? token text cursor) :=
  isFirst_findFrom token cursor text []

/-- `find? token text cursor = some i` iff `i` is the first offset from `cursor` on at which `token`
stands in `text`. -/
theorem find?_eq_some_iff {token text : Text} {cursor i : Nat} :
    find? token text cursor = some i
      ↔ cursor ≤ i ∧ StandsAt token text i ∧ ∀ j, cursor ≤ j → j < i → ¬ StandsAt token text j := by
  have hfirst := isFirst_find? token text cursor
  constructor
  · intro hfound
    rw [hfound] at hfirst
    obtain ⟨-, ⟨hcursor, hstands⟩, hearlier⟩ := hfirst
    exact ⟨hcursor, hstands, fun j hj hlt hj' => hearlier j (Nat.zero_le j) hlt ⟨hj, hj'⟩⟩
  · rintro ⟨hcursor, hstands, hearlier⟩
    cases hfound : find? token text cursor with
    | none =>
      rw [hfound] at hfirst
      exact absurd ⟨hcursor, hstands⟩ (hfirst i (Nat.zero_le i))
    | some k =>
      rw [hfound] at hfirst
      obtain ⟨-, ⟨hcursor', hstands'⟩, hearlier'⟩ := hfirst
      rcases Nat.lt_trichotomy i k with hlt | rfl | hlt
      · exact absurd ⟨hcursor, hstands⟩ (hearlier' i (Nat.zero_le i) hlt)
      · rfl
      · exact absurd hstands' (hearlier k hcursor' hlt)

/-- `find? token text cursor = none` iff `token` stands nowhere in `text` from `cursor` on. -/
theorem find?_eq_none_iff {token text : Text} {cursor : Nat} :
    find? token text cursor = none ↔ ∀ i, cursor ≤ i → ¬ StandsAt token text i := by
  have hfirst := isFirst_find? token text cursor
  constructor
  · intro hnone i hi hstands
    rw [hnone] at hfirst
    exact hfirst i (Nat.zero_le i) ⟨hi, hstands⟩
  · intro h
    cases hfound : find? token text cursor with
    | none => rfl
    | some i =>
      obtain ⟨hcursor, hstands, -⟩ := find?_eq_some_iff.mp hfound
      exact absurd hstands (h i hcursor)

/-! ### Tokens one after the other -/

/-- The tokens of `locate text cursor misspellings` stand where they are located, behind `cursor`;
they are in order and do not overlap. -/
theorem locate_spec (text : Text) (cursor : Nat) (misspellings : List Misspelling) :
    (∀ p ∈ locate text cursor misspellings,
        cursor ≤ p.1 ∧ p.2 ∈ misspellings ∧ StandsAt p.2.token text p.1)
      ∧ (locate text cursor misspellings).Pairwise
          fun p q => p.1 + p.2.token.length ≤ q.1 := by
  induction misspellings generalizing cursor with
  | nil => exact ⟨fun _ h => absurd h List.not_mem_nil, List.Pairwise.nil⟩
  | cons m misspellings ih =>
    rw [locate]
    split
    · rename_i offset hfound
      obtain ⟨hcursor, hstands, -⟩ := find?_eq_some_iff.mp hfound
      obtain ⟨hlater, hpairwise⟩ := ih (offset + m.token.length)
      constructor
      · intro p hmem
        rcases List.mem_cons.mp hmem with rfl | hmem
        · exact ⟨hcursor, List.mem_cons_self, hstands⟩
        · obtain ⟨hle, hm, hp⟩ := hlater p hmem
          exact ⟨by omega, List.mem_cons_of_mem _ hm, hp⟩
      · exact List.pairwise_cons.mpr ⟨fun q hq => (hlater q hq).1, hpairwise⟩
    · obtain ⟨hlater, hpairwise⟩ := ih cursor
      refine ⟨fun p hmem => ?_, hpairwise⟩
      obtain ⟨hle, hm, hp⟩ := hlater p hmem
      exact ⟨hle, List.mem_cons_of_mem _ hm, hp⟩

/-- `locate text cursor misspellings = []` if no token of `misspellings` stands in `text`. -/
theorem locate_eq_nil {text : Text} {cursor : Nat} {misspellings : List Misspelling}
    (h : ∀ m ∈ misspellings, ∀ i, ¬ StandsAt m.token text i) :
    locate text cursor misspellings = [] := by
  induction misspellings with
  | nil => rfl
  | cons m misspellings ih =>
    obtain ⟨hm, hrest⟩ := List.forall_mem_cons.mp h
    rw [locate, find?_eq_none_iff.mpr fun i _ => hm i]
    exact ih hrest

end CommentSpell.Placement
