import CommentSpell.Edit.Correction
import CommentSpell.Proofs.Text.Segment

/-!
# The comments of a text

The comments of a source text are stated without the scan.  A line comment is two slashes and the
longest run behind them without a line break (`IsLineSpan`); a block comment reaches from its opener
to the nearest closer that does not share the asterisk (`IsBlockSpan`); and a comment begins wherever
a text reads two slashes, or an opener with a closer somewhere behind it (`OpensAt`).

`extract_eq_iff_and_strip_eq`: the extracted comments are the one list of spans of these two forms
that stand in order, do not overlap and leave no beginning of a comment outside, and stripping
deletes just their characters.
-/

namespace CommentSpell.Comment

/-! ### The two forms -/

/-- `IsLineSpan source start stop` iff `source` reads a line comment from `start` to `stop`: two
slashes and the longest run of characters behind them that are no line breaks. -/
structure IsLineSpan (source : Text) (start stop : Nat) : Prop where
  opens : source.ReadsAt ['/', '/'] start
  opener_le : start + 2 ≤ stop
  stop_le : stop ≤ source.length
  unbroken : ∀ i, start + 2 ≤ i → i < stop → ∀ c ∈ source[i]?, Text.isLineBreak c = false
  longest : ∀ c ∈ source[stop]?, Text.isLineBreak c

/-- `IsBlockSpan source start stop` iff `source` reads a block comment from `start` to `stop`: an
opener, and all up to and including the nearest closer that begins behind it. -/
structure IsBlockSpan (source : Text) (start stop : Nat) : Prop where
  opens : source.ReadsAt ['/', '*'] start
  delimiters_le : start + 4 ≤ stop
  closes : source.ReadsAt ['*', '/'] (stop - 2)
  nearest : ∀ j, start + 2 ≤ j → source.ReadsAt ['*', '/'] j → stop ≤ j + 2

/-- `OpensAt source i` iff a comment begins at offset `i` of `source`: it reads two slashes there, or
an opener with a closer somewhere behind it. -/
def OpensAt (source : Text) (i : Nat) : Prop :=
  source.ReadsAt ['/', '/'] i
    ∨ source.ReadsAt ['/', '*'] i ∧ ∃ j, i + 2 ≤ j ∧ source.ReadsAt ['*', '/'] j

/-- `AreCommentsOf source comments` iff `comments` stand in order and do not overlap, each is the
slice of `source` that its span marks and has one of the two forms, and no comment begins outside of
them. -/
structure AreCommentsOf (source : Text) (comments : List Comment) : Prop where
  ordered : comments.Pairwise fun a b => a.start < b.start ∧ a.stop ≤ b.start
  stop_le : ∀ comment ∈ comments, comment.stop ≤ source.length
  slice_eq : ∀ comment ∈ comments, comment.span.slice source = comment.text
  form : ∀ comment ∈ comments,
    IsLineSpan source comment.start comment.stop ∨ IsBlockSpan source comment.start comment.stop
  complete : ∀ i, (∀ comment ∈ comments, i < comment.start ∨ comment.stop ≤ i) →
    ¬ OpensAt source i

/-! ### Recognising the forms at the start of a text -/

theorem closerEnd?_cons (c : Char) (rest : Text) :
    closerEnd? (c :: rest)
      = if ['*', '/'] <+: c :: rest then some 2 else (closerEnd? rest).map (· + 1) := by
  split
  · rename_i hprefix
    obtain ⟨following, hfollowing⟩ := hprefix
    rw [← hfollowing]
    rfl
  · rename_i hprefix
    rw [closerEnd?]
    rintro following hc hrest
    rw [hc, hrest] at hprefix
    exact hprefix ⟨following, rfl⟩

/-- `closerEnd? text = some n` iff a `*/` ends behind the first `n` characters of `text`, and none
ends earlier. -/
theorem closerEnd?_eq_some_iff {text : Text} {n : Nat} :
    closerEnd? text = some n
      ↔ 2 ≤ n ∧ text.ReadsAt ['*', '/'] (n - 2) ∧ ∀ j, text.ReadsAt ['*', '/'] j → n ≤ j + 2 := by
  induction text generalizing n with
  | nil =>
    have hnot : ∀ j, ¬ Text.ReadsAt [] ['*', '/'] j := by
      intro j hj
      have := hj.add_length_le (List.cons_ne_nil _ _)
      simp at this
    constructor
    · intro h
      cases h
    · rintro ⟨-, hreads, -⟩
      exact absurd hreads (hnot _)
  | cons c rest ih =>
    rw [closerEnd?_cons]
    split
    · rename_i hprefix
      rw [Option.some.injEq]
      constructor
      · rintro rfl
        exact ⟨Nat.le_refl 2, hprefix, fun j _ => Nat.le_add_left 2 j⟩
      · rintro ⟨hle, -, hnearest⟩
        have := hnearest 0 hprefix
        omega
    · rename_i hprefix
      -- no closer stands at the start, so all closers are those of the rest, one further on
      rw [Option.map_eq_some_iff]
      constructor
      · rintro ⟨m, hm, rfl⟩
        obtain ⟨hle, hreads, hnearest⟩ := ih.mp hm
        refine ⟨by omega, ?_, fun j hj => ?_⟩
        · rw [show m + 1 - 2 = m - 2 + 1 by omega, Text.readsAt_cons_succ]
          exact hreads
        · cases j with
          | zero => exact absurd hj hprefix
          | succ j =>
            have := hnearest j ((Text.readsAt_cons_succ _ _ _ _).mp hj)
            omega
      · rintro ⟨hle, hreads, hnearest⟩
        have hn : 2 < n := by
          rcases Nat.eq_or_lt_of_le hle with rfl | hlt
          · exact absurd hreads hprefix
          · exact hlt
        refine ⟨n - 1, ih.mpr ⟨by omega, ?_, fun j hj => ?_⟩, by omega⟩
        · rw [show n - 2 = n - 1 - 2 + 1 by omega, Text.readsAt_cons_succ] at hreads
          exact hreads
        · have := hnearest (j + 1) ((Text.readsAt_cons_succ _ _ _ _).mpr hj)
          omega

/-- `closerEnd? text` is a number iff `text` has a `*/`. -/
theorem closerEnd?_isSome_iff {text : Text} :
    (closerEnd? text).isSome ↔ ∃ j, text.ReadsAt ['*', '/'] j := by
  constructor
  · intro h
    obtain ⟨n, hn⟩ := Option.isSome_iff_exists.mp h
    exact ⟨_, (closerEnd?_eq_some_iff.mp hn).2.1⟩
  · rintro ⟨j, hj⟩
    induction text generalizing j with
    | nil =>
      have := hj.add_length_le (List.cons_ne_nil _ _)
      simp at this
    | cons c rest ih =>
      rw [closerEnd?_cons]
      split
      · rfl
      · rename_i hprefix
        cases j with
        | zero => exact absurd hj hprefix
        | succ j =>
          rw [Option.isSome_map]
          exact ih j ((Text.readsAt_cons_succ _ _ _ _).mp hj)

theorem length?_line (rest : Text) :
    length? ('/' :: '/' :: rest)
      = some (2 + (rest.takeWhile (!Text.isLineBreak ·)).length) := rfl

theorem length?_block (rest : Text) :
    length? ('/' :: '*' :: rest) = (closerEnd? rest).map (2 + ·) := rfl

theorem length?_eq_none {text : Text} (hline : ¬ ['/', '/'] <+: text)
    (hblock : ¬ ['/', '*'] <+: text) : length? text = none := by
  rw [length?]
  · rintro rest rfl
    exact hline ⟨rest, rfl⟩
  · rintro rest rfl
    exact hblock ⟨rest, rfl⟩

/-- `length? (c :: rest) = none` unless `c` is a slash. -/
theorem length?_eq_none_of_ne_slash {c : Char} (hc : c ≠ '/') (rest : Text) :
    length? (c :: rest) = none := by
  apply length?_eq_none
  · exact fun hprefix => hc (List.cons_prefix_cons.mp hprefix).1.symm
  · exact fun hprefix => hc (List.cons_prefix_cons.mp hprefix).1.symm

theorem length?_eq_none_of_not_opener {c d : Char} (h : ¬ (c = '/' ∧ (d = '/' ∨ d = '*')))
    (rest : Text) : length? (c :: d :: rest) = none := by
  apply length?_eq_none
  · intro hprefix
    obtain ⟨hc, hprefix⟩ := List.cons_prefix_cons.mp hprefix
    exact h ⟨hc.symm, Or.inl (List.cons_prefix_cons.mp hprefix).1.symm⟩
  · intro hprefix
    obtain ⟨hc, hprefix⟩ := List.cons_prefix_cons.mp hprefix
    exact h ⟨hc.symm, Or.inr (List.cons_prefix_cons.mp hprefix).1.symm⟩

/-- Behind `//`, `length?` is `some n` iff the first `n` characters are a line comment. -/
theorem length?_line_eq_some_iff {rest : Text} {n : Nat} :
    length? ('/' :: '/' :: rest) = some n ↔ IsLineSpan ('/' :: '/' :: rest) 0 n := by
  rw [length?_line, Option.some.injEq]
  constructor
  · rintro rfl
    obtain ⟨hle, hrun, hend⟩ := Text.length_takeWhile_eq_iff.mp
      (rfl : (rest.takeWhile (!Text.isLineBreak ·)).length = _)
    refine ⟨⟨rest, rfl⟩, by omega, by simp only [List.length_cons]; omega, ?_, ?_⟩
    · intro i hi hlt c hc
      obtain ⟨i, rfl⟩ := Nat.exists_eq_add_of_le hi
      rw [Nat.zero_add, Nat.add_comm, List.getElem?_cons_succ, List.getElem?_cons_succ] at hc
      simpa using hrun i (by omega) c hc
    · intro c hc
      rw [Nat.add_comm, List.getElem?_cons_succ, List.getElem?_cons_succ] at hc
      simpa using hend c hc
  · intro h
    have hle := h.opener_le
    have hlength := h.stop_le
    simp only [List.length_cons] at hlength
    have hrun : (rest.takeWhile (!Text.isLineBreak ·)).length = n - 2 := by
      refine Text.length_takeWhile_eq_iff.mpr ⟨by omega, fun i hi c hc => ?_, fun c hc => ?_⟩
      · have hbreak := h.unbroken (i + 2) (by omega) (by omega) c
          (by rw [List.getElem?_cons_succ, List.getElem?_cons_succ]; exact hc)
        simpa using hbreak
      · have hbreak := h.longest c
          (by rw [show n = n - 2 + 1 + 1 by omega, List.getElem?_cons_succ,
                List.getElem?_cons_succ]; exact hc)
        simpa using hbreak
    omega

/-- Behind `/*`, `length?` is `some n` iff the first `n` characters are a block comment. -/
theorem length?_block_eq_some_iff {rest : Text} {n : Nat} :
    length? ('/' :: '*' :: rest) = some n ↔ IsBlockSpan ('/' :: '*' :: rest) 0 n := by
  have hshift : ∀ j, Text.ReadsAt ('/' :: '*' :: rest) ['*', '/'] (j + 2)
      ↔ rest.ReadsAt ['*', '/'] j := by
    intro j
    rw [Text.readsAt_cons_succ, Text.readsAt_cons_succ]
  rw [length?_block, Option.map_eq_some_iff]
  constructor
  · rintro ⟨m, hm, rfl⟩
    obtain ⟨hle, hreads, hnearest⟩ := closerEnd?_eq_some_iff.mp hm
    refine ⟨⟨rest, rfl⟩, by omega, ?_, fun j hj hcloser => ?_⟩
    · rw [show 2 + m - 2 = m - 2 + 2 by omega, hshift]
      exact hreads
    · obtain ⟨j, rfl⟩ := Nat.exists_eq_add_of_le' hj
      have := hnearest j ((hshift j).mp hcloser)
      omega
  · intro h
    have hle := h.delimiters_le
    refine ⟨n - 2, closerEnd?_eq_some_iff.mpr ⟨by omega, ?_, fun j hj => ?_⟩, by omega⟩
    · have hcloses := h.closes
      rw [show n - 2 = n - 2 - 2 + 2 by omega, hshift] at hcloses
      exact hcloses
    · have := h.nearest (j + 2) (by omega) ((hshift j).mpr hj)
      omega

/-- `length? text = some n` iff the first `n` characters of `text` are a comment of one of the two
forms. -/
theorem length?_eq_some_iff {text : Text} {n : Nat} :
    length? text = some n ↔ IsLineSpan text 0 n ∨ IsBlockSpan text 0 n := by
  by_cases hline : ['/', '/'] <+: text
  · obtain ⟨rest, rfl⟩ := hline
    refine length?_line_eq_some_iff.trans (or_iff_left fun h => ?_).symm
    have hprefix : ['/', '*'] <+: '/' :: '/' :: rest := h.opens
    simp at hprefix
  · by_cases hblock : ['/', '*'] <+: text
    · obtain ⟨rest, rfl⟩ := hblock
      exact length?_block_eq_some_iff.trans (or_iff_right fun h => hline h.opens).symm
    · rw [length?_eq_none hline hblock]
      constructor
      · intro h
        cases h
      · rintro (h | h)
        · exact absurd h.opens hline
        · exact absurd h.opens hblock

/-- `length? text` is a number iff a comment begins at the start of `text`. -/
theorem length?_isSome_iff {text : Text} : (length? text).isSome ↔ OpensAt text 0 := by
  by_cases hline : ['/', '/'] <+: text
  · obtain ⟨rest, rfl⟩ := hline
    exact iff_of_true rfl (Or.inl ⟨rest, rfl⟩)
  · by_cases hblock : ['/', '*'] <+: text
    · obtain ⟨rest, rfl⟩ := hblock
      have hsome : (length? (['/', '*'] ++ rest)).isSome = (closerEnd? rest).isSome := by
        rw [List.cons_append, List.cons_append, List.nil_append, length?_block, Option.isSome_map]
      have hslashes : ¬ Text.ReadsAt (['/', '*'] ++ rest) ['/', '/'] 0 := hline
      have hopener : Text.ReadsAt (['/', '*'] ++ rest) ['/', '*'] 0 := ⟨rest, rfl⟩
      rw [hsome, closerEnd?_isSome_iff, OpensAt, or_iff_right hslashes, and_iff_right hopener]
      constructor
      · rintro ⟨j, hj⟩
        refine ⟨j + 2, by omega, ?_⟩
        rw [List.cons_append, List.cons_append, List.nil_append, Text.readsAt_cons_succ,
          Text.readsAt_cons_succ]
        exact hj
      · rintro ⟨j, hj, hreads⟩
        obtain ⟨j, rfl⟩ := Nat.exists_eq_add_of_le' hj
        rw [List.cons_append, List.cons_append, List.nil_append, Text.readsAt_cons_succ,
          Text.readsAt_cons_succ] at hreads
        exact ⟨j, hreads⟩
    · rw [length?_eq_none hline hblock]
      constructor
      · intro h
        cases h
      · rintro (h | ⟨h, -⟩)
        · exact absurd h hline
        · exact absurd h hblock

/-! ### The forms at an offset -/

theorem isLineSpan_drop {source : Text} {start n : Nat} :
    IsLineSpan (source.drop start) 0 n ↔ IsLineSpan source start (start + n) := by
  constructor
  · intro h
    have hlength := h.stop_le
    have hle := h.opener_le
    rw [List.length_drop] at hlength
    refine ⟨?_, by omega, by omega, fun i hi hlt c hc => ?_, fun c hc => ?_⟩
    · have hopens := h.opens
      rwa [Text.readsAt_drop] at hopens
    · obtain ⟨i, rfl⟩ := Nat.exists_eq_add_of_le (show start ≤ i by omega)
      exact h.unbroken i (by omega) (by omega) c (by rwa [List.getElem?_drop])
    · exact h.longest c (by rwa [List.getElem?_drop])
  · intro h
    have hlength := h.stop_le
    have hle := h.opener_le
    refine ⟨?_, by omega, by rw [List.length_drop]; omega, fun i hi hlt c hc => ?_, fun c hc => ?_⟩
    · rw [Text.readsAt_drop]
      exact h.opens
    · rw [List.getElem?_drop] at hc
      exact h.unbroken (start + i) (by omega) (by omega) c hc
    · rw [List.getElem?_drop] at hc
      exact h.longest c hc

theorem isBlockSpan_drop {source : Text} {start n : Nat} :
    IsBlockSpan (source.drop start) 0 n ↔ IsBlockSpan source start (start + n) := by
  constructor
  · intro h
    have hle := h.delimiters_le
    refine ⟨?_, by omega, ?_, fun j hj hcloser => ?_⟩
    · have hopens := h.opens
      rwa [Text.readsAt_drop] at hopens
    · have hcloses := h.closes
      rwa [Text.readsAt_drop, show start + (n - 2) = start + n - 2 by omega] at hcloses
    · obtain ⟨j, rfl⟩ := Nat.exists_eq_add_of_le (show start ≤ j by omega)
      have := h.nearest j (by omega) ((Text.readsAt_drop _ _ _ _).mpr hcloser)
      omega
  · intro h
    have hle := h.delimiters_le
    refine ⟨?_, by omega, ?_, fun j hj hcloser => ?_⟩
    · rw [Text.readsAt_drop]
      exact h.opens
    · rw [Text.readsAt_drop, show start + (n - 2) = start + n - 2 by omega]
      exact h.closes
    · have := h.nearest (start + j) (by omega) ((Text.readsAt_drop _ _ _ _).mp hcloser)
      omega

theorem opensAt_drop {source : Text} {i : Nat} :
    OpensAt (source.drop i) 0 ↔ OpensAt source i := by
  rw [OpensAt, OpensAt, Text.readsAt_drop, Text.readsAt_drop, Nat.add_zero]
  refine or_congr_right (and_congr_right fun _ => ?_)
  constructor
  · rintro ⟨j, hj, hcloser⟩
    exact ⟨i + j, by omega, (Text.readsAt_drop _ _ _ _).mp hcloser⟩
  · rintro ⟨j, hj, hcloser⟩
    obtain ⟨j, rfl⟩ := Nat.exists_eq_add_of_le (show i ≤ j by omega)
    exact ⟨j, by omega, (Text.readsAt_drop _ _ _ _).mpr hcloser⟩

/-! ### Comments as sites -/

theorem site_eq_some_iff {before : Option Char} {text : Text} {value : Unit} {n : Nat} :
    site before text = some (value, n) ↔ length? text = some n := by
  rw [site, Option.map_eq_some_iff]
  simp

theorem length?_le {text : Text} {n : Nat} (h : length? text = some n) : n ≤ text.length := by
  rcases length?_eq_some_iff.mp h with h | h
  · exact h.stop_le
  · have hcloses := h.closes.add_length_le (List.cons_ne_nil _ _)
    have hle := h.delimiters_le
    simp only [List.length_cons, List.length_nil] at hcloses
    omega

theorem two_le_length? {text : Text} {n : Nat} (h : length? text = some n) : 2 ≤ n := by
  rcases length?_eq_some_iff.mp h with h | h
  · have := h.opener_le
    omega
  · have := h.delimiters_le
    omega

theorem site_fits : site.Fits := by
  intro before text value n h
  exact length?_le (site_eq_some_iff.mp h)

theorem startsAt_iff {source : Text} {start n : Nat} {value : Unit} :
    site.StartsAt source start value n
      ↔ IsLineSpan source start (start + n) ∨ IsBlockSpan source start (start + n) := by
  rw [Site.StartsAt, site_eq_some_iff, ← isLineSpan_drop, ← isBlockSpan_drop,
    ← length?_eq_some_iff]
  refine and_iff_left_of_imp fun h => ?_
  have := two_le_length? h
  omega

theorem exists_startsAt_iff {source : Text} {i : Nat} :
    (∃ value n, site.StartsAt source i value n) ↔ OpensAt source i := by
  rw [← opensAt_drop, ← length?_isSome_iff, Option.isSome_iff_exists]
  constructor
  · rintro ⟨value, n, hsite, -⟩
    exact ⟨n, site_eq_some_iff.mp hsite⟩
  · rintro ⟨n, hn⟩
    have := two_le_length? hn
    exact ⟨(), n, site_eq_some_iff.mpr hn, by omega⟩

/-! ### From comment to comment -/

/-- The scan of `text` for comments does not depend on the character `before` it. -/
theorem scanFrom_eq_scan (before : Option Char) (text : Text) :
    scanFrom site before 0 text = scan site text :=
  scanFrom_congr rfl

/-- The scan of `c :: rest` keeps `c` and goes on with `rest`, if no comment begins at `c`. -/
theorem scan_cons {c : Char} {rest : Text} (h : length? (c :: rest) = none) :
    scan site (c :: rest) = .plain c :: scan site rest := by
  have hsite : site none (c :: rest) = none := by
    rw [site, h]
    rfl
  rw [scan, scanFrom_of_eq_none hsite, scanFrom_eq_scan]

/-- The scan of `text ++ rest` has a hit on `text` and goes on with `rest`, if `text` is the comment
at its start. -/
theorem scan_append {text rest : Text} (h : length? (text ++ rest) = some text.length) :
    scan site (text ++ rest) = .hit () text :: scan site rest := by
  have htwo := two_le_length? h
  obtain ⟨n, hn⟩ := Nat.exists_eq_add_of_le' (Nat.le_of_succ_le htwo)
  have hne : text ++ rest ≠ [] := by
    refine List.ne_nil_of_length_pos ?_
    rw [List.length_append]
    omega
  have hsite : site none (text ++ rest) = some ((), n + 1) := by
    rw [site_eq_some_iff, h, hn]
  rw [scan, scanFrom_hit hne hsite, ← hn, List.take_left, List.drop_left, scanFrom_eq_scan]

/-- Induction along a text, over the characters of the code and over whole comments. -/
theorem comment_induction {motive : Text → Prop} (nil : motive [])
    (code : ∀ c rest, length? (c :: rest) = none → motive rest → motive (c :: rest))
    (comment : ∀ text rest, length? (text ++ rest) = some text.length → motive rest →
      motive (text ++ rest)) (text : Text) : motive text := by
  refine scan_induction site (motive := fun _ text => motive text) (fun _ => nil) ?_ ?_ none text
  · intro before c rest hno ih
    refine code c rest ?_ ih
    rcases hlength : length? (c :: rest) with _ | length
    · rfl
    · obtain ⟨length, rfl⟩ := Nat.exists_eq_add_of_le' (two_le_length? hlength)
      exact absurd (site_eq_some_iff.mpr hlength) (hno () (length + 1))
  · intro before text value length hne hsite ih
    have hlength := site_eq_some_iff.mp hsite
    have htake := List.length_take_of_le (length?_le hlength)
    have hcomment := comment (text.take (length + 1)) (text.drop (length + 1))
    rw [List.take_append_drop, htake] at hcomment
    exact hcomment hlength ih

/-! ### The comments are the leftmost sites -/

/-- `toHit comment` is `comment` as a hit of the scan for comments. -/
def toHit (comment : Comment) : Hit Unit :=
  ⟨comment.start, (), comment.text⟩

/-- `ofHit hit` is `hit` of the scan for comments as a comment. -/
def ofHit (hit : Hit Unit) : Comment :=
  ⟨hit.text, hit.start⟩

theorem toHit_ofHit (hit : Hit Unit) : (ofHit hit).toHit = hit := rfl

theorem ofHit_toHit (comment : Comment) : ofHit comment.toHit = comment := rfl

theorem extract_eq_map (source : Text) : extract source = (sites site source).map ofHit := rfl

theorem span_slice (comment : Comment) (source : Text) :
    comment.span.slice source = (source.drop comment.start).take comment.text.length :=
  source.slice_ofLength _ _

/-- `AreCommentsOf source comments` iff `comments`, as hits, are the leftmost list from offset zero
on. -/
theorem areCommentsOf_iff {source : Text} {comments : List Comment} :
    AreCommentsOf source comments ↔ LeftmostFrom site source 0 (comments.map toHit) := by
  constructor
  · intro h
    refine ⟨fun _ _ => Nat.zero_le _, ?_, ?_, ?_, ?_⟩
    · exact List.pairwise_map.mpr (h.ordered.imp fun hab => hab.2)
    · rw [List.forall_mem_map]
      exact fun comment hmem => startsAt_iff.mpr (h.form comment hmem)
    · rw [List.forall_mem_map]
      intro comment hmem
      have hslice := h.slice_eq comment hmem
      rw [span_slice] at hslice
      exact hslice.symm
    · intro i _ hout value n hstarts
      refine h.complete i (fun comment hmem => ?_) (exists_startsAt_iff.mp ⟨value, n, hstarts⟩)
      exact hout comment.toHit (List.mem_map_of_mem hmem)
  · intro h
    refine ⟨?_, fun comment hmem => ?_, fun comment hmem => ?_, fun comment hmem => ?_, ?_⟩
    · refine (List.pairwise_map.mp h.apart).imp_of_mem fun {a b} ha _ hab => ?_
      have hlt : a.start < a.stop := h.start_lt_stop (List.mem_map_of_mem ha)
      have hle : a.stop ≤ b.start := hab
      omega
    · exact h.stop_le_length (List.mem_map_of_mem hmem)
    · rw [span_slice]
      exact (h.slice comment.toHit (List.mem_map_of_mem hmem)).symm
    · exact startsAt_iff.mp (h.isSite comment.toHit (List.mem_map_of_mem hmem))
    · intro i hout hopens
      obtain ⟨value, n, hstarts⟩ := exists_startsAt_iff.mpr hopens
      refine h.complete i (Nat.zero_le i) ?_ value n hstarts
      rw [List.forall_mem_map]
      exact hout

/-- `extract source` are the comments of `source`. -/
theorem areCommentsOf_extract (source : Text) : AreCommentsOf source (extract source) := by
  rw [areCommentsOf_iff, extract_eq_map, List.map_map]
  have hid : toHit ∘ ofHit = id := funext toHit_ofHit
  rw [hid, List.map_id]
  exact leftmostFrom_sites site_fits source

/-- `strip source` are the characters of `source` that lie in none of its comments. -/
theorem strip_eq_outside (source : Text) :
    strip source = source.outside fun i =>
      (extract source).any fun comment => comment.start ≤ i && i < comment.stop := by
  rw [strip, substitute_nil_eq_outside, extract_eq_map]
  congr 1
  funext i
  rw [List.any_map]
  rfl

/-- **The comments of a text.** `extract source` is the one list `comments` with
`AreCommentsOf source comments`: its spans stand in order without overlap, are slices of `source` in
one of the two forms, and leave no beginning of a comment outside.  `strip source` deletes exactly the
characters of these spans. -/
theorem extract_eq_iff_and_strip_eq (source : Text) :
    (∀ comments, extract source = comments ↔ AreCommentsOf source comments)
      ∧ strip source = source.outside fun i =>
          (extract source).any fun comment => comment.start ≤ i && i < comment.stop := by
  refine ⟨fun comments => ⟨?_, fun h => ?_⟩, strip_eq_outside source⟩
  · rintro rfl
    exact areCommentsOf_extract source
  · have hid : ofHit ∘ toHit = id := funext ofHit_toHit
    have hsites : sites site source = comments.map toHit :=
      (eq_sites_iff site_fits source _).mpr (areCommentsOf_iff.mp h)
    rw [extract_eq_map, hsites, List.map_map, hid, List.map_id]

end CommentSpell.Comment
