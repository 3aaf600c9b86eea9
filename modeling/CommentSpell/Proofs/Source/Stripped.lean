import CommentSpell.Proofs.Source.Identifier
import CommentSpell.Proofs.Source.Splice

/-!
# Stripped texts

When the comments of a text are deleted, pieces of code meet that stood apart.  Still no comment begins at a
seam.  A comment begins with a slash, so none follows a slash of the code: the two slashes would be a line
comment that begins before it.  What follows a slash of the code is therefore code, and it is there in the
stripped text as well (`length?_strip_eq_none`).  A closer can come about at a seam only where one was before
(`closerEnd?_strip_eq_none`), so no opener that had no closer gets one.

Hence a stripped text has no comment (`not_opensAt_strip`), and neither has any identifier, as what stands in
an identifier stands in the stripped text (`not_opensAt_of_mem_extract`).

Code without comments also stays so when a text follows it that closes nothing, so a comment on the next line
is the only one (`extract_trailing`).
-/

namespace CommentSpell.Comment

/-! ### Where comments begin -/

theorem opensAt_cons_succ {c : Char} {rest : Text} {i : Nat} :
    OpensAt (c :: rest) (i + 1) ↔ OpensAt rest i := by
  rw [← opensAt_drop, List.drop_succ_cons, opensAt_drop]

theorem not_opensAt_nil (i : Nat) : ¬ OpensAt [] i := by
  rw [← opensAt_drop, List.drop_nil, ← length?_isSome_iff]
  exact Bool.false_ne_true

/-- `extract source = []` iff no comment begins in `source`. -/
theorem extract_eq_nil_iff {source : Text} : extract source = [] ↔ ∀ i, ¬ OpensAt source i := by
  have hcomments := areCommentsOf_extract source
  constructor
  · intro hnil i
    apply hcomments.complete i
    rw [hnil]
    exact List.forall_mem_nil _
  · intro hopens
    refine List.eq_nil_iff_forall_not_mem.mpr fun comment hmem => hopens comment.start ?_
    rcases hcomments.form comment hmem with hline | hblock
    · exact Or.inl hline.opens
    · have hlength := hblock.delimiters_le
      exact Or.inr ⟨hblock.opens, comment.stop - 2, by omega, hblock.closes⟩

theorem length?_eq_none_iff {text : Text} : length? text = none ↔ ¬ OpensAt text 0 := by
  rw [← length?_isSome_iff, Option.not_isSome_iff_eq_none]

theorem strip_eq_self {source : Text} (h : ∀ i, ¬ OpensAt source i) : strip source = source := by
  induction source with
  | nil => rfl
  | cons c rest ih =>
    have hrest : strip rest = rest := ih fun i hopens => h (i + 1) (opensAt_cons_succ.mpr hopens)
    rw [strip_cons (length?_eq_none_iff.mpr (h 0)), hrest]

/-- If `part` stands in `text` at `i` and a comment begins at `j` in `part`, then one begins at
`i + j` in `text`. -/
theorem OpensAt.trans {text part : Text} {i j : Nat} (hpart : text.ReadsAt part i)
    (h : OpensAt part j) : OpensAt text (i + j) := by
  rcases h with hline | ⟨hblock, k, hle, hcloser⟩
  · exact Or.inl (hpart.trans hline)
  · exact Or.inr ⟨hpart.trans hblock, i + k, by omega, hpart.trans hcloser⟩

/-- A comment of `front ++ back` begins in `back`, if `front` has no slash. -/
theorem OpensAt.of_append {front back : Text} {i : Nat} (hfront : '/' ∉ front)
    (h : OpensAt (front ++ back) i) : ∃ j, OpensAt back j := by
  induction front generalizing i with
  | nil => exact ⟨i, h⟩
  | cons c front ih =>
    rw [List.mem_cons, not_or] at hfront
    cases i with
    | zero =>
      exact absurd h (length?_eq_none_iff.mp (length?_eq_none_of_ne_slash (Ne.symm hfront.1) _))
    | succ i => exact ih hfront.2 (opensAt_cons_succ.mp h)

/-! ### Code before a text -/

section Before

variable {code rest : Text} {i : Nat}

/-- A pair `c`, `d` that is read in `code ++ rest` from within `code` lies in `code`, unless `rest`
begins with `d`. -/
theorem readsAt_pair_of_append {c d : Char} (hi : i < code.length) (hhead : rest.head? ≠ some d)
    (h : Text.ReadsAt (code ++ rest) [c, d] i) : code.ReadsAt [c, d] i := by
  rcases Nat.lt_or_ge (i + 1) code.length with hlt | hge
  · exact (Text.readsAt_append_iff hlt).mp h
  · exfalso
    apply hhead
    have hsecond := Text.readsAt_iff_getElem?.mp h 1 (Nat.lt_succ_self 1)
    rw [show i + 1 = code.length by omega, List.getElem?_append_right (Nat.le_refl _), Nat.sub_self,
      ← List.head?_eq_getElem?] at hsecond
    exact hsecond

variable (hslash : rest.head? ≠ some '/') (hstar : rest.head? ≠ some '*')
  (hcloser : ∀ j, ¬ rest.ReadsAt ['*', '/'] j)

include hslash hstar hcloser

/-- A comment of `code ++ rest` that begins within `code` begins in `code`, as `rest` opens and closes
none of it. -/
theorem OpensAt.of_lt_length (hi : i < code.length) (h : OpensAt (code ++ rest) i) : OpensAt code i := by
  rcases h with hline | ⟨hblock, j, hle, hcloses⟩
  · exact Or.inl (readsAt_pair_of_append hi hslash hline)
  · refine Or.inr ⟨readsAt_pair_of_append hi hstar hblock, j, hle, ?_⟩
    rcases Nat.lt_or_ge j code.length with hlt | hge
    · exact readsAt_pair_of_append hlt hslash hcloses
    · obtain ⟨k, rfl⟩ := Nat.exists_eq_add_of_le hge
      rw [← Text.readsAt_drop, List.drop_left] at hcloses
      exact absurd hcloses (hcloser k)

/-- The scan of `code ++ rest` keeps `code` and goes on with `rest`, if no comment begins in `code`
and `rest` opens and closes none of it. -/
theorem scan_append_of_not_opensAt (hcode : ∀ i, ¬ OpensAt code i) :
    scan site (code ++ rest) = code.map .plain ++ scan site rest := by
  induction code with
  | nil => rfl
  | cons c code ih =>
    have hnone : length? (c :: (code ++ rest)) = none :=
      length?_eq_none_iff.mpr fun hopens =>
        hcode 0 (OpensAt.of_lt_length hslash hstar hcloser (Nat.succ_pos code.length) hopens)
    have hrest := ih fun i hopens => hcode (i + 1) (opensAt_cons_succ.mpr hopens)
    rw [List.cons_append, scan_cons hnone, hrest]
    rfl

end Before

/-- The `comment` on the line behind `code` is the only one of the text, if none begins in `code`. -/
theorem scan_trailing {code comment : Text} (hcode : ∀ i, ¬ OpensAt code i)
    (hcomment : length? comment = some comment.length) (hcloser : ∀ j, ¬ comment.ReadsAt ['*', '/'] j) :
    scan site (code ++ '\n' :: comment) = (code ++ ['\n']).map .plain ++ [.hit () comment] := by
  have hcloser' : ∀ j, ¬ Text.ReadsAt ('\n' :: comment) ['*', '/'] j := by
    intro j hreads
    cases j with
    | zero => exact absurd (List.cons_prefix_cons.mp hreads).1 (by decide)
    | succ j => exact hcloser j ((Text.readsAt_cons_succ _ _ _ _).mp hreads)
  have hhead : ∀ d, '\n' ≠ d → ('\n' :: comment).head? ≠ some d := fun d hd heq =>
    hd (Option.some.inj heq)
  have hrest : length? (comment ++ []) = some comment.length := by rwa [List.append_nil]
  have hscan := scan_append hrest
  rw [List.append_nil] at hscan
  rw [scan_append_of_not_opensAt (hhead '/' (by decide)) (hhead '*' (by decide)) hcloser' hcode,
    scan_cons (length?_eq_none_of_ne_slash (by decide) comment), hscan, List.map_append, List.append_assoc]
  rfl

theorem extract_trailing {code comment : Text} (hcode : ∀ i, ¬ OpensAt code i)
    (hcomment : length? comment = some comment.length) (hcloser : ∀ j, ¬ comment.ReadsAt ['*', '/'] j) :
    extract (code ++ '\n' :: comment) = [⟨comment, code.length + 1⟩] := by
  rw [extract, sites, scan_trailing hcode hcomment hcloser, Segment.hitsFrom_map_plain_append,
    Nat.zero_add, List.length_append, List.length_singleton]
  rfl

theorem strip_trailing {code comment : Text} (hcode : ∀ i, ¬ OpensAt code i)
    (hcomment : length? comment = some comment.length) (hcloser : ∀ j, ¬ comment.ReadsAt ['*', '/'] j) :
    strip (code ++ '\n' :: comment) = code ++ ['\n'] := by
  rw [strip, substitute, scan_trailing hcode hcomment hcloser, List.flatMap_append,
    Segment.flatMap_replaced_map_plain]
  exact List.append_nil _

/-! ### Seams -/

/-- `strip source` begins with a slash only if `source` does. -/
theorem slash_prefix_of_strip {source : Text} (h : ['/'] <+: strip source) : ['/'] <+: source := by
  cases source with
  | nil => exact h
  | cons c rest =>
    by_cases hc : c = '/'
    · exact ⟨rest, by rw [hc]; rfl⟩
    · rw [strip_cons (length?_eq_none_of_ne_slash hc rest)] at h
      exact absurd (List.cons_prefix_cons.mp h).1.symm hc

/-- `strip source` has no `*/` if `source` has none. -/
theorem closerEnd?_strip_eq_none {source : Text} (h : closerEnd? source = none) :
    closerEnd? (strip source) = none := by
  induction source using comment_induction with
  | nil => exact h
  | code c rest hnone ih =>
    rw [closerEnd?_cons] at h
    split at h
    · cases h
    · rename_i hno
      -- a comment behind an asterisk begins with a slash, so there is a closer at the asterisk already
      have hno' : ¬ ['*', '/'] <+: c :: strip rest := by
        intro hprefix
        obtain ⟨hstar, hslash⟩ := List.cons_prefix_cons.mp hprefix
        exact hno (List.cons_prefix_cons.mpr ⟨hstar, slash_prefix_of_strip hslash⟩)
      rw [strip_cons hnone, closerEnd?_cons, if_neg hno', ih (Option.map_eq_none_iff.mp h)]
      rfl
  | comment text rest hlength ih =>
    rw [strip_append hlength]
    exact ih (closerEnd?_eq_none_of_append h)

/-- If no comment begins at `c` in `c :: rest`, none begins there in `c :: strip rest`. -/
theorem length?_strip_eq_none {c : Char} {rest : Text} (h : length? (c :: rest) = none) :
    length? (c :: strip rest) = none := by
  by_cases hc : c = '/'
  · subst hc
    cases rest with
    | nil => exact h
    | cons d rest =>
      have hd : d ≠ '/' := by
        rintro rfl
        cases h
      rw [strip_cons (length?_eq_none_of_ne_slash hd rest)]
      by_cases hstar : d = '*'
      · subst hstar
        have hclosed := closerEnd?_strip_eq_none (Option.map_eq_none_iff.mp h)
        exact Option.map_eq_none_iff.mpr hclosed
      · exact length?_eq_none_of_not_opener (fun hopener => hopener.2.elim hd hstar) (strip rest)
  · exact length?_eq_none_of_ne_slash hc (strip rest)

/-- No comment begins in `strip source`. -/
theorem not_opensAt_strip (source : Text) (i : Nat) : ¬ OpensAt (strip source) i := by
  induction source using comment_induction generalizing i with
  | nil => exact not_opensAt_nil i
  | code c rest hnone ih =>
    rw [strip_cons hnone]
    cases i with
    | zero => exact length?_eq_none_iff.mp (length?_strip_eq_none hnone)
    | succ i =>
      rw [opensAt_cons_succ]
      exact ih i
  | comment text rest hlength ih =>
    rw [strip_append hlength]
    exact ih i

/-! ### Identifiers -/

/-- No comment begins in an identifier of `source`. -/
theorem not_opensAt_of_mem_extract {source identifier : Text}
    (h : identifier ∈ Identifier.extract source) (i : Nat) : ¬ OpensAt identifier i := by
  have hslash : Identifier.continuesName '/' = false := by decide
  intro hopens
  rcases Identifier.isName_or_eq_call_of_mem_extract h with
    hname | ⟨name, arguments, rfl, hname, -, before, behind, hcode⟩
  · rw [← List.append_nil identifier] at hopens
    obtain ⟨j, hj⟩ := hopens.of_append (hname.not_mem hslash)
    exact not_opensAt_nil j hj
  · -- the comment would begin in the arguments, and these stand in the code
    rw [Identifier.call, List.append_assoc] at hopens
    obtain ⟨j, hj⟩ := hopens.of_append (hname.not_mem hslash)
    have hpart : Text.ReadsAt (strip source) ('(' :: arguments ++ [')']) before.length :=
      ⟨behind, by rw [← hcode, List.append_assoc before, List.drop_left]⟩
    exact not_opensAt_strip source _ (hj.trans hpart)

/-- **Stripping leaves no comment**: no comment begins at any offset of `strip source`, so
`extract (strip source) = []` and `strip (strip source) = strip source`.  Its identifiers are those of
`source`, and no comment begins in any of them. -/
theorem extract_strip (source : Text) :
    extract (strip source) = []
      ∧ (∀ i, ¬ OpensAt (strip source) i)
      ∧ strip (strip source) = strip source
      ∧ Identifier.extract (strip source) = Identifier.extract source
      ∧ ∀ identifier ∈ Identifier.extract source, extract identifier = [] := by
  have hopens := not_opensAt_strip source
  have hstrip := strip_eq_self hopens
  refine ⟨extract_eq_nil_iff.mpr hopens, hopens, hstrip, ?_, fun identifier hmem => ?_⟩
  · rw [Identifier.extract, Identifier.extract, hstrip]
  · exact extract_eq_nil_iff.mpr (not_opensAt_of_mem_extract hmem)

-- A closer that is put together at a seam has no opener before it.
example : strip "a / 2 */**// b".toList = "a / 2 */ b".toList := by decide

end CommentSpell.Comment
