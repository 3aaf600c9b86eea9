import CommentSpell.Proofs.Report.Placement
import CommentSpell.Proofs.Source.Comment
import CommentSpell.Proofs.Word.Mask
import CommentSpell.Proofs.Word.Token
import CommentSpell.Proofs.Word.Verdict

/-!
# What a diagnostic marks

`MarksToken` says all that a spelling diagnostic promises about the source text: its span lies in a
comment, holds one whole token that no restated call touches, and the token is one that nothing
excuses.  Every diagnostic that is placed for a comment of a source keeps that promise
(`marksToken_of_mem_place`), and the diagnostics of a source are in order and do not overlap
(`pairwise_placeAll`).
-/

namespace CommentSpell

/-- `MarksToken judge source comment diagnostic` iff `diagnostic` marks a flagged token of `comment`,
which is one of `source`.  Its span lies in `comment`; what it marks is a token; in the masked text of
`comment`, what is before and behind it delimits tokens, and no blanked call touches it; nothing
excuses the token; and `diagnostic` has its letters as code, with the message for their suggestions. -/
structure MarksToken (judge : Judge) (source : Text) (comment : Comment)
    (diagnostic : Diagnostic) : Prop where
  start_le : comment.start ≤ diagnostic.span.start
  stop_le : diagnostic.span.stop ≤ comment.stop
  nonempty : diagnostic.span.slice source ≠ []
  tokenChars : ∀ c ∈ diagnostic.span.slice source, c ≠ ',' ∧ Text.isBlank c = false ∧ c ≠ '.'
  before : Placement.delimits
    ((maskCalls judge.identifiers comment.text).charBefore (diagnostic.span.start - comment.start))
  after : Placement.delimits
    (maskCalls judge.identifiers comment.text)[diagnostic.span.stop - comment.start]?
  unmasked : ∀ blanked ∈ blankedSpans judge.identifiers comment.text,
    diagnostic.span.stop ≤ comment.start + blanked.start
      ∨ comment.start + blanked.stop ≤ diagnostic.span.start
  flagged : judge.Flags (diagnostic.span.slice source)
  code_eq : diagnostic.code = cleanWord (diagnostic.span.slice source)
  message_eq : diagnostic.message = Hover.message (judge.dictionary.suggest diagnostic.code)

namespace MarksToken

variable {judge : Judge} {source : Text} {comment : Comment} {diagnostic : Diagnostic}

theorem start_lt_stop (h : MarksToken judge source comment diagnostic) :
    diagnostic.span.start < diagnostic.span.stop := by
  have hpos := List.length_pos_iff.mpr h.nonempty
  rw [Span.slice, List.length_take, Span.length] at hpos
  omega

theorem stop_le_length (h : MarksToken judge source comment diagnostic)
    (hcomment : comment ∈ Comment.extract source) : diagnostic.span.stop ≤ source.length :=
  Nat.le_trans h.stop_le ((Comment.areCommentsOf_extract source).stop_le comment hcomment)

end MarksToken

namespace Comment

theorem readsAt_of_mem_extract {source : Text} {comment : Comment} (h : comment ∈ extract source) :
    source.ReadsAt comment.text comment.start :=
  Text.readsAt_iff_slice_eq.mpr ((areCommentsOf_extract source).slice_eq comment h)

/-- A `token` that stands in `comment.text` at `offset` is the slice of `source` at
`comment.start + offset`. -/
theorem slice_eq_of_readsAt {source token : Text} {comment : Comment} (h : comment ∈ extract source)
    {offset : Nat} (hreads : comment.text.ReadsAt token offset) :
    (Span.ofLength (comment.start + offset) token.length).slice source = token :=
  Text.readsAt_iff_slice_eq.mp ((readsAt_of_mem_extract h).trans hreads)

/-- A `token` that stands in `maskCalls identifiers text` is not touched by a span of
`blankedSpans identifiers text`. -/
theorem apart_of_mem_blankedSpans {identifiers : List Text} {text token : Text} {offset : Nat}
    (hreads : (maskCalls identifiers text).ReadsAt token offset) (hne : token ≠ [])
    (hspace : ' ' ∉ token) {blanked : Span} (hmem : blanked ∈ blankedSpans identifiers text) :
    offset + token.length ≤ blanked.start ∨ blanked.stop ≤ offset := by
  by_contra hoverlap
  rw [not_or, Nat.not_le, Nat.not_le] at hoverlap
  have hnonempty := start_lt_stop_of_mem_blankedBy hmem
  -- an offset in both would hold a space and a character of the token
  obtain ⟨i, hi, hi', hblanked, hblanked'⟩ : ∃ i, offset ≤ i ∧ i < offset + token.length
      ∧ blanked.start ≤ i ∧ i < blanked.stop := by
    rcases Nat.le_total offset blanked.start with hle | hle
    · exact ⟨blanked.start, hle, hoverlap.1, Nat.le_refl _, hnonempty⟩
    · have hpos := List.length_pos_iff.mpr hne
      exact ⟨offset, Nat.le_refl _, Nat.lt_add_of_pos_right hpos, hle, hoverlap.2⟩
  have hblank := getElem?_of_mem_blankedSpans hmem hblanked hblanked'
  have hlt : i - offset < token.length := by omega
  have hchar := (List.prefix_iff_getElem?.mp hreads) (i - offset) hlt
  rw [List.getElem?_drop, show offset + (i - offset) = i by omega, hblank,
    Option.some.injEq] at hchar
  refine hspace ?_
  rw [hchar]
  exact List.getElem_mem hlt

/-- A diagnostic that is placed for `comment` marks a flagged `token` where it stands in the masked
text. -/
theorem exists_standsAt_of_mem_place {judge : Judge} {comment : Comment} {severity : Severity}
    {diagnostic : Diagnostic}
    (h : diagnostic
      ∈ comment.place (judge.misspellings comment.text) severity judge.identifiers) :
    ∃ offset token, Placement.StandsAt token (maskCalls judge.identifiers comment.text) offset
      ∧ token ∈ tokenize (maskCalls judge.identifiers comment.text) ∧ judge.Flags token
      ∧ diagnostic = comment.diagnosticAt severity offset (judge.misspellingOf token) := by
  obtain ⟨⟨offset, m⟩, hlocated, rfl⟩ := List.mem_map.mp h
  obtain ⟨-, hm, hstands⟩ := (Placement.locate_spec _ _ _).1 _ hlocated
  obtain ⟨token, htoken, hflags, rfl⟩ := Judge.mem_misspellings_iff.mp hm
  exact ⟨offset, token, hstands, htoken, hflags, rfl⟩

/-- A diagnostic that is placed for `comment` marks a flagged token of it. -/
theorem marksToken_of_mem_place {judge : Judge} {source : Text} {comment : Comment}
    (hcomment : comment ∈ extract source) {severity : Severity} {diagnostic : Diagnostic}
    (h : diagnostic
      ∈ comment.place (judge.misspellings comment.text) severity judge.identifiers) :
    MarksToken judge source comment diagnostic := by
  obtain ⟨offset, token, hstands, htoken, hflags, rfl⟩ := exists_standsAt_of_mem_place h
  have hne := ne_nil_of_mem_tokenize htoken
  have hspace := space_not_mem_of_mem_tokenize htoken
  -- what is not blank in the masked text is the same in the comment, and so in the source
  have htext := (blanked_maskCalls _ _).readsAt hstands.reads hspace
  have hstop := htext.add_length_le hne
  have hslice := slice_eq_of_readsAt hcomment htext
  refine
    { start_le := Nat.le_add_right _ _
      stop_le := ?_
      nonempty := ?_
      tokenChars := ?_
      before := ?_
      after := ?_
      unmasked := ?_
      flagged := ?_
      code_eq := ?_
      message_eq := rfl }
  · show comment.start + offset + token.length ≤ comment.stop
    rw [stop]
    omega
  · exact hslice.symm ▸ hne
  · intro c hc
    exact isTokenChar_iff.mp (isTokenChar_of_mem_tokenize htoken (hslice ▸ hc))
  · show Placement.delimits (Text.charBefore _ (comment.start + offset - comment.start))
    rw [Nat.add_sub_cancel_left]
    exact hstands.before
  · show Placement.delimits
      (maskCalls judge.identifiers comment.text)[comment.start + offset + token.length
        - comment.start]?
    rw [Nat.add_assoc, Nat.add_sub_cancel_left]
    exact hstands.after
  · intro blanked hblanked
    show comment.start + offset + token.length ≤ _ ∨ _ ≤ comment.start + offset
    have := apart_of_mem_blankedSpans hstands.reads hne hspace hblanked
    omega
  · exact hslice.symm ▸ hflags
  · exact congrArg cleanWord hslice.symm

/-- The diagnostics of `comment.place` are in order and do not overlap. -/
theorem pairwise_place (comment : Comment) (misspellings : List Misspelling) (severity : Severity)
    (identifiers : List Text) :
    (comment.place misspellings severity identifiers).Pairwise
      fun a b => a.span.stop ≤ b.span.start := by
  refine List.pairwise_map.mpr ((Placement.locate_spec _ _ _).2.imp ?_)
  intro p q hpq
  show comment.start + p.1 + p.2.token.length ≤ comment.start + q.1
  omega

end Comment

/-- Diagnostics in strictly increasing order are all different. -/
theorem Diagnostic.nodup_of_pairwise {diagnostics : List Diagnostic}
    (h : diagnostics.Pairwise fun a b => a.span.start < b.span.start ∧ a.span.stop ≤ b.span.start) :
    diagnostics.Nodup :=
  h.imp fun hab heq => by simp [heq] at hab

namespace Judge

/-- `judge.placeAll severity source` are the diagnostics of all comments of `source`, comment by
comment. -/
def placeAll (judge : Judge) (severity : Severity) (source : Text) : List Diagnostic :=
  (Comment.extract source).flatMap fun comment =>
    comment.place (judge.misspellings comment.text) severity judge.identifiers

theorem exists_marksToken_of_mem_placeAll {judge : Judge} {severity : Severity} {source : Text}
    {diagnostic : Diagnostic} (h : diagnostic ∈ judge.placeAll severity source) :
    ∃ comment ∈ Comment.extract source, MarksToken judge source comment diagnostic := by
  obtain ⟨comment, hcomment, hplace⟩ := List.mem_flatMap.mp h
  exact ⟨comment, hcomment, Comment.marksToken_of_mem_place hcomment hplace⟩

/-- `judge.placeAll severity source` are in strictly increasing order and do not overlap. -/
theorem pairwise_placeAll (judge : Judge) (severity : Severity) (source : Text) :
    (judge.placeAll severity source).Pairwise
      fun a b => a.span.start < b.span.start ∧ a.span.stop ≤ b.span.start := by
  have hapart : (judge.placeAll severity source).Pairwise
      fun a b => a.span.stop ≤ b.span.start := by
    refine List.pairwise_flatMap.mpr ⟨fun comment _ => comment.pairwise_place _ _ _, ?_⟩
    -- diagnostics lie in their comments, and the comments are apart
    refine (Comment.areCommentsOf_extract source).ordered.imp_of_mem ?_
    intro a b ha hb hab x hx y hy
    have hxa := (Comment.marksToken_of_mem_place ha hx).stop_le
    have hyb := (Comment.marksToken_of_mem_place hb hy).start_le
    omega
  refine hapart.imp_of_mem fun {a b} ha _ hab => ⟨?_, hab⟩
  obtain ⟨comment, -, hmarks⟩ := exists_marksToken_of_mem_placeAll ha
  exact Nat.lt_of_lt_of_le hmarks.start_lt_stop hab

end Judge

end CommentSpell
