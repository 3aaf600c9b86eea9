import CommentSpell.Edit.Correction
import CommentSpell.Proofs.Edit.Batch
import CommentSpell.Proofs.Source.Rewrite
import CommentSpell.Proofs.Word.Verdict

/-!
# Correction keeps the comments of a text

The edits of a correction span whole comments, so applying them rewrites the text of each comment
and keeps the code (`applyAll_corrections`).  If suggestions are not empty and have no delimiter of
comments, a correction keeps the outline of a comment: what is replaced is a word of letters, which
is not empty and has no delimiter either.  By the theory of rewriting, the comments of the
corrected text are then the corrected comments (`corrections_keep_comments`).
-/

namespace CommentSpell

/-! ### Edits of whole comments -/

namespace Comment

/-- `rewriteEdit? f comment` is the edit that rewrites the text of `comment` with `f`, if that changes
it. -/
def rewriteEdit? (f : Text → Text) (comment : Comment) : Option TextEdit :=
  if f comment.text = comment.text then none else some ⟨comment.span, f comment.text⟩

theorem rewriteEdit?_eq_none_iff {f : Text → Text} {comment : Comment} :
    comment.rewriteEdit? f = none ↔ f comment.text = comment.text := by
  unfold rewriteEdit?
  split <;> simp_all

theorem rewriteEdit?_eq_some {f : Text → Text} {comment : Comment} {edit : TextEdit}
    (h : comment.rewriteEdit? f = some edit) :
    edit.span = comment.span ∧ edit.newText = f comment.text := by
  unfold rewriteEdit? at h
  split at h
  · cases h
  · obtain rfl := Option.some.inj h
    exact ⟨rfl, rfl⟩

/-- The edits of segments that begin at `start` do not reach back before it. -/
theorem start_le_of_mem_rewriteEdits (f : Text → Text) (segments : List (Segment Unit))
    (start : Nat) :
    ∀ edit ∈ (Segment.hitsFrom start segments).filterMap fun hit => (ofHit hit).rewriteEdit? f,
      start ≤ edit.span.start := by
  intro edit hmem
  obtain ⟨hit, hhit, hedit⟩ := List.mem_filterMap.mp hmem
  rw [(rewriteEdit?_eq_some hedit).1]
  exact Segment.start_le_of_mem_hitsFrom hhit

theorem rebuild_rewriteEdits (f : Text → Text) (segments : List (Segment Unit)) (start : Nat) :
    TextEdit.rebuild start (segments.flatMap Segment.text)
        ((Segment.hitsFrom start segments).filterMap fun hit => (ofHit hit).rewriteEdit? f)
      = segments.flatMap (Segment.replaced fun _ text => f text) := by
  induction segments generalizing start with
  | nil => rfl
  | cons segment segments ih =>
    rw [List.flatMap_cons, List.flatMap_cons]
    cases segment with
    | plain c =>
      rw [Segment.hitsFrom]
      have hkept := TextEdit.rebuild_append [c] (segments.flatMap Segment.text)
        (start_le_of_mem_rewriteEdits f segments (start + 1))
      rw [Segment.text, hkept, List.length_singleton, ih]
      rfl
    | hit value text =>
      rw [Segment.hitsFrom, List.filterMap_cons, Segment.text, Segment.replaced]
      cases hedit : (ofHit ⟨start, value, text⟩).rewriteEdit? f with
      | none =>
        -- the comment does not change, so its text is kept like code
        have hsame : f text = text := rewriteEdit?_eq_none_iff.mp hedit
        dsimp only
        rw [TextEdit.rebuild_append text _
          (start_le_of_mem_rewriteEdits f segments (start + text.length)), ih, hsame]
      | some edit =>
        obtain ⟨hspan, hnew⟩ := rewriteEdit?_eq_some hedit
        dsimp only
        rw [TextEdit.rebuild_cons (by rw [hspan]; rfl) (by rw [hspan]; rfl), ih, hnew]
        rfl

theorem apart_rewriteEdits (f : Text → Text) (source : Text) :
    TextEdit.Apart source.length ((extract source).filterMap (rewriteEdit? f)) := by
  have hcomments := areCommentsOf_extract source
  constructor
  · refine hcomments.ordered.filterMap (rewriteEdit? f) ?_
    intro a b hab edit hedit edit' hedit'
    rw [(rewriteEdit?_eq_some hedit).1, (rewriteEdit?_eq_some hedit').1]
    exact hab.2
  · intro edit hmem
    obtain ⟨comment, hcomment, hedit⟩ := List.mem_filterMap.mp hmem
    rw [(rewriteEdit?_eq_some hedit).1]
    exact hcomments.stop_le comment hcomment

/-- Applying the edits `rewriteEdit? f` of all comments gives `rewrite f source`. -/
theorem applyAll_rewriteEdits (f : Text → Text) (source : Text) :
    TextEdit.applyAll ((extract source).filterMap (rewriteEdit? f)) source
      = .ok (rewrite f source) := by
  rw [TextEdit.applyAll_eq_ok (apart_rewriteEdits f source), extract_eq_map, List.filterMap_map]
  have hrebuild := rebuild_rewriteEdits f (scan site source) 0
  rw [flatMap_text_scan] at hrebuild
  exact congrArg Except.ok hrebuild

end Comment

namespace Judge

/-- `judge.corrected text` is the comment text `text` with its misspellings corrected. -/
def corrected (judge : Judge) (text : Text) : Text :=
  Comment.correctedText (judge.misspellings text) text

/-- `judge.corrections source` are accepted, and make `source` into
`Comment.rewrite judge.corrected source`. -/
theorem applyAll_corrections (judge : Judge) (source : Text) :
    TextEdit.applyAll (judge.corrections source) source
      = .ok (Comment.rewrite judge.corrected source) :=
  Comment.applyAll_rewriteEdits judge.corrected source

end Judge

/-! ### Replacing words within outlines -/

namespace Text

theorem wordSite_eq_some {word : Text} {before : Option Char} {rest : Text} {value : Unit}
    {length : Nat} (h : wordSite word before rest = some (value, length)) :
    rest.take length = word := by
  unfold wordSite at h
  split at h
  · rename_i following hafter
    split at h
    · obtain ⟨-, rfl⟩ := Prod.mk.inj (Option.some.inj h)
      rw [after?_eq_some_iff.mp hafter, List.take_left]
    · cases h
  · cases h

/-- `replaceWholeWord word replacement text` keeps the outline of `text`, if `word` and `replacement`
are neither empty nor have delimiters. -/
theorem outline_replaceWholeWord {word replacement : Text} (hword : outline word = [none])
    (hreplacement : outline replacement = [none]) (text : Text) :
    outline (replaceWholeWord word replacement text) = outline text := by
  have hne : word.isEmpty = false := by
    cases word with
    | nil => cases hword
    | cons c word => rfl
  rw [replaceWholeWord, hne, if_neg Bool.false_ne_true]
  refine Eq.symm (substitute_rel (R := fun a b => outline a = outline b) rfl ?_ ?_ none text)
  · intro c a b hab
    rw [Outline.outline_cons, Outline.outline_cons, hab]
  · intro before rest value length a b hsite hab
    rw [wordSite_eq_some hsite]
    exact Outline.outline_append_congr (hword.trans hreplacement.symm) hab

end Text

/-- `correctedText misspellings text` keeps the outline of `text`, if all misspelled words and their
first suggestions are gaps in an outline. -/
theorem Comment.outline_correctedText {misspellings : List Misspelling} {text : Text}
    (h : ∀ m ∈ misspellings, outline m.cleaned = [none]
      ∧ ∀ best ∈ m.best?, outline best = [none]) :
    outline (correctedText misspellings text) = outline text := by
  induction misspellings generalizing text with
  | nil => rfl
  | cons m misspellings ih =>
    obtain ⟨hcleaned, hbest⟩ := h m List.mem_cons_self
    rw [correctedText, List.foldl_cons]
    refine (ih fun m' hm' => h m' (List.mem_cons_of_mem _ hm')).trans ?_
    split
    · rename_i best hsome
      exact Text.outline_replaceWholeWord hcleaned (hbest best hsome) text
    · rfl

namespace Judge

variable {judge : Judge}

/-- The letters of a misspelling are a gap in an outline, as there is at least one. -/
theorem outline_cleaned (hmin : 1 ≤ judge.minWordLength) {text : Text} {m : Misspelling}
    (hm : m ∈ judge.misspellings text) : outline m.cleaned = [none] := by
  obtain ⟨token, -, hflags, rfl⟩ := mem_misspellings_iff.mp hm
  have hlength := hflags.minWordLength_le
  refine Outline.outline_eq_gap (List.ne_nil_of_length_pos ?_) fun c hc => ?_
  · exact Nat.lt_of_lt_of_le hmin hlength
  · exact isDelimiter_eq_false_of_isAlpha (List.mem_filter.mp hc).2

theorem outline_best
    (hsuggest : ∀ word, ∀ suggestion ∈ judge.dictionary.suggest word,
      suggestion ≠ [] ∧ ∀ c ∈ suggestion, c ≠ '/' ∧ c ≠ '*' ∧ c ≠ '\r' ∧ c ≠ '\n')
    {text : Text} {m : Misspelling} (hm : m ∈ judge.misspellings text) :
    ∀ best ∈ m.best?, outline best = [none] := by
  obtain ⟨token, -, -, rfl⟩ := mem_misspellings_iff.mp hm
  intro best hbest
  obtain ⟨hne, hplain⟩ := hsuggest (cleanWord token) best (List.mem_of_mem_head? hbest)
  exact Outline.outline_eq_gap hne fun c hc => isDelimiter_eq_false_iff.mpr (hplain c hc)

/-- **Correction keeps the comments.** If no suggestion is empty or has a delimiter of comments,
`judge.corrections source` are accepted.  The comments of the result `after` are the corrected
comments, one for each comment of `source`, of the same kind and moved by the growth of those before
it; code and identifiers of `after` are those of `source`. -/
theorem corrections_keep_comments (hmin : 1 ≤ judge.minWordLength)
    (hsuggest : ∀ word, ∀ suggestion ∈ judge.dictionary.suggest word,
      suggestion ≠ [] ∧ ∀ c ∈ suggestion, c ≠ '/' ∧ c ≠ '*' ∧ c ≠ '\r' ∧ c ≠ '\n')
    (source : Text) :
    ∃ after, TextEdit.applyAll (judge.corrections source) source = .ok after
      ∧ (Comment.extract after).length = (Comment.extract source).length
      ∧ (∀ k comment, (Comment.extract source)[k]? = some comment →
          ∃ comment', (Comment.extract after)[k]? = some comment'
            ∧ comment'.text = Comment.correctedText (judge.misspellings comment.text) comment.text
            ∧ comment'.kind = comment.kind
            ∧ (comment'.start : Int) = comment.start
                + (((Comment.extract source).take k).map fun earlier =>
                    ((Comment.correctedText (judge.misspellings earlier.text)
                      earlier.text).length : Int) - earlier.text.length).sum)
      ∧ Comment.strip after = Comment.strip source
      ∧ Identifier.extract after = Identifier.extract source := by
  have houtline : ∀ text, outline (judge.corrected text) = outline text := fun text =>
    Comment.outline_correctedText fun m hm => ⟨outline_cleaned hmin hm, outline_best hsuggest hm⟩
  refine ⟨_, judge.applyAll_corrections source, ?_, ?_, ?_, ?_⟩
  · exact Comment.length_extract_rewrite houtline source
  · intro k comment hcomment
    exact Comment.extract_rewrite houtline hcomment
  · exact Comment.strip_rewrite houtline source
  · exact Comment.identifiers_rewrite houtline source

/-- Two comments with a word that is one letter too long keep their places and forms. -/
theorem corrections_keep_comments_single :
    let judge : Judge := .single "the".toList []
    let source := "f(); // teeh\n/* on teeh */ g".toList
    let after := "f(); // the\n/* on the */ g".toList
    1 ≤ judge.minWordLength
      ∧ (∀ word, ∀ suggestion ∈ judge.dictionary.suggest word,
          suggestion ≠ [] ∧ ∀ c ∈ suggestion, c ≠ '/' ∧ c ≠ '*' ∧ c ≠ '\r' ∧ c ≠ '\n')
      ∧ TextEdit.applyAll (judge.corrections source) source = .ok after
      ∧ (Comment.extract after).length = (Comment.extract source).length
      ∧ Comment.strip after = Comment.strip source
      ∧ Identifier.extract after = Identifier.extract source := by
  intro judge source after
  have hmin : 1 ≤ judge.minWordLength := by decide
  have hsuggest : ∀ word, ∀ suggestion ∈ judge.dictionary.suggest word,
      suggestion ≠ [] ∧ ∀ c ∈ suggestion, c ≠ '/' ∧ c ≠ '*' ∧ c ≠ '\r' ∧ c ≠ '\n' := by
    intro word suggestion hmem
    obtain rfl := List.mem_singleton.mp hmem
    simp
  have hafter : TextEdit.applyAll (judge.corrections source) source = .ok after := by rfl
  obtain ⟨after', hafter', hlength, -, hstrip, hidentifiers⟩ :=
    corrections_keep_comments hmin hsuggest source
  obtain rfl : after = after' := Except.ok.inj (hafter.symm.trans hafter')
  exact ⟨hmin, hsuggest, hafter, hlength, hstrip, hidentifiers⟩

end Judge

end CommentSpell
