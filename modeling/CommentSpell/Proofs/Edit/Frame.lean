import CommentSpell.Proofs.Edit.Correction
import CommentSpell.Proofs.Edit.WordByWord

/-!
# What a correction leaves alone

Suggestions may be any texts.  They may hold a word that a later pass replaces, or nothing at all, so one
word of a comment may be rewritten several times.  Each pass keeps the rewritten words apart, as what stands
between two of them is no word character and is never touched.  So a correction keeps all characters
outside the words of its comments, and a word for which there is an excuse is no misspelling and is kept
(`Judge.correctedText_of_excuses`).

Between the comments stands the code.  The corrected source is the slices of code as they were, with the
corrected comments between them (`Comment.rewrite_eq_interleave`).
-/

namespace CommentSpell

namespace Comment

/-! ### Code and comments in turn -/

/-- `interleave f source cursor comments` is `source` from `cursor` on, with `f` of the text of each
of `comments` between the slices of `source` that they leave. -/
def interleave (f : Text → Text) (source : Text) : (cursor : Nat) → List Comment → Text
  | cursor, [] => source.drop cursor
  | cursor, comment :: comments =>
    (source.drop cursor).take (comment.start - cursor) ++ f comment.text
      ++ interleave f source comment.stop comments

variable {f : Text → Text} {source : Text} {cursor : Nat}

/-- `interleave` keeps the code before the first comment. -/
theorem interleave_append {kept rest : Text} {comments : List Comment}
    (hdrop : source.drop cursor = kept ++ rest)
    (h : ∀ comment ∈ comments, cursor + kept.length ≤ comment.start) :
    interleave f source cursor comments
      = kept ++ interleave f source (cursor + kept.length) comments := by
  have hrest : source.drop (cursor + kept.length) = rest := by
    rw [← List.drop_drop, hdrop, List.drop_left]
  cases comments with
  | nil => rw [interleave, interleave, hdrop, hrest]
  | cons comment comments =>
    have hstart := h comment List.mem_cons_self
    have htake : (kept ++ rest).take (comment.start - cursor)
        = kept ++ rest.take (comment.start - (cursor + kept.length)) := by
      rw [List.take_append, List.take_of_length_le (by omega), Nat.sub_sub]
    rw [interleave, interleave, hdrop, htake, hrest, List.append_assoc, List.append_assoc,
      List.append_assoc]

theorem interleave_hitsFrom (f : Text → Text) {source : Text} {segments : List (Segment Unit)}
    {start : Nat} (h : source.drop start = segments.flatMap Segment.text) :
    interleave f source start ((Segment.hitsFrom start segments).map ofHit)
      = segments.flatMap (Segment.replaced fun _ text => f text) := by
  induction segments generalizing start with
  | nil => exact h
  | cons segment segments ih =>
    rw [List.flatMap_cons] at h ⊢
    have hrest : source.drop (start + segment.text.length) = segments.flatMap Segment.text := by
      rw [← List.drop_drop, h, List.drop_left]
    cases segment with
    | plain c =>
      have hlater : ∀ comment ∈ (Segment.hitsFrom (start + 1) segments).map ofHit,
          start + [c].length ≤ comment.start :=
        List.forall_mem_map.mpr fun hit hmem => Segment.start_le_of_mem_hitsFrom hmem
      rw [Segment.hitsFrom, interleave_append h hlater]
      exact congrArg ([c] ++ ·) (ih hrest)
    | hit value text =>
      rw [Segment.hitsFrom, List.map_cons, interleave]
      have hbefore : (source.drop start).take ((ofHit ⟨start, value, text⟩).start - start) = [] := by
        rw [ofHit, Nat.sub_self, List.take_zero]
      rw [hbefore, List.nil_append]
      exact congrArg (f text ++ ·) (ih hrest)

/-- `rewrite f source = interleave f source 0 (extract source)`. -/
theorem rewrite_eq_interleave (f : Text → Text) (source : Text) :
    rewrite f source = interleave f source 0 (extract source) := by
  have hsource : source.drop 0 = (scan site source).flatMap Segment.text :=
    (flatMap_text_scan site source).symm
  exact (interleave_hitsFrom f hsource).symm

end Comment

namespace Judge

variable {judge : Judge}

/-! ### Which edits there are -/

/-- The spans of `judge.corrections source` are spans of comments of `source`, in their order and each
taken once at most. -/
theorem map_span_corrections_sublist (judge : Judge) (source : Text) :
    ((judge.corrections source).map TextEdit.span).Sublist
      ((Comment.extract source).map Comment.span) := by
  unfold corrections
  induction Comment.extract source with
  | nil => exact List.Sublist.refl []
  | cons comment comments ih =>
    rw [List.filterMap_cons, List.map_cons]
    cases hedit : comment.correction? (judge.misspellings comment.text) with
    | none => exact ih.cons _
    | some edit =>
      have hspan : edit.span = comment.span :=
        (Comment.rewriteEdit?_eq_some (f := judge.corrected) hedit).1
      rw [List.map_cons, hspan]
      exact ih.cons_cons _

/-! ### Which words are kept -/

/-- A word `run` of a comment that something excuses stays as it is. -/
theorem correctedText_of_excuses (hmin : 1 ≤ judge.minWordLength) {text run : Text}
    (hrun : run ∈ Text.runTexts Text.isAsciiWord text) (h : judge.Excuses run) :
    Comment.correctedText (judge.misspellings text) run = run :=
  Comment.correctedText_word_eq_self (cleanedAreWords hmin text) (Text.ne_nil_of_mem_runTexts hrun)
    (Text.of_mem_runTexts hrun) fun _ hm => cleaned_ne_of_excuses h hm

/-- **The frame of a correction**, whatever texts the dictionary suggests.  `judge.corrections source`
are accepted, stand in the order of `source`, and each spans one comment, no two of them the same.  The
result is the code of `source`, with the corrected comments between its slices.  In each comment, only
maximal runs of word characters are `rewritten`, each by itself, and `rewritten run = run` if `run` is
an identifier, is ignored, is accepted by the dictionary or is too short. -/
theorem corrections_frame (hmin : 1 ≤ judge.minWordLength) (source : Text) :
    ((judge.corrections source).map TextEdit.span).Sublist ((Comment.extract source).map Comment.span)
      ∧ ((judge.corrections source).Pairwise fun a b => a.span.stop ≤ b.span.start)
      ∧ TextEdit.applyAll (judge.corrections source) source
          = .ok (Comment.interleave judge.corrected source 0 (Comment.extract source))
      ∧ ∀ comment ∈ Comment.extract source,
          ∃ rewritten : Text → Text,
            judge.corrected comment.text
                = Text.mapRuns Text.isAsciiWord rewritten comment.text
              ∧ ∀ run ∈ Text.runTexts Text.isAsciiWord comment.text,
                  run ∈ judge.identifiers ∨ run ∈ judge.ignored ∨ judge.dictionary.check run
                    ∨ run.length < judge.minWordLength → rewritten run = run := by
  refine ⟨judge.map_span_corrections_sublist source,
    (Comment.apart_rewriteEdits judge.corrected source).ordered, ?_, fun comment _ => ?_⟩
  · rw [judge.applyAll_corrections, Comment.rewrite_eq_interleave]
  · exact ⟨Comment.correctedText (judge.misspellings comment.text),
      Comment.correctedText_eq_mapRuns (cleanedAreWords hmin comment.text) comment.text,
      fun run hrun hexcuse => correctedText_of_excuses hmin hrun hexcuse⟩

/-- One suggestion holds a word that a later pass deletes.  What stands around it is kept, and so are a
word of the code, an ignored one, a short one and an accepted one. -/
theorem corrections_frame_chained :
    let judge : Judge :=
      { dictionary :=
          { check := (· == "good".toList)
            suggest := fun word =>
              if word = "teh".toList then ["zzz, x".toList]
              else if word = "zzz".toList then [[]] else [] }
        minWordLength := 3
        identifiers := ["foo".toList]
        ignored := ["qqq".toList] }
    let source := "foo(); // teh zzz: foo qqq, ok good\n/* zzz */ g".toList
    let comment : Comment := ⟨"// teh zzz: foo qqq, ok good".toList, 7⟩
    1 ≤ judge.minWordLength
      ∧ comment ∈ Comment.extract source
      ∧ TextEdit.applyAll (judge.corrections source) source
          = .ok "foo(); // , x : foo qqq, ok good\n/*  */ g".toList
      ∧ ∃ rewritten : Text → Text,
          judge.corrected comment.text = Text.mapRuns Text.isAsciiWord rewritten comment.text
            ∧ ∀ run ∈ ["foo", "qqq", "ok", "good"].map String.toList, rewritten run = run := by
  intro judge source comment
  have hmin : 1 ≤ judge.minWordLength := by decide
  have hcomment : comment ∈ Comment.extract source := by decide +kernel
  obtain ⟨-, -, happlied, hcomments⟩ := @corrections_frame judge hmin source
  obtain ⟨rewritten, hrewritten, hkept⟩ := hcomments comment hcomment
  have hafter : Comment.interleave judge.corrected source 0 (Comment.extract source)
      = "foo(); // , x : foo qqq, ok good\n/*  */ g".toList := by decide +kernel
  have hruns : ∀ run ∈ ["foo", "qqq", "ok", "good"].map String.toList,
      run ∈ Text.runTexts Text.isAsciiWord comment.text
        ∧ (run ∈ judge.identifiers ∨ run ∈ judge.ignored ∨ judge.dictionary.check run
          ∨ run.length < judge.minWordLength) := by decide +kernel
  rw [hafter] at happlied
  exact ⟨hmin, hcomment, happlied, rewritten, hrewritten,
    fun run hmem => hkept run (hruns run hmem).1 (hruns run hmem).2⟩

end Judge

end CommentSpell
