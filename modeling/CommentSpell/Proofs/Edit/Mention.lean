import CommentSpell.Proofs.Edit.WordByWord
import CommentSpell.Proofs.Edit.Correction
import CommentSpell.Proofs.Word.Mention

/-!
# Mentions of the code under correction

A mention of the code excuses a token and not its words.  If the letters of the token are misspelled
elsewhere in the comment, they are replaced in the mention too, wherever they stand as a whole word:
after a `$`, which is no word character, or among the arguments of a call.

No word reaches into a mention or out of it, so a comment is corrected by itself before the mention, in
it and behind it (`Judge.corrected_of_isMention`).  A mention without words that are to be corrected
therefore stays as it is, and so does every mention that is a plain name (`Judge.corrections_keep_mentions`).
-/

namespace CommentSpell.Judge

variable {judge : Judge} {text : Text} {span : Span}

/-- `judge.corrected text` corrects what stands before a mention `span`, in it and behind it, each
part by itself. -/
theorem corrected_of_isMention (hmin : 1 ≤ judge.minWordLength)
    (hspace : ∀ identifier ∈ judge.identifiers, identifier.head? ≠ some ' ')
    (h : IsMention judge.identifiers text span) :
    judge.corrected text
      = Comment.correctedText (judge.misspellings text) (text.take span.start)
          ++ Comment.correctedText (judge.misspellings text) (span.slice text)
          ++ Comment.correctedText (judge.misspellings text) (text.drop span.stop) := by
  have hwords := cleanedAreWords hmin text
  unfold corrected
  rw [Comment.correctedText_eq_mapRuns hwords text,
    Text.mapRuns_slice (h.cutAt_start hspace) (h.cutAt_stop hspace),
    ← Comment.correctedText_eq_mapRuns hwords, ← Comment.correctedText_eq_mapRuns hwords,
    ← Comment.correctedText_eq_mapRuns hwords]

/-- A mention `span` that is one word is an identifier as it stands. -/
theorem slice_mem_identifiers_of_isMention
    (hspace : ∀ identifier ∈ judge.identifiers, identifier.head? ≠ some ' ')
    (h : IsMention judge.identifiers text span)
    (hplain : ∀ c ∈ span.slice text, Text.isAsciiWord c) : span.slice text ∈ judge.identifiers := by
  cases h with
  | token hrun hmem =>
    rw [slice_maskCalls_of_isRun hrun] at hmem
    have hperiods : undotted (span.slice text) = span.slice text := by
      refine List.filter_eq_self.mpr fun c hc => ?_
      have hword := hplain c hc
      rw [decide_eq_true_eq]
      rintro rfl
      revert hword
      decide
    rwa [hperiods] at hmem
  | call hmem =>
    -- a call ends with a parenthesis, which is no character of a word
    have hframed := isFramed_of_mem_blankedSpans hspace hmem
    have hpos := hframed.nonempty
    have hlast : (span.slice text)[span.stop - 1 - span.start]? = some ')' := by
      rw [Text.getElem?_slice _ (by rw [Span.length]; omega), Nat.add_sub_cancel' (by omega)]
      exact hframed.last
    have hword := hplain ')' (List.mem_of_getElem? hlast)
    cases hword

/-- A mention `span` that is one word is no word of a misspelling, so it stays as it is. -/
theorem correctedText_slice_of_plain (hmin : 1 ≤ judge.minWordLength)
    (hspace : ∀ identifier ∈ judge.identifiers, identifier.head? ≠ some ' ')
    (h : IsMention judge.identifiers text span)
    (hplain : ∀ c ∈ span.slice text, Text.isAsciiWord c) :
    Comment.correctedText (judge.misspellings text) (span.slice text) = span.slice text := by
  have hidentifier := slice_mem_identifiers_of_isMention hspace h hplain
  have hwords := cleanedAreWords hmin text
  by_cases hne : span.slice text = []
  · rw [hne]
    exact Comment.correctedText_eq_self hwords fun m _ _ hrun => List.not_mem_nil hrun
  · exact Comment.correctedText_word_eq_self hwords hne hplain fun m hm =>
      cleaned_ne_of_excuses (Or.inl hidentifier) hm

/-- **Correction and mentions of the code.** If the identifiers of `judge` are those of `source`, its
corrections are accepted and make `source` into `Comment.rewrite judge.corrected source`.  Where a
comment mentions the code in `span`, `judge.corrected comment.text` is `corrected` of what stands
before the mention, in it and behind it, so each mention keeps its place between the others.
`corrected mention = mention` if no word that is to be corrected stands in `mention` as a whole word,
and always if `mention` is one word. -/
theorem corrections_keep_mentions (hmin : 1 ≤ judge.minWordLength) {source : Text}
    (hidentifiers : judge.identifiers = Identifier.extract source) :
    TextEdit.applyAll (judge.corrections source) source = .ok (Comment.rewrite judge.corrected source)
      ∧ ∀ comment ∈ Comment.extract source, ∀ span,
          IsMention judge.identifiers comment.text span →
            let corrected := Comment.correctedText (judge.misspellings comment.text)
            let mention := span.slice comment.text
            judge.corrected comment.text
                = corrected (comment.text.take span.start) ++ corrected mention
                    ++ corrected (comment.text.drop span.stop)
              ∧ ((∀ m ∈ judge.misspellings comment.text, m.best?.isSome →
                    m.cleaned ∉ Text.runTexts Text.isAsciiWord mention) →
                  corrected mention = mention)
              ∧ ((∀ c ∈ mention, Text.isAsciiWord c) → corrected mention = mention) := by
  have hspace : ∀ identifier ∈ judge.identifiers, identifier.head? ≠ some ' ' := by
    intro identifier hmem
    rw [hidentifiers] at hmem
    exact (Identifier.beginsAsName_of_mem_extract hmem).head?_ne_space
  refine ⟨judge.applyAll_corrections source, fun comment _ span hmention => ?_⟩
  refine ⟨corrected_of_isMention hmin hspace hmention, fun habsent => ?_, fun hplain => ?_⟩
  · exact Comment.correctedText_eq_self (cleanedAreWords hmin comment.text) habsent
  · exact correctedText_slice_of_plain hmin hspace hmention hplain

/-- A declared name stands between two words that are corrected, and is kept. -/
theorem corrections_keep_mentions_declared :
    let source := "let teh = 1; // zed teh (zed)".toList
    let judge : Judge :=
      { dictionary := .pair "zed".toList "zen".toList
        minWordLength := 3
        identifiers := Identifier.extract source
        ignored := [] }
    let comment : Comment := ⟨"// zed teh (zed)".toList, 13⟩
    let mention : Span := .ofLength 7 3
    1 ≤ judge.minWordLength
      ∧ comment ∈ Comment.extract source
      ∧ IsMention judge.identifiers comment.text mention
      ∧ TextEdit.applyAll (judge.corrections source) source
          = .ok "let teh = 1; // zen teh (zen)".toList
      ∧ Comment.correctedText (judge.misspellings comment.text) (mention.slice comment.text)
          = mention.slice comment.text := by
  intro source judge comment mention
  have hmin : 1 ≤ judge.minWordLength := by decide
  have hcomment : comment ∈ Comment.extract source := by decide +kernel
  have hmention : IsMention judge.identifiers comment.text mention :=
    .token (Text.mem_runs_iff.mp (by decide +kernel)) (by decide +kernel)
  obtain ⟨happlied, hmentions⟩ := @corrections_keep_mentions judge hmin source rfl
  obtain ⟨-, -, hplain⟩ := hmentions comment hcomment mention hmention
  have hafter : Comment.rewrite judge.corrected source = "let teh = 1; // zen teh (zen)".toList := by
    decide +kernel
  have hword : (mention.slice comment.text).all Text.isAsciiWord := by decide +kernel
  rw [hafter] at happlied
  exact ⟨hmin, hcomment, hmention, happlied, hplain (List.all_eq_true.mp hword)⟩

/-- A declared name and a restated call hold letters that are misspelled behind them, and both are
rewritten. -/
theorem corrections_rewrite_mentions :
    let source := "let x$teh; f(teh); // x$teh f(teh) teh".toList
    let judge : Judge :=
      { dictionary := .pair "teh".toList "the".toList
        minWordLength := 3
        identifiers := Identifier.extract source
        ignored := [] }
    let comment : Comment := ⟨"// x$teh f(teh) teh".toList, 19⟩
    let name : Span := .ofLength 3 5
    let call : Span := .ofLength 9 6
    comment ∈ Comment.extract source
      ∧ IsMention judge.identifiers comment.text name
      ∧ IsMention judge.identifiers comment.text call
      ∧ TextEdit.applyAll (judge.corrections source) source
          = .ok "let x$teh; f(teh); // x$the f(the) the".toList
      ∧ name.slice comment.text = "x$teh".toList
      ∧ name.slice (judge.corrected comment.text) = "x$the".toList
      ∧ call.slice comment.text = "f(teh)".toList
      ∧ call.slice (judge.corrected comment.text) = "f(the)".toList := by
  intro source judge comment name call
  have hname : IsMention judge.identifiers comment.text name :=
    .token (Text.mem_runs_iff.mp (by decide +kernel)) (by decide +kernel)
  have hcall : IsMention judge.identifiers comment.text call := .call (by decide +kernel)
  refine ⟨by decide +kernel, hname, hcall, ?_, by decide +kernel, by decide +kernel, by decide +kernel,
    by decide +kernel⟩
  rw [judge.applyAll_corrections]
  decide +kernel

end CommentSpell.Judge
