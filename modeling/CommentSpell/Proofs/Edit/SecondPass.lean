import CommentSpell.Proofs.Edit.Correction
import CommentSpell.Proofs.Edit.WordByWord
import CommentSpell.Proofs.Word.Mask
import CommentSpell.Proofs.Word.Token

/-!
# A second pass finds nothing to correct

Judging looks at the letters of a whole token, correction at runs of word characters.  In a plain word
the two agree: it has at most one such run, and that is all letters or has none (`IsPlainWord`).  So
each piece of a plain text is judged after a correction as before, if its word is not replaced; and if
its word is replaced, what stands there is a suggestion, which the dictionary accepts
(`misspelling?_corrected`).

The misspellings of the corrected text are therefore those without suggestion
(`misspellings_correctedText`), and a second correction changes nothing (`corrections_idempotent`).
-/

namespace CommentSpell

/-! ### Plain words -/

/-- `IsPlainWord word` iff `word` has at most one maximal run of word characters, and that run is all
letters or has no letter. -/
def IsPlainWord (word : Text) : Prop :=
  (Text.runTexts Text.isAsciiWord word).length ≤ 1
    ∧ ∀ run ∈ Text.runTexts Text.isAsciiWord word,
        (∀ c ∈ run, c.isAlpha) ∨ ∀ c ∈ run, c.isAlpha = false

instance (word : Text) : Decidable (IsPlainWord word) :=
  decidable_of_iff ((Text.runTexts Text.isAsciiWord word).length ≤ 1
      ∧ ∀ run ∈ Text.runTexts Text.isAsciiWord word,
          run.all (·.isAlpha) ∨ run.all (!·.isAlpha))
    (by simp only [IsPlainWord, List.all_eq_true, Bool.not_eq_true'])

/-- `HasPlainWords text` iff each maximal run of non-separators of `text` is a plain word. -/
def HasPlainWords (text : Text) : Prop :=
  ∀ span, Text.IsRun (!isSeparator ·) text span → IsPlainWord (span.slice text)

instance (text : Text) : Decidable (HasPlainWords text) :=
  decidable_of_iff (∀ span ∈ Text.runs (!isSeparator ·) text, IsPlainWord (span.slice text))
    (forall_congr' fun _ => imp_congr_left Text.mem_runs_iff)

theorem isPlainWord_of_mem_pieces {text word : Text} (h : HasPlainWords text)
    (hword : word ∈ Text.pieces isSeparator text) : IsPlainWord word :=
  forall_mem_pieces (by decide) h word hword

/-- `cleanWord text` are the letters of the runs of word characters of `text`. -/
theorem cleanWord_eq_flatMap (text : Text) :
    cleanWord text = (Text.runTexts Text.isAsciiWord text).flatMap cleanWord := by
  induction text using Text.run_induction Text.isAsciiWord with
  | nil => rfl
  | cons c rest hc ih =>
    have halpha : c.isAlpha = false := by
      by_contra h
      rw [Bool.not_eq_false] at h
      rw [Text.isAsciiWord_of_isAlpha h] at hc
      cases hc
    rw [Text.runTexts_cons hc, ← ih, cleanWord, List.filter_cons, halpha]
    rfl
  | run run rest hne hrun hrest ih =>
    rw [Text.runTexts_run hne hrun hrest, List.flatMap_cons, ← ih]
    exact List.filter_append ..

/-- The runs of a plain `word` have no letters, or there is one run, `cleanWord word`. -/
theorem IsPlainWord.cleanWord_eq_or {word : Text} (h : IsPlainWord word) :
    (cleanWord word = [] ∧ ∀ run ∈ Text.runTexts Text.isAsciiWord word, ∀ c ∈ run, c.isAlpha = false)
      ∨ Text.runTexts Text.isAsciiWord word = [cleanWord word] := by
  obtain ⟨hlength, hruns⟩ := h
  rw [cleanWord_eq_flatMap]
  cases hlist : Text.runTexts Text.isAsciiWord word with
  | nil => simp
  | cons run later =>
    have hlater : later = [] := by
      rw [hlist, List.length_cons] at hlength
      exact List.length_eq_zero_iff.mp (by omega)
    have hrun : cleanWord run = run ∨ cleanWord run = [] ∧ ∀ c ∈ run, c.isAlpha = false := by
      rcases hruns run (by simp [hlist]) with hall | hnone
      · exact Or.inl (cleanWord_eq_self hall)
      · exact Or.inr ⟨List.filter_eq_nil_iff.mpr fun c hc => by simp [hnone c hc], hnone⟩
    rcases hrun with hall | ⟨hclean, hnone⟩
    · simp [hlater, hall]
    · left
      simpa [hlater, hclean] using hnone

/-! ### Judging corrected texts -/

namespace Judge

variable {judge : Judge} {text : Text}

/-- Nothing is corrected in a `word` whose runs have no letters. -/
theorem mapRuns_correctedWord_eq_self {word : Text}
    (h : ∀ run ∈ Text.runTexts Text.isAsciiWord word, ∀ c ∈ run, c.isAlpha = false) :
    Text.mapRuns Text.isAsciiWord (Comment.correctedWord (judge.misspellings text)) word = word := by
  refine Text.mapRuns_eq_self fun run hrun => ?_
  rcases Comment.correctedWord_eq_or (judge.misspellings text) run with ⟨m, hm, rfl, -⟩ | ⟨-, hsame⟩
  · -- a corrected run has a letter
    obtain ⟨c, hc⟩ := List.exists_mem_of_ne_nil _ (Text.ne_nil_of_mem_runTexts hrun)
    obtain ⟨token, -, -, rfl⟩ := mem_misspellings_iff.mp hm
    have halpha := isAlpha_of_mem_cleanWord hc
    rw [h _ hrun c hc] at halpha
    cases halpha
  · exact hsame

/-- `cleanWord` of `word` with `f` of its one run is `f (cleanWord word)`, if that is all letters. -/
theorem cleanWord_mapRuns {f : Text → Text} {word : Text}
    (hruns : Text.runTexts Text.isAsciiWord word = [cleanWord word])
    (halpha : ∀ c ∈ f (cleanWord word), c.isAlpha) :
    cleanWord (Text.mapRuns Text.isAsciiWord f word) = f (cleanWord word) := by
  rw [cleanWord_eq_flatMap, Text.runTexts_mapRuns, hruns, List.flatMap_singleton,
    ← cleanWord_eq_flatMap, cleanWord_eq_self halpha]

/-- A `token` whose letters are the first suggestion for a misspelled word is not flagged. -/
theorem not_flags_of_best? (hsuggest : judge.dictionary.SuggestsAccepted) {m : Misspelling}
    (hm : m ∈ judge.misspellings text) {token : Text} (hbest : m.best? = some (cleanWord token)) :
    ¬ judge.Flags token := by
  intro hflags
  obtain ⟨-, -, hcheck⟩ := hsuggest _ _ (mem_suggest_of_best? hm hbest)
  have hnot := hflags.not_accepted
  rw [hcheck] at hnot
  cases hnot

/-- A plain `word` of `text` is judged after a correction as before, except that a misspelling with
suggestions is gone. -/
theorem misspelling?_corrected (hmin : 1 ≤ judge.minWordLength)
    (hsuggest : judge.dictionary.SuggestsAccepted) {word : Text} (hplain : IsPlainWord word)
    (hreported : judge.Flags (undotted word) →
      judge.misspellingOf (undotted word) ∈ judge.misspellings text) :
    (judge.verdict (undotted (Text.mapRuns Text.isAsciiWord
        (Comment.correctedWord (judge.misspellings text)) word))).misspelling?
      = (judge.verdict (undotted word)).misspelling?.filter fun m => m.suggestions = [] := by
  rw [misspelling?_verdict, misspelling?_verdict]
  rcases hplain.cleanWord_eq_or with ⟨hclean, hruns⟩ | hruns
  · -- a piece without letters is never flagged, and has nothing to correct
    have hflags : ¬ judge.Flags (undotted word) := by
      intro h
      exact h.cleanWord_ne_nil hmin (by rw [cleanWord_undotted, hclean])
    rw [mapRuns_correctedWord_eq_self hruns, if_neg hflags]
    rfl
  · rcases Comment.correctedWord_eq_or (judge.misspellings text) (cleanWord word) with
      ⟨m, hm, hcleaned, hbest⟩ | ⟨hnone, hsame⟩
    · -- the word is replaced by a suggestion, which the dictionary accepts
      have hmem := mem_suggest_of_best? hm hbest
      obtain ⟨-, halpha, -⟩ := hsuggest _ _ hmem
      rw [← cleanWord_mapRuns hruns halpha, ← cleanWord_undotted] at hbest
      rw [if_neg (not_flags_of_best? hsuggest hm hbest)]
      split
      · rw [hcleaned, ← cleanWord_undotted] at hmem
        have hsuggestions : (judge.misspellingOf (undotted word)).suggestions ≠ [] :=
          List.ne_nil_of_mem hmem
        rw [Option.filter_some_neg (by simpa using hsuggestions)]
      · rfl
    · -- the word is kept, so no misspelling of it has a suggestion
      rw [Text.mapRuns_eq_self (by simpa [hruns] using hsame)]
      split
      · rename_i hflags
        have hbest := hnone _ (hreported hflags) (cleanWord_undotted word)
        have hsuggestions := List.head?_eq_none_iff.mp hbest
        rw [Option.filter_some_pos (by simpa using hsuggestions)]
      · rfl

/-- The pieces of the corrected `text` are the corrected pieces of `text`: a correction cuts no word
and joins none. -/
theorem pieces_correctedText (hmin : 1 ≤ judge.minWordLength)
    (hsuggest : judge.dictionary.SuggestsAccepted) (text : Text) :
    Text.pieces isSeparator (Comment.correctedText (judge.misspellings text) text)
      = (Text.pieces isSeparator text).map
          (Text.mapRuns Text.isAsciiWord (Comment.correctedWord (judge.misspellings text))) := by
  rw [correctedText_eq_mapRuns hmin hsuggest]
  refine Text.pieces_mapRuns (fun c => isSeparator_eq_false_of_isAsciiWord) fun run hrun c hc => ?_
  apply isSeparator_eq_false_of_isAsciiWord
  rcases Comment.correctedWord_eq_or (judge.misspellings text) run with ⟨m, hm, -, hbest⟩ | ⟨-, h⟩
  · obtain ⟨-, halpha, -⟩ := hsuggest _ _ (mem_suggest_of_best? hm hbest)
    exact Text.isAsciiWord_of_isAlpha (halpha c hc)
  · rw [h] at hc
    exact Text.of_mem_runTexts hrun c hc

/-- `judge.misspellings (judge.corrected text)` are those of `text` without suggestions, if `text` has
plain words and no restated calls before and after. -/
theorem misspellings_correctedText (hmin : 1 ≤ judge.minWordLength)
    (hsuggest : judge.dictionary.SuggestsAccepted) (hplain : HasPlainWords text)
    (hmask : maskCalls judge.identifiers text = text)
    (hmask' : maskCalls judge.identifiers (judge.corrected text) = judge.corrected text) :
    judge.misspellings (judge.corrected text)
      = (judge.misspellings text).filter fun m => m.suggestions = [] := by
  have hbefore : judge.misspellings text = (Text.pieces isSeparator text).filterMap fun word =>
      (judge.verdict (undotted word)).misspelling? := by
    rw [misspellings_eq_filterMap_pieces hmin, hmask]
  rw [misspellings_eq_filterMap_pieces hmin, hmask', corrected, pieces_correctedText hmin hsuggest,
    List.filterMap_map]
  conv_rhs => rw [hbefore, List.filter_filterMap]
  refine List.filterMap_congr fun word hword => ?_
  refine misspelling?_corrected hmin hsuggest (isPlainWord_of_mem_pieces hplain hword) fun hflags => ?_
  -- a flagged token that is read off a piece is reported
  rw [hbefore, List.mem_filterMap]
  exact ⟨word, hword, by rw [misspelling?_verdict, if_pos hflags]⟩

/-- A misspelling of `judge.corrected text` has no suggestions. -/
theorem suggest_eq_nil_of_mem_corrected (hmin : 1 ≤ judge.minWordLength)
    (hsuggest : judge.dictionary.SuggestsAccepted) (hplain : HasPlainWords text)
    (hmask : maskCalls judge.identifiers text = text)
    (hmask' : maskCalls judge.identifiers (judge.corrected text) = judge.corrected text)
    {m : Misspelling} (hm : m ∈ judge.misspellings (judge.corrected text)) :
    judge.dictionary.suggest m.cleaned = [] := by
  rw [← suggestions_eq_suggest hm]
  rw [misspellings_correctedText hmin hsuggest hplain hmask hmask', List.mem_filter,
    decide_eq_true_eq] at hm
  exact hm.2

/-- The word of a misspelling with suggestions is no run of `judge.corrected text`. -/
theorem not_mem_runTexts_corrected (hmin : 1 ≤ judge.minWordLength)
    (hsuggest : judge.dictionary.SuggestsAccepted) {m : Misspelling}
    (hm : m ∈ judge.misspellings text) (hsuggestions : m.suggestions ≠ []) :
    m.cleaned ∉ Text.runTexts Text.isAsciiWord (judge.corrected text) := by
  refine Comment.not_mem_runTexts_correctedText (cleanedAreWords hmin text)
    (bestAreFinal hsuggest text) hm ?_ text
  simpa [Misspelling.best?, List.isSome_head?] using hsuggestions

/-- `outline (judge.corrected text) = outline text` if the dictionary suggests words that it accepts. -/
theorem outline_corrected (hmin : 1 ≤ judge.minWordLength)
    (hsuggest : judge.dictionary.SuggestsAccepted) (text : Text) :
    outline (judge.corrected text) = outline text := by
  refine Comment.outline_correctedText fun m hm => ⟨outline_cleaned hmin hm, fun best hbest => ?_⟩
  obtain ⟨hne, halpha, -⟩ := hsuggest _ _ (mem_suggest_of_best? hm hbest)
  exact Outline.outline_eq_gap hne fun c hc => isDelimiter_eq_false_of_isAlpha (halpha c hc)

/-- `judge.corrected text = text` if no misspelling of `text` has suggestions. -/
theorem corrected_eq_self (hmin : 1 ≤ judge.minWordLength)
    (h : ∀ m ∈ judge.misspellings text, m.suggestions = []) : judge.corrected text = text := by
  refine Comment.correctedText_eq_self (cleanedAreWords hmin text) fun m hm hsome => ?_
  rw [Misspelling.best?, h m hm] at hsome
  cases hsome

theorem corrections_eq_nil_iff {source : Text} :
    judge.corrections source = []
      ↔ ∀ comment ∈ Comment.extract source, judge.corrected comment.text = comment.text := by
  rw [corrections, List.filterMap_eq_nil_iff]
  exact forall_congr' fun comment => imp_congr_right fun _ =>
    Comment.rewriteEdit?_eq_none_iff (f := judge.corrected)

/-- **Correction is idempotent on plain comments.** If no call is among the identifiers and the
dictionary suggests words of letters that it accepts, the corrections are accepted; the misspellings
of the result `after` are, comment by comment and in order, those of `source` without suggestions; and
`judge.corrections after = []`. -/
theorem corrections_idempotent
    (hcalls : ∀ identifier ∈ judge.identifiers, Identifier.isCall identifier = false)
    (hmin : 1 ≤ judge.minWordLength) (hsuggest : judge.dictionary.SuggestsAccepted) {source : Text}
    (hplain : ∀ comment ∈ Comment.extract source, HasPlainWords comment.text) :
    ∃ after, TextEdit.applyAll (judge.corrections source) source = .ok after
      ∧ ((Comment.extract after).map fun comment => judge.misspellings comment.text)
          = ((Comment.extract source).map fun comment =>
              (judge.misspellings comment.text).filter fun m => m.suggestions = [])
      ∧ judge.corrections after = [] := by
  have hmask := maskCalls_eq_self hcalls
  have htexts := Comment.map_text_extract_rewrite (outline_corrected hmin hsuggest) source
  have hmisspellings : ((Comment.extract (Comment.rewrite judge.corrected source)).map fun comment =>
      judge.misspellings comment.text)
      = ((Comment.extract source).map fun comment =>
          (judge.misspellings comment.text).filter fun m => m.suggestions = []) := by
    have hcompose := congrArg (List.map judge.misspellings) htexts
    rw [List.map_map, List.map_map] at hcompose
    refine hcompose.trans (List.map_congr_left fun comment hcomment => ?_)
    exact misspellings_correctedText hmin hsuggest (hplain comment hcomment) (hmask _) (hmask _)
  refine ⟨_, judge.applyAll_corrections source, hmisspellings, ?_⟩
  refine corrections_eq_nil_iff.mpr fun comment hcomment => corrected_eq_self hmin fun m hm => ?_
  -- what is misspelled in a corrected comment are misspellings without suggestions
  have hmem := List.mem_map_of_mem (f := fun comment => judge.misspellings comment.text) hcomment
  rw [hmisspellings] at hmem
  obtain ⟨original, -, heq⟩ := List.mem_map.mp hmem
  rw [← heq, List.mem_filter, decide_eq_true_eq] at hm
  exact hm.2

/-- A word with a suggestion is corrected in two comments, and one without stays. -/
theorem corrections_idempotent_two_words :
    let judge : Judge :=
      { Judge.single [] ["zed".toList] with dictionary := .pair "teh".toList "the".toList }
    let source := "zed // (teh) xyz 12, zed\n/* xyz teh. */".toList
    let after := "zed // (the) xyz 12, zed\n/* xyz the. */".toList
    (∀ identifier ∈ judge.identifiers, Identifier.isCall identifier = false)
      ∧ 1 ≤ judge.minWordLength
      ∧ judge.dictionary.SuggestsAccepted
      ∧ (∀ comment ∈ Comment.extract source, HasPlainWords comment.text)
      ∧ TextEdit.applyAll (judge.corrections source) source = .ok after
      ∧ ((Comment.extract after).map fun comment =>
            (judge.misspellings comment.text).map Misspelling.token)
          = [["xyz".toList], ["xyz".toList]]
      ∧ judge.corrections after = [] := by
  intro judge source after
  have hcalls : ∀ identifier ∈ judge.identifiers, Identifier.isCall identifier = false := by decide
  have hmin : 1 ≤ judge.minWordLength := by decide
  have hsuggest : judge.dictionary.SuggestsAccepted :=
    Dictionary.suggestsAccepted_pair _ (by decide) (by decide)
  have hplain : ∀ comment ∈ Comment.extract source, HasPlainWords comment.text := by decide +kernel
  have hafter : TextEdit.applyAll (judge.corrections source) source = .ok after := by decide +kernel
  obtain ⟨after', hafter', hmisspellings, hnil⟩ := corrections_idempotent hcalls hmin hsuggest hplain
  obtain rfl : after = after' := Except.ok.inj (hafter.symm.trans hafter')
  have htokens := congrArg (List.map (List.map Misspelling.token)) hmisspellings
  rw [List.map_map, List.map_map] at htokens
  exact ⟨hcalls, hmin, hsuggest, hplain, hafter, htokens.trans (by decide +kernel), hnil⟩

end Judge

end CommentSpell
