import CommentSpell.Edit.Correction
import CommentSpell.Proofs.Text.MapRuns
import CommentSpell.Proofs.Word.Token
import CommentSpell.Proofs.Word.Verdict

/-!
# Correction goes word by word

Each misspelling is corrected by a pass over the text that the earlier passes have left.  Still, the
whole correction rewrites each maximal run of word characters by itself (`correctedText_eq_mapRuns`).
If no suggestion that is written holds a word that is to be corrected, all passes together are one:
each run is replaced by the first suggestion for it, or kept (`correctedText_eq_mapRuns_correctedWord`).

The misspellings that a judge reports satisfy this when the dictionary accepts its suggestions, as
what it accepts is never misspelled (`Judge.correctedText_eq_mapRuns`).
-/

namespace CommentSpell

/-- `m.correctedWord word` is what the pass for `m` makes of `word`. -/
def Misspelling.correctedWord (m : Misspelling) (word : Text) : Text :=
  if word = m.cleaned then m.best?.getD word else word

namespace Comment

/-- `correctedWord misspellings word` is the first suggestion of `misspellings` for `word`, or else
`word` itself. -/
def correctedWord (misspellings : List Misspelling) (word : Text) : Text :=
  (misspellings.findSome? fun m => if word = m.cleaned then m.best? else none).getD word

/-- `CleanedAreWords misspellings` iff the letters of each of `misspellings` are a word. -/
def CleanedAreWords (misspellings : List Misspelling) : Prop :=
  ∀ m ∈ misspellings, m.cleaned ≠ [] ∧ ∀ c ∈ m.cleaned, Text.isAsciiWord c

/-- `BestAreFinal misspellings` iff no first suggestion of `misspellings` holds a word for which there
is one. -/
def BestAreFinal (misspellings : List Misspelling) : Prop :=
  ∀ m ∈ misspellings, ∀ best ∈ m.best?, ∀ m' ∈ misspellings, m'.best?.isSome →
    m'.cleaned ∉ Text.runTexts Text.isAsciiWord best

theorem correctedText_cons {m : Misspelling} (hne : m.cleaned ≠ [])
    (hword : ∀ c ∈ m.cleaned, Text.isAsciiWord c) (misspellings : List Misspelling) (text : Text) :
    correctedText (m :: misspellings) text
      = correctedText misspellings (Text.mapRuns Text.isAsciiWord m.correctedWord text) := by
  rw [correctedText, List.foldl_cons, ← correctedText]
  unfold Misspelling.correctedWord
  congr 1
  cases m.best? with
  | none => simp [Text.mapRuns_id]
  | some best => exact Text.replaceWholeWord_eq_mapRuns hne hword best text

/-- `correctedText misspellings text` is `text` with each of its runs of word characters corrected by
itself. -/
theorem correctedText_eq_mapRuns {misspellings : List Misspelling}
    (hcleaned : CleanedAreWords misspellings) (text : Text) :
    correctedText misspellings text
      = Text.mapRuns Text.isAsciiWord (correctedText misspellings) text := by
  induction misspellings generalizing text with
  | nil => exact (Text.mapRuns_id _ text).symm
  | cons m misspellings ih =>
    obtain ⟨⟨hne, hword⟩, hlater⟩ := List.forall_mem_cons.mp hcleaned
    rw [correctedText_cons hne hword, ih hlater, Text.mapRuns_mapRuns]
    refine Text.mapRuns_congr fun run hmem => ?_
    have hrun : Text.mapRuns Text.isAsciiWord m.correctedWord run = m.correctedWord run :=
      Text.mapRuns_of_all (Text.ne_nil_of_mem_runTexts hmem) (Text.of_mem_runTexts hmem)
    rw [correctedText_cons hne hword, hrun, ← ih hlater]

/-- `correctedText misspellings text = text` if no run of `text` is a word with a suggestion. -/
theorem correctedText_eq_self {misspellings : List Misspelling}
    (hcleaned : CleanedAreWords misspellings) {text : Text}
    (h : ∀ m ∈ misspellings, m.best?.isSome → m.cleaned ∉ Text.runTexts Text.isAsciiWord text) :
    correctedText misspellings text = text := by
  induction misspellings with
  | nil => rfl
  | cons m misspellings ih =>
    obtain ⟨⟨hne, hword⟩, hlater⟩ := List.forall_mem_cons.mp hcleaned
    obtain ⟨hfirst, hrest⟩ := List.forall_mem_cons.mp h
    have hstep : Text.mapRuns Text.isAsciiWord m.correctedWord text = text := by
      refine Text.mapRuns_eq_self fun run hmem => ?_
      unfold Misspelling.correctedWord
      split
      · rename_i heq
        cases hbest : m.best? with
        | none => rfl
        | some best => exact absurd (heq ▸ hmem) (hfirst (by simp [hbest]))
      · rfl
    rw [correctedText_cons hne hword, hstep, ih hlater hrest]

/-- `correctedText misspellings word = word` if `word` is the word of none of `misspellings`. -/
theorem correctedText_word_eq_self {misspellings : List Misspelling}
    (hcleaned : CleanedAreWords misspellings) {word : Text} (hne : word ≠ [])
    (hword : ∀ c ∈ word, Text.isAsciiWord c) (h : ∀ m ∈ misspellings, m.cleaned ≠ word) :
    correctedText misspellings word = word := by
  refine correctedText_eq_self hcleaned fun m hm _ hrun => ?_
  rw [Text.runTexts_of_all hne hword, List.mem_singleton] at hrun
  exact h m hm hrun

theorem correctedText_word {misspellings : List Misspelling}
    (hcleaned : CleanedAreWords misspellings) (hfinal : BestAreFinal misspellings) {word : Text}
    (hne : word ≠ []) (hword : ∀ c ∈ word, Text.isAsciiWord c) :
    correctedText misspellings word = correctedWord misspellings word := by
  induction misspellings with
  | nil => rfl
  | cons m misspellings ih =>
    obtain ⟨⟨hmne, hmword⟩, hlater⟩ := List.forall_mem_cons.mp hcleaned
    have hfinal' : BestAreFinal misspellings := fun m' hm' best hbest m'' hm'' =>
      hfinal m' (List.mem_cons_of_mem _ hm') best hbest m'' (List.mem_cons_of_mem _ hm'')
    rw [correctedText_cons hmne hmword, Text.mapRuns_of_all hne hword, correctedWord,
      List.findSome?_cons, Misspelling.correctedWord]
    by_cases heq : word = m.cleaned
    · rw [if_pos heq, if_pos heq]
      cases hbest : m.best? with
      | none => exact ih hlater hfinal'
      | some best =>
        -- the suggestion is written here, and no later pass finds a word in it
        refine correctedText_eq_self hlater fun m' hm' hsome => ?_
        exact hfinal m List.mem_cons_self best hbest m' (List.mem_cons_of_mem _ hm') hsome
    · rw [if_neg heq, if_neg heq]
      exact ih hlater hfinal'

/-- `correctedText misspellings text` has `correctedWord misspellings run` in place of each `run`, if
no suggestion is corrected again. -/
theorem correctedText_eq_mapRuns_correctedWord {misspellings : List Misspelling}
    (hcleaned : CleanedAreWords misspellings) (hfinal : BestAreFinal misspellings) (text : Text) :
    correctedText misspellings text
      = Text.mapRuns Text.isAsciiWord (correctedWord misspellings) text := by
  rw [correctedText_eq_mapRuns hcleaned]
  refine Text.mapRuns_congr fun run hmem => ?_
  exact correctedText_word hcleaned hfinal (Text.ne_nil_of_mem_runTexts hmem)
    (Text.of_mem_runTexts hmem)

/-! ### The suggestion for a word -/

/-- `correctedWord misspellings word` is the first suggestion of one of `misspellings` for `word`, or
it is `word`, for which none has a suggestion. -/
theorem correctedWord_eq_or (misspellings : List Misspelling) (word : Text) :
    (∃ m ∈ misspellings, m.cleaned = word ∧ m.best? = some (correctedWord misspellings word))
      ∨ (∀ m ∈ misspellings, m.cleaned = word → m.best? = none)
          ∧ correctedWord misspellings word = word := by
  unfold correctedWord
  cases hfind : misspellings.findSome? fun m => if word = m.cleaned then m.best? else none with
  | none =>
    right
    rw [List.findSome?_eq_none_iff] at hfind
    refine ⟨fun m hm heq => ?_, rfl⟩
    simpa [heq] using hfind m hm
  | some best =>
    left
    obtain ⟨m, hm, hbest⟩ := List.exists_of_findSome?_eq_some hfind
    split at hbest
    · rename_i heq
      exact ⟨m, hm, heq.symm, hbest⟩
    · cases hbest

/-- The word of a misspelling with a suggestion is no run of `correctedText misspellings text`. -/
theorem not_mem_runTexts_correctedText {misspellings : List Misspelling}
    (hcleaned : CleanedAreWords misspellings) (hfinal : BestAreFinal misspellings) {m : Misspelling}
    (hm : m ∈ misspellings) (hsome : m.best?.isSome) (text : Text) :
    m.cleaned ∉ Text.runTexts Text.isAsciiWord (correctedText misspellings text) := by
  intro hmem
  rw [correctedText_eq_mapRuns_correctedWord hcleaned hfinal, Text.runTexts_mapRuns,
    List.mem_flatMap] at hmem
  obtain ⟨run, hrun, hmem⟩ := hmem
  rcases correctedWord_eq_or misspellings run with ⟨m', hm', -, hbest⟩ | ⟨hnone, hsame⟩
  · -- what stands there is a suggestion, which holds no such word
    exact hfinal m' hm' _ hbest m hm hsome hmem
  · -- what stands there is a word of the text that was kept, as there was no suggestion for it
    rw [hsame, Text.runTexts_of_all (Text.ne_nil_of_mem_runTexts hrun)
      (Text.of_mem_runTexts hrun), List.mem_singleton] at hmem
    rw [hnone m hm hmem] at hsome
    cases hsome

end Comment

/-! ### The misspellings of a judge -/

/-- `dictionary.SuggestsAccepted` iff all suggestions of `dictionary` are words of letters that it
accepts. -/
def Dictionary.SuggestsAccepted (dictionary : Dictionary) : Prop :=
  ∀ word, ∀ suggestion ∈ dictionary.suggest word,
    suggestion ≠ [] ∧ (∀ c ∈ suggestion, c.isAlpha) ∧ dictionary.check suggestion

theorem Dictionary.suggestsAccepted_single {word : Text} (hne : word ≠ [])
    (halpha : word.all (·.isAlpha)) : (single word).SuggestsAccepted := by
  intro other suggestion hmem
  obtain rfl := List.mem_singleton.mp hmem
  exact ⟨hne, List.all_eq_true.mp halpha, beq_self_eq_true _⟩

theorem Dictionary.suggestsAccepted_pair (wrong : Text) {right : Text} (hne : right ≠ [])
    (halpha : right.all (·.isAlpha)) : (pair wrong right).SuggestsAccepted := by
  intro word suggestion hmem
  change suggestion ∈ (if word = wrong then [right] else []) at hmem
  split at hmem
  · obtain rfl := List.mem_singleton.mp hmem
    exact ⟨hne, List.all_eq_true.mp halpha, beq_self_eq_true _⟩
  · cases hmem

theorem isAlpha_of_mem_cleanWord {token : Text} {c : Char} (h : c ∈ cleanWord token) : c.isAlpha :=
  (List.mem_filter.mp h).2

theorem cleanWord_eq_self {word : Text} (h : ∀ c ∈ word, c.isAlpha) : cleanWord word = word :=
  List.filter_eq_self.mpr h

namespace Judge

variable {judge : Judge} {text : Text}

theorem cleanedAreWords (hmin : 1 ≤ judge.minWordLength) (text : Text) :
    Comment.CleanedAreWords (judge.misspellings text) := by
  intro m hm
  obtain ⟨token, -, hflags, rfl⟩ := mem_misspellings_iff.mp hm
  refine ⟨hflags.cleanWord_ne_nil hmin, fun c hc => ?_⟩
  exact Text.isAsciiWord_of_isAlpha (isAlpha_of_mem_cleanWord hc)

/-- `m.suggestions = judge.dictionary.suggest m.cleaned` for a misspelling `m` of `text`. -/
theorem suggestions_eq_suggest {m : Misspelling} (hm : m ∈ judge.misspellings text) :
    m.suggestions = judge.dictionary.suggest m.cleaned := by
  obtain ⟨token, -, -, rfl⟩ := mem_misspellings_iff.mp hm
  rfl

theorem mem_suggest_of_best? {m : Misspelling} (hm : m ∈ judge.misspellings text) {best : Text}
    (hbest : m.best? = some best) : best ∈ judge.dictionary.suggest m.cleaned := by
  rw [← suggestions_eq_suggest hm]
  exact List.mem_of_mem_head? hbest

theorem not_accepted_of_mem {m : Misspelling} (hm : m ∈ judge.misspellings text) :
    judge.dictionary.check m.cleaned = false := by
  obtain ⟨token, -, hflags, rfl⟩ := mem_misspellings_iff.mp hm
  exact hflags.not_accepted

/-- The first suggestion `best` for a misspelled word is no misspelled word itself, if the dictionary
accepts it. -/
theorem ne_cleaned_of_best? (hsuggest : judge.dictionary.SuggestsAccepted) {m m' : Misspelling}
    (hm : m ∈ judge.misspellings text) {best : Text} (hbest : m.best? = some best)
    (hm' : m' ∈ judge.misspellings text) : m'.cleaned ≠ best := by
  rintro rfl
  obtain ⟨-, -, hcheck⟩ := hsuggest _ _ (mem_suggest_of_best? hm hbest)
  rw [not_accepted_of_mem hm'] at hcheck
  cases hcheck

theorem bestAreFinal (hsuggest : judge.dictionary.SuggestsAccepted) (text : Text) :
    Comment.BestAreFinal (judge.misspellings text) := by
  intro m hm best hbest m' hm' _ hmem
  obtain ⟨hne, halpha, -⟩ := hsuggest _ best (mem_suggest_of_best? hm hbest)
  -- the suggestion is one word, so it would be the word of a misspelling
  rw [Text.runTexts_of_all hne fun c hc => Text.isAsciiWord_of_isAlpha (halpha c hc),
    List.mem_singleton] at hmem
  exact ne_cleaned_of_best? hsuggest hm hbest hm' hmem

/-- A correction of `text` has `correctedWord (judge.misspellings text) run` in place of each `run`,
if the dictionary suggests words that it accepts. -/
theorem correctedText_eq_mapRuns (hmin : 1 ≤ judge.minWordLength)
    (hsuggest : judge.dictionary.SuggestsAccepted) (text : Text) :
    Comment.correctedText (judge.misspellings text) text
      = Text.mapRuns Text.isAsciiWord (Comment.correctedWord (judge.misspellings text)) text :=
  Comment.correctedText_eq_mapRuns_correctedWord (cleanedAreWords hmin text)
    (bestAreFinal hsuggest text) text

end Judge

end CommentSpell
