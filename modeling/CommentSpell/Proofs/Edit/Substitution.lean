import CommentSpell.Proofs.Edit.WordByWord

/-!
# Correction as one substitution

A correction makes one pass for each misspelling, over the text that the earlier passes have left.  If
misspellings of one word agree about what is written for it, and nothing that is written holds a word that
is corrected, then these passes are one substitution.  What it writes for a word depends on the set of
misspellings alone (`Comment.correctedWord_congr`), so their order and repetitions do not matter.  No word
that is corrected is left in the text; hence a text that stays as it is had no such word
(`Comment.correctedText_eq_self_iff`), and the edit of a comment tells whether any of its words changes
(`Comment.correction_is_substitution`).
-/

namespace CommentSpell.Comment

variable {misspellings : List Misspelling}

/-- `BestAgree misspellings` iff `misspellings` of one word have one first suggestion. -/
def BestAgree (misspellings : List Misspelling) : Prop :=
  ∀ m ∈ misspellings, ∀ m' ∈ misspellings, m.cleaned = m'.cleaned → m.best? = m'.best?

/-! ### What is written for a word -/

theorem correctedWord_cleaned (hagree : BestAgree misspellings) {m : Misspelling}
    (hm : m ∈ misspellings) : correctedWord misspellings m.cleaned = m.best?.getD m.cleaned := by
  rcases correctedWord_eq_or misspellings m.cleaned with ⟨m', hm', heq, hbest⟩ | ⟨hnone, hsame⟩
  · rw [hagree m hm m' hm' heq.symm, hbest, Option.getD_some]
  · rw [hsame, hnone m hm rfl, Option.getD_none]

theorem correctedWord_of_not_cleaned {word : Text} (h : ∀ m ∈ misspellings, m.cleaned ≠ word) :
    correctedWord misspellings word = word := by
  rcases correctedWord_eq_or misspellings word with ⟨m, hm, heq, -⟩ | ⟨-, hsame⟩
  · exact absurd heq (h m hm)
  · exact hsame

/-- `correctedWord misspellings` depends on `misspellings` only as a set. -/
theorem correctedWord_congr (hagree : BestAgree misspellings) {misspellings' : List Misspelling}
    (hmem : ∀ m, m ∈ misspellings' ↔ m ∈ misspellings) :
    correctedWord misspellings' = correctedWord misspellings := by
  have hagree' : BestAgree misspellings' := fun m hm m' hm' =>
    hagree m ((hmem m).mp hm) m' ((hmem m').mp hm')
  funext word
  by_cases hcleaned : ∃ m ∈ misspellings, m.cleaned = word
  · obtain ⟨m, hm, rfl⟩ := hcleaned
    rw [correctedWord_cleaned hagree' ((hmem m).mpr hm), correctedWord_cleaned hagree hm]
  · have hnone : ∀ m ∈ misspellings, m.cleaned ≠ word := fun m hm heq => hcleaned ⟨m, hm, heq⟩
    rw [correctedWord_of_not_cleaned hnone,
      correctedWord_of_not_cleaned fun m hm => hnone m ((hmem m).mp hm)]

/-! ### The corrected text -/

section Text

variable (hcleaned : CleanedAreWords misspellings) (hfinal : BestAreFinal misspellings)

include hcleaned hfinal

theorem correctedText_congr (hagree : BestAgree misspellings) {misspellings' : List Misspelling}
    (hmem : ∀ m, m ∈ misspellings' ↔ m ∈ misspellings) :
    correctedText misspellings' = correctedText misspellings := by
  have hcleaned' : CleanedAreWords misspellings' := fun m hm => hcleaned m ((hmem m).mp hm)
  have hfinal' : BestAreFinal misspellings' := fun m hm best hbest m' hm' =>
    hfinal m ((hmem m).mp hm) best hbest m' ((hmem m').mp hm')
  funext text
  rw [correctedText_eq_mapRuns_correctedWord hcleaned' hfinal', correctedWord_congr hagree hmem,
    correctedText_eq_mapRuns_correctedWord hcleaned hfinal]

/-- `correctedText misspellings text = text` iff `correctedWord misspellings` keeps each run of
`text`. -/
theorem correctedText_eq_self_iff {text : Text} :
    correctedText misspellings text = text
      ↔ ∀ run ∈ Text.runTexts Text.isAsciiWord text, correctedWord misspellings run = run := by
  constructor
  · intro hsame run hrun
    rcases correctedWord_eq_or misspellings run with ⟨m, hm, rfl, hbest⟩ | ⟨-, hkept⟩
    · -- the word would have been replaced, so it would not be left in the text
      refine absurd hrun ?_
      rw [← hsame]
      exact not_mem_runTexts_correctedText hcleaned hfinal hm (by rw [hbest, Option.isSome_some]) text
    · exact hkept
  · intro hkept
    rw [correctedText_eq_mapRuns_correctedWord hcleaned hfinal]
    exact Text.mapRuns_eq_self hkept

end Text

/-! ### The edit of a comment -/

/-- **Correcting word by word is one substitution.** Let the words of `misspellings` be of letters,
let those of one word have one first suggestion, and let no first suggestion hold a word that is
corrected.  Then the corrected text of `comment` has, in place of each maximal run of word characters,
what `written` has for it: the first suggestion for the run, or the run itself.  Order and repetition
of `misspellings` do not matter, no corrected word is a run of the corrected text, and there is no
edit iff no run changes. -/
theorem correction_is_substitution (comment : Comment)
    (hletters : ∀ m ∈ misspellings, m.cleaned ≠ [] ∧ ∀ c ∈ m.cleaned, c.isAlpha)
    (hagree : ∀ m ∈ misspellings, ∀ m' ∈ misspellings, m.cleaned = m'.cleaned → m.best? = m'.best?)
    (hfinal : ∀ m ∈ misspellings, ∀ best ∈ m.best?, ∀ m' ∈ misspellings, m'.best?.isSome →
      m'.cleaned ∉ Text.runTexts Text.isAsciiWord best) :
    let written := correctedWord misspellings
    let after := Text.mapRuns Text.isAsciiWord written comment.text
    (∀ m ∈ misspellings, written m.cleaned = m.best?.getD m.cleaned)
      ∧ (∀ word, (∀ m ∈ misspellings, m.cleaned ≠ word) → written word = word)
      ∧ correctedText misspellings comment.text = after
      ∧ (∀ misspellings', (∀ m, m ∈ misspellings' ↔ m ∈ misspellings) →
          correctedText misspellings' comment.text = after
            ∧ comment.correction? misspellings' = comment.correction? misspellings)
      ∧ (∀ m ∈ misspellings, m.best?.isSome → sites (Text.wordSite m.cleaned) after = [])
      ∧ comment.correction? misspellings
          = if ∀ run ∈ Text.runTexts Text.isAsciiWord comment.text, written run = run then none
            else some ⟨comment.span, after⟩ := by
  intro written after
  have hcleaned : CleanedAreWords misspellings := fun m hm =>
    ⟨(hletters m hm).1, fun c hc => Text.isAsciiWord_of_isAlpha ((hletters m hm).2 c hc)⟩
  have hafter : correctedText misspellings comment.text = after :=
    correctedText_eq_mapRuns_correctedWord hcleaned hfinal comment.text
  refine ⟨fun m hm => correctedWord_cleaned hagree hm, fun word => correctedWord_of_not_cleaned,
    hafter, fun misspellings' hmem => ?_, fun m hm hsome => ?_, ?_⟩
  · have hsame := correctedText_congr hcleaned hfinal hagree hmem
    exact ⟨by rw [hsame, hafter], by unfold correction?; rw [hsame]⟩
  · obtain ⟨hne, hword⟩ := hcleaned m hm
    rw [Text.sites_wordSite_eq_nil_iff hne hword, ← hafter]
    exact not_mem_runTexts_correctedText hcleaned hfinal hm hsome comment.text
  · unfold correction?
    dsimp only
    rw [hafter]
    refine if_congr ?_ rfl rfl
    rw [← hafter]
    exact correctedText_eq_self_iff hcleaned hfinal

/-- Misspellings that repeat a word, that write a word of two and one with a mark, and that have no
suggestion, in a comment that has two of the words twice. -/
theorem correction_is_substitution_repeated :
    let comment : Comment := ⟨"// teh Teh, teh_x alot: teh alot qqq".toList, 4⟩
    let misspellings : List Misspelling :=
      [⟨"teh".toList, "teh".toList, ["the".toList, "ten".toList]⟩,
        ⟨"alot:".toList, "alot".toList, ["a lot".toList]⟩,
        ⟨"teh".toList, "teh".toList, ["the".toList]⟩, ⟨"qqq".toList, "qqq".toList, []⟩]
    comment.correction? misspellings
        = some ⟨comment.span, "// the Teh, teh_x a lot: the a lot qqq".toList⟩
      ∧ comment.correction? misspellings.reverse = comment.correction? misspellings := by
  intro comment misspellings
  have hletters : ∀ m ∈ misspellings, m.cleaned ≠ [] ∧ m.cleaned.all Char.isAlpha := by decide +kernel
  obtain ⟨-, -, -, horder, -, hedit⟩ := @correction_is_substitution misspellings comment
    (fun m hm => ⟨(hletters m hm).1, List.all_eq_true.mp (hletters m hm).2⟩)
    (by decide +kernel) (by decide +kernel)
  refine ⟨hedit.trans (by decide +kernel), ?_⟩
  exact (horder misspellings.reverse fun _ => List.mem_reverse).2

end CommentSpell.Comment
