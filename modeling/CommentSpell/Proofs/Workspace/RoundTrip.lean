import CommentSpell.Proofs.Edit.SecondPass
import CommentSpell.Proofs.Workspace.Highlight

/-!
# Scan, correct, scan again

A session that scans a text, corrects it and scans the result judges both times by the same
identifiers, as a correction keeps the code.  So the second scan can be compared with the first one
comment by comment (`correction_round_trip`): a word that had a suggestion is gone from its comment as
a whole word.  Its letters are still found where a token has them apart, as in a word with an
apostrophe, which correction does not see.  In a comment of plain words where no call is restated, no
record of a word that had a suggestion is left.
-/

namespace CommentSpell

/-- `judge.scan text` has, with each comment of `text`, the misspellings of its text. -/
theorem Judge.comments_scan (judge : Judge) (text : Text) :
    (judge.scan text).comments
      = (Comment.extract text).map fun comment => (comment, judge.misspellings comment.text) := by
  unfold scan
  dsimp only
  rw [List.map_map]
  rfl

/-- The `k`-th comment of the second scan is the `k`-th one of the first, corrected. -/
theorem Judge.comments_scan_rewrite {judge : Judge}
    (houtline : ∀ text, outline (judge.corrected text) = outline text) {source : Text} {k : Nat}
    {entry entry' : Comment × List Misspelling} (hentry : (judge.scan source).comments[k]? = some entry)
    (hentry' : (judge.scan (Comment.rewrite judge.corrected source)).comments[k]? = some entry') :
    entry.2 = judge.misspellings entry.1.text ∧ entry'.1.text = judge.corrected entry.1.text
      ∧ entry'.2 = judge.misspellings (judge.corrected entry.1.text) := by
  rw [comments_scan, List.getElem?_map, Option.map_eq_some_iff] at hentry hentry'
  obtain ⟨comment, hcomment, rfl⟩ := hentry
  obtain ⟨comment', hcomment', rfl⟩ := hentry'
  obtain ⟨comment'', hcomment'', htext, -⟩ := Comment.extract_rewrite houtline hcomment
  obtain rfl := Option.some.inj (hcomment'.symm.trans hcomment'')
  exact ⟨rfl, htext, congrArg judge.misspellings htext⟩

theorem Judge.mem_comments_scan_iff {judge : Judge} {source : Text}
    {entry : Comment × List Misspelling} :
    entry ∈ (judge.scan source).comments
      ↔ entry.1 ∈ Comment.extract source ∧ entry.2 = judge.misspellings entry.1.text := by
  rw [comments_scan, List.mem_map]
  constructor
  · rintro ⟨comment, hcomment, rfl⟩
    exact ⟨hcomment, rfl⟩
  · rintro ⟨hcomment, hmisspellings⟩
    exact ⟨entry.1, hcomment, by rw [← hmisspellings]⟩

namespace Session

variable {session : Session} {host : Host} {document : Document} {dictionary : Dictionary}
  {provider : OnDemand}

theorem scanText_eq (hget : session.provider.get host = (.ok dictionary, provider)) (text : Text) :
    session.scanText host text none
      = (.ok ((session.judge dictionary (Identifier.extract text)).scan text),
        { session with provider }) := by
  unfold scanText
  rw [withDictionary_of_get hget]
  rfl

/-- `session.autoCorrect host document` for a supported `document`: its answer, whose edits are always
accepted, and the session after it. -/
theorem autoCorrect_eq (hsupported : session.settings.supports document.language)
    (hget : session.provider.get host = (.ok dictionary, provider)) :
    let judge := session.judge dictionary (Identifier.extract document.text)
    session.autoCorrect host document
      = (.ok
          { uri := document.uri
            supported := true
            before := document.text
            after := Comment.rewrite judge.corrected document.text
            edits := judge.corrections document.text },
        { session with provider }) := by
  intro judge
  have happlied := Judge.applyAll_corrections
    (({ session with provider } : Session).judge dictionary (Identifier.extract document.text))
    document.text
  unfold autoCorrect
  rw [if_pos hsupported, withDictionary_of_get hget]
  dsimp only
  rw [happlied]
  rfl

/-- `session.scanText` judges a corrected text by the identifiers of `text`, as a correction keeps the
code. -/
theorem scanText_corrected (hget : session.provider.get host = (.ok dictionary, provider))
    (hsuggest : dictionary.SuggestsAccepted) (text : Text) :
    let judge := session.judge dictionary (Identifier.extract text)
    session.scanText host (Comment.rewrite judge.corrected text) none
      = (.ok (judge.scan (Comment.rewrite judge.corrected text)), { session with provider }) := by
  intro judge
  have hidentifiers : Identifier.extract (Comment.rewrite judge.corrected text)
      = Identifier.extract text :=
    Comment.identifiers_rewrite
      (Judge.outline_corrected session.settings.minWordLength_pos hsuggest) text
  rw [scanText_eq hget, hidentifiers]

/-- **Words with suggestions are corrected.** A supported `document` is scanned, corrected, and the
corrected text is scanned, with suggestions of letters that the dictionary accepts.  The `second` scan
finds as many comments as the `first`, and a word that had a suggestion in a comment stands nowhere in
the corrected comment as a whole word.  If a comment has plain words and restates no call, before and
after, then no record of it in the `second` scan has a word that had a suggestion in any comment of
the `first`. -/
theorem correction_round_trip (hsupported : session.settings.supports document.language)
    (hget : session.provider.get host = (.ok dictionary, provider))
    (hsuggest : dictionary.SuggestsAccepted) :
    let identifiers := Identifier.extract document.text
    ∃ (first second : TextScan) (correction : CorrectionResult) (session₁ session₂ session₃ : Session),
      session.scanText host document.text none = (.ok first, session₁)
        ∧ session₁.autoCorrect host document = (.ok correction, session₂)
        ∧ session₂.scanText host correction.after none = (.ok second, session₃)
        ∧ second.comments.length = first.comments.length
        ∧ ∀ (k : Nat) (entry entry' : Comment × List Misspelling),
            first.comments[k]? = some entry → second.comments[k]? = some entry' →
              (∀ m ∈ entry.2, m.suggestions ≠ [] →
                m.cleaned ∉ Text.runTexts Text.isAsciiWord entry'.1.text)
              ∧ (HasPlainWords entry.1.text → maskCalls identifiers entry.1.text = entry.1.text →
                  maskCalls identifiers entry'.1.text = entry'.1.text →
                  ∀ m' ∈ entry'.2, ∀ reported ∈ first.comments, ∀ m ∈ reported.2,
                    m.suggestions ≠ [] → m'.cleaned ≠ m.cleaned) := by
  intro identifiers
  let judge := session.judge dictionary identifiers
  have hmin : 1 ≤ judge.minWordLength := session.settings.minWordLength_pos
  have houtline : ∀ text, outline (judge.corrected text) = outline text :=
    Judge.outline_corrected hmin hsuggest
  have hget' := OnDemand.get_of_get hget host
  have hcorrect := @autoCorrect_eq { session with provider } host document dictionary provider
    hsupported hget'
  have hsecond := @scanText_corrected { session with provider } host dictionary provider hget'
    hsuggest document.text
  refine ⟨_, _, _, _, _, _, scanText_eq hget document.text, hcorrect, hsecond, ?_, ?_⟩
  · rw [Judge.comments_scan, Judge.comments_scan, List.length_map, List.length_map]
    exact Comment.length_extract_rewrite houtline document.text
  · intro k entry entry' hentry hentry'
    obtain ⟨hmisspellings, htext, hmisspellings'⟩ :=
      Judge.comments_scan_rewrite houtline hentry hentry'
    rw [hmisspellings, hmisspellings', htext]
    refine ⟨fun m hm hsuggestions => ?_, fun hplain hmask hmask' m' hm' reported hreported m hm => ?_⟩
    · exact Judge.not_mem_runTexts_corrected hmin hsuggest hm hsuggestions
    · rw [(Judge.mem_comments_scan_iff.mp hreported).2] at hm
      intro hsuggestions heq
      -- the dictionary has suggestions for a word or has none, in whichever comment it stands
      rw [Judge.suggestions_eq_suggest hm, ← heq] at hsuggestions
      exact hsuggestions (Judge.suggest_eq_nil_of_mem_corrected hmin hsuggest hplain hmask hmask' hm')

/-- A word that stands beside punctuation is corrected in two comments, and one without a suggestion
is reported again. -/
theorem correction_round_trip_two_comments :
    let dictionary : Dictionary := .pair "teh".toList "the".toList
    let session : Session := { settings := {}, provider := .ready dictionary }
    let document : Document := { uri := [], text := "f(x) // (teh), zed\n/* teh. */".toList }
    session.settings.supports document.language
      ∧ session.provider.get {} = (.ok dictionary, session.provider)
      ∧ dictionary.SuggestsAccepted
      ∧ ∃ (first second : TextScan) (correction : CorrectionResult)
          (session₁ session₂ session₃ : Session),
        session.scanText {} document.text none = (.ok first, session₁)
          ∧ session₁.autoCorrect {} document = (.ok correction, session₂)
          ∧ session₂.scanText {} correction.after none = (.ok second, session₃)
          ∧ correction.after = "f(x) // (the), zed\n/* the. */".toList
          ∧ ∀ (k : Nat) (entry entry' : Comment × List Misspelling),
              first.comments[k]? = some entry → second.comments[k]? = some entry' →
                ∀ m' ∈ entry'.2, ∀ reported ∈ first.comments, ∀ m ∈ reported.2,
                  m.suggestions ≠ [] → m'.cleaned ≠ m.cleaned := by
  intro dictionary session document
  have hsupported : session.settings.supports document.language := by decide
  have hget : session.provider.get {} = (.ok dictionary, session.provider) := rfl
  have hsuggest : dictionary.SuggestsAccepted :=
    Dictionary.suggestsAccepted_pair _ (by decide) (by decide)
  obtain ⟨first, second, correction, session₁, session₂, session₃, hfirst, hcorrect, hsecond, -,
    hlaw⟩ := correction_round_trip hsupported hget hsuggest
  obtain ⟨hscan, rfl⟩ := Prod.mk.inj (hfirst.symm.trans (scanText_eq hget document.text))
  obtain rfl := Except.ok.inj hscan
  obtain ⟨hresult, rfl⟩ := Prod.mk.inj (hcorrect.symm.trans (autoCorrect_eq hsupported hget))
  obtain rfl := Except.ok.inj hresult
  obtain ⟨hscan, rfl⟩ := Prod.mk.inj (hsecond.symm.trans (scanText_eq hget _))
  obtain rfl := Except.ok.inj hscan
  let judge := session.judge dictionary (Identifier.extract document.text)
  let after := Comment.rewrite judge.corrected document.text
  have hplain : ∀ entry ∈ (judge.scan document.text).comments, HasPlainWords entry.1.text
      ∧ maskCalls judge.identifiers entry.1.text = entry.1.text := by decide +kernel
  have hmask' : ∀ entry ∈ ((session.judge dictionary (Identifier.extract after)).scan after).comments,
      maskCalls judge.identifiers entry.1.text = entry.1.text := by decide +kernel
  refine ⟨hsupported, hget, hsuggest, _, _, _, _, _, _, hfirst, hcorrect, hsecond, by decide +kernel,
    fun k entry entry' hentry hentry' => ?_⟩
  obtain ⟨hwords, hmask⟩ := hplain entry (List.mem_of_getElem? hentry)
  exact (hlaw k entry entry' hentry hentry').2 hwords hmask
    (hmask' entry' (List.mem_of_getElem? hentry'))

/-- In a word with a hyphen the misspelled letters do not stand together: the correction leaves the
word alone, and the second scan reports what the first one did. -/
theorem correction_round_trip_hyphen :
    let dictionary : Dictionary := .single "the".toList
    let session : Session := { settings := {}, provider := .ready dictionary }
    let document : Document := { uri := [], text := "// te-h".toList }
    let reported : List Misspelling := [⟨"te-h".toList, "teh".toList, ["the".toList]⟩]
    session.settings.supports document.language
      ∧ dictionary.SuggestsAccepted
      ∧ ∃ correction : CorrectionResult,
        (session.autoCorrect {} document).1 = .ok correction
          ∧ (session.scanText {} document.text none).1.toOption.map
              (·.comments.map Prod.snd) = some [reported]
          ∧ (session.scanText {} correction.after none).1.toOption.map
              (·.comments.map Prod.snd) = some [reported] := by
  intro dictionary session document reported
  have hsupported : session.settings.supports document.language := by decide
  have hsuggest : dictionary.SuggestsAccepted :=
    Dictionary.suggestsAccepted_single (by decide) (by decide)
  have hget : session.provider.get {} = (.ok dictionary, session.provider) := rfl
  have hcorrect := congrArg Prod.fst (autoCorrect_eq hsupported hget)
  exact ⟨hsupported, hsuggest, _, hcorrect, by decide +kernel, by decide +kernel⟩

end Session

end CommentSpell
