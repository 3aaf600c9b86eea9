import CommentSpell.Proofs.Edit.Correction
import CommentSpell.Proofs.Report.Hover
import CommentSpell.Proofs.Source.Splice
import CommentSpell.Proofs.Workspace.Highlight

/-!
# Quick fixes edit comments

A quick fix writes a suggestion of the dictionary in place of a marked token, which lies in a comment.
A token is what stands between separators and periods, so it takes in a delimiter of the comment that
stands against its word.  If the token leaves the opener of its comment, and in a block comment the
closer, then the fix leaves the code of the document as it is (`quickFix_keeps_code`).
-/

namespace CommentSpell

/-- A `fix` of `build` ignores all words of `uri`, or is about a diagnostic whose word is not ignored:
it ignores that word, or writes a suggestion of the message. -/
theorem QuickFix.eq_or_of_mem_build {uri : Text} {diagnostics : List Diagnostic} {ignored : List Text}
    {hasDiagnostics : Bool} {fix : QuickFix} (h : fix ∈ build uri diagnostics ignored hasDiagnostics) :
    fix = .ignoreAll uri
      ∨ ∃ diagnostic ∈ diagnostics, diagnostic.code ∉ ignored
          ∧ (fix = .ignoreWord uri diagnostic
            ∨ ∃ suggestion ∈ Hover.suggestions diagnostic.message,
                fix = .replace uri diagnostic suggestion) := by
  rw [build, List.mem_append] at h
  rcases h with h | h
  · split at h
    · exact .inl (List.mem_singleton.mp h)
    · cases h
  · obtain ⟨diagnostic, hdiagnostic, hfix⟩ := List.mem_flatMap.mp h
    obtain ⟨hmem, hoffered⟩ := List.mem_filter.mp hdiagnostic
    obtain ⟨-, hcode⟩ := Bool.and_eq_true_iff.mp hoffered
    refine .inr ⟨diagnostic, hmem, of_decide_eq_true hcode, ?_⟩
    rw [forDiagnostic, List.mem_append] at hfix
    rcases hfix with hfix | hfix
    · obtain ⟨suggestion, hsuggestion, rfl⟩ := List.mem_map.mp hfix
      exact .inr ⟨suggestion, hsuggestion, rfl⟩
    · exact .inl (List.mem_singleton.mp hfix)

/-- Every `edit` of a `fix` of `build` writes a suggestion of a message in place of what the
diagnostic marks. -/
theorem QuickFix.exists_of_mem_build {uri : Text} {diagnostics : List Diagnostic}
    {ignored : List Text} {hasDiagnostics : Bool} {fix : QuickFix} {edit : TextEdit}
    (h : fix ∈ build uri diagnostics ignored hasDiagnostics) (hedit : fix.edit? = some edit) :
    ∃ diagnostic ∈ diagnostics, ∃ suggestion ∈ Hover.suggestions diagnostic.message,
      edit = ⟨diagnostic.span, suggestion⟩ := by
  rcases eq_or_of_mem_build h with rfl | ⟨diagnostic, hmem, -, rfl | ⟨suggestion, hsuggestion, rfl⟩⟩
  · cases hedit
  · cases hedit
  · exact ⟨diagnostic, hmem, suggestion, hsuggestion, (Option.some.inj hedit).symm⟩

/-- No `fix` of `build` is about a diagnostic whose word is ignored. -/
theorem QuickFix.code_not_mem_of_mem_build {uri : Text} {diagnostics : List Diagnostic}
    {ignored : List Text} {hasDiagnostics : Bool} {fix : QuickFix}
    (h : fix ∈ build uri diagnostics ignored hasDiagnostics) :
    ∀ diagnostic ∈ fix.diagnostics, diagnostic.code ∉ ignored := by
  intro diagnostic hdiagnostic
  rcases eq_or_of_mem_build h with rfl | ⟨marked, -, hcode, rfl | ⟨suggestion, -, rfl⟩⟩
  · cases hdiagnostic
  · obtain rfl := List.mem_singleton.mp hdiagnostic
    exact hcode
  · obtain rfl := List.mem_singleton.mp hdiagnostic
    exact hcode

/-- `suggestions (message suggested) = suggested` if `suggested` are words of letters. -/
theorem Hover.suggestions_message_of_isAlpha {suggested : List Text}
    (h : ∀ item ∈ suggested, item ≠ [] ∧ ∀ c ∈ item, c.isAlpha) :
    suggestions (message suggested) = suggested := by
  refine suggestions_message fun item hmem => ?_
  obtain ⟨hne, halpha⟩ := h item hmem
  have hword : ∀ c ∈ item, isSeparator c = false := fun c hc =>
    isSeparator_eq_false_of_isAsciiWord (Text.isAsciiWord_of_isAlpha (halpha c hc))
  constructor
  · intro hnil
    obtain ⟨c, hc⟩ := List.exists_mem_of_ne_nil item hne
    have hblank := Text.trim_eq_nil_iff.mp hnil c hc
    rw [(isSeparator_eq_false_iff.mp (hword c hc)).2] at hblank
    cases hblank
  · intro hpart
    have hcomma := hword ',' (hpart.subset List.mem_cons_self)
    cases hcomma

namespace Session

variable {session : Session} {host : Host} {document : Document} {dictionary : Dictionary}
  {provider : OnDemand}

/-- **Quick fixes keep the code.** A supported `document` is scanned, with suggestions of letters.
Then the `edit` of every quick fix is accepted, lies in one `comment`, and writes a suggestion there.
If it leaves the opener of `comment` and, in a block comment, the closer, then
`Comment.strip after = Comment.strip document.text`. -/
theorem quickFix_keeps_code (hsupported : session.settings.supports document.language)
    (hget : session.provider.get host = (.ok dictionary, provider))
    (hsuggest : ∀ word, ∀ suggestion ∈ dictionary.suggest word,
      suggestion ≠ [] ∧ ∀ c ∈ suggestion, c.isAlpha) :
    ∃ result session', session.highlight host document = (.ok result, session')
      ∧ ∀ fix ∈ session'.quickFixes document none, ∀ edit, fix.edit? = some edit →
        ∃ after comment, TextEdit.applyAll [edit] document.text = .ok after
          ∧ comment ∈ Comment.extract document.text
          ∧ comment.start ≤ edit.span.start ∧ edit.span.stop ≤ comment.stop
          ∧ edit.newText ∈ dictionary.suggest (cleanWord (edit.span.slice document.text))
          ∧ (comment.start + 2 ≤ edit.span.start →
              (comment.kind = .block → edit.span.stop + 2 ≤ comment.stop) →
                Comment.strip after = Comment.strip document.text) := by
  refine ⟨_, _, highlight_eq hsupported hget, fun fix hfix edit hedit => ?_⟩
  unfold quickFixes at hfix
  dsimp only at hfix
  rw [Board.get_set_self] at hfix
  obtain ⟨diagnostic, hdiagnostic, suggestion, hsuggestion, rfl⟩ :=
    QuickFix.exists_of_mem_build hfix hedit
  obtain ⟨comment, hcomment, hmarks⟩ := Judge.exists_marksToken_of_mem_placeAll hdiagnostic
  have hmem : suggestion ∈ dictionary.suggest diagnostic.code := by
    rw [hmarks.message_eq] at hsuggestion
    change suggestion ∈ Hover.suggestions (Hover.message (dictionary.suggest diagnostic.code))
      at hsuggestion
    rwa [Hover.suggestions_message_of_isAlpha (hsuggest _)] at hsuggestion
  obtain ⟨hne, halpha⟩ := hsuggest _ suggestion hmem
  have hend := (Comment.areCommentsOf_extract document.text).stop_le comment hcomment
  have happlied : TextEdit.applyAll [⟨diagnostic.span, suggestion⟩] document.text
      = .ok (document.text.take diagnostic.span.start ++ suggestion
          ++ document.text.drop diagnostic.span.stop) :=
    TextEdit.applyAll_singleton (Nat.le_trans hmarks.stop_le hend)
  refine ⟨_, comment, happlied, hcomment, hmarks.start_le, hmarks.stop_le, ?_, fun hopener hcloser => ?_⟩
  · rwa [hmarks.code_eq] at hmem
  · exact Comment.strip_splice hcomment hne
      (fun c hc => isDelimiter_eq_false_of_isAlpha (halpha c hc)) hopener hmarks.stop_le hcloser

/-- A word beside a bracket in a block comment is replaced together with the bracket, and the code on
both sides stays. -/
theorem quickFix_keeps_code_single :
    let dictionary : Dictionary := .single "the".toList
    let session : Session := { settings := {}, provider := .ready dictionary }
    let document : Document := { uri := [], text := "f /* (teh */ g".toList }
    session.settings.supports document.language
      ∧ session.provider.get {} = (.ok dictionary, session.provider)
      ∧ (∀ word, ∀ suggestion ∈ dictionary.suggest word,
          suggestion ≠ [] ∧ ∀ c ∈ suggestion, c.isAlpha)
      ∧ ∃ result session', session.highlight {} document = (.ok result, session')
        ∧ ∃ fix ∈ session'.quickFixes document none, ∃ edit after, fix.edit? = some edit
          ∧ TextEdit.applyAll [edit] document.text = .ok after
          ∧ after = "f /* the */ g".toList
          ∧ Comment.strip after = Comment.strip document.text := by
  intro dictionary session document
  have hsupported : session.settings.supports document.language := by decide
  have hget : session.provider.get {} = (.ok dictionary, session.provider) := rfl
  have hsuggest : ∀ word, ∀ suggestion ∈ dictionary.suggest word,
      suggestion ≠ [] ∧ ∀ c ∈ suggestion, c.isAlpha := by
    intro word suggestion hmem
    obtain rfl := List.mem_singleton.mp hmem
    exact ⟨by decide, List.all_eq_true.mp (by decide)⟩
  let edit : TextEdit := ⟨.ofLength 5 4, "the".toList⟩
  obtain ⟨result, session', hresult, hfixes⟩ := quickFix_keeps_code hsupported hget hsuggest
  obtain rfl : (session.highlight {} document).2 = session' := congrArg Prod.snd hresult
  obtain ⟨fix, hfix, hedit⟩ : ∃ fix ∈ (session.highlight {} document).2.quickFixes document none,
      fix.edit? = some edit := by decide +kernel
  obtain ⟨after, comment, happlied, hcomment, -, -, -, hstrip⟩ := hfixes fix hfix edit hedit
  have hafter : TextEdit.applyAll [edit] document.text = .ok "f /* the */ g".toList := by
    decide +kernel
  obtain rfl := Except.ok.inj (hafter.symm.trans happlied)
  have hinside : ∀ comment ∈ Comment.extract document.text, comment.start + 2 ≤ edit.span.start
      ∧ (comment.kind = .block → edit.span.stop + 2 ≤ comment.stop) := by decide +kernel
  obtain ⟨hopener, hcloser⟩ := hinside comment hcomment
  exact ⟨hsupported, hget, hsuggest, result, _, hresult, fix, hfix, edit, _, hedit, hafter, rfl,
    hstrip hopener hcloser⟩

/-- A word right behind the opener is marked together with it, and the fix turns the comment into
code. -/
theorem quickFix_opener :
    let dictionary : Dictionary := .single "the".toList
    let session : Session := { settings := {}, provider := .ready dictionary }
    let document : Document := { uri := [], text := "//teh".toList }
    session.settings.supports document.language
      ∧ (∀ word, ∀ suggestion ∈ dictionary.suggest word,
          suggestion ≠ [] ∧ ∀ c ∈ suggestion, c.isAlpha)
      ∧ ∃ result session', session.highlight {} document = (.ok result, session')
        ∧ ∃ fix ∈ session'.quickFixes document none, ∃ edit after, fix.edit? = some edit
          ∧ TextEdit.applyAll [edit] document.text = .ok after
          ∧ Comment.strip document.text = []
          ∧ Comment.strip after = "the".toList := by
  intro dictionary session document
  have hsupported : session.settings.supports document.language := by decide
  have hget : session.provider.get {} = (.ok dictionary, session.provider) := rfl
  have hsuggest : ∀ word, ∀ suggestion ∈ dictionary.suggest word,
      suggestion ≠ [] ∧ ∀ c ∈ suggestion, c.isAlpha := by
    intro word suggestion hmem
    obtain rfl := List.mem_singleton.mp hmem
    exact ⟨by decide, List.all_eq_true.mp (by decide)⟩
  let edit : TextEdit := ⟨.ofLength 0 5, "the".toList⟩
  obtain ⟨fix, hfix, hedit⟩ : ∃ fix ∈ (session.highlight {} document).2.quickFixes document none,
      fix.edit? = some edit := by decide +kernel
  have hafter : TextEdit.applyAll [edit] document.text = .ok "the".toList := by decide +kernel
  exact ⟨hsupported, hsuggest, _, _, highlight_eq hsupported hget, fix, hfix, edit, _, hedit, hafter,
    by decide +kernel, by decide +kernel⟩

end Session

end CommentSpell
