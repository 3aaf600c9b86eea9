import CommentSpell.Proofs.Workspace.IgnoreAll
import CommentSpell.Proofs.Workspace.QuickFix
import CommentSpell.Proofs.Workspace.Step

/-!
# Ignored words stay ignored

No operation but closing the session takes a word off the list of ignored words.  As long as a word is on
it, no answer is about it (`Answer.Spares`): scans do not report it, no quick fix is offered for a
diagnostic with its code, and corrections keep it wherever it stands as a whole word.  Both hold step by
step, so they hold along every run (`Workspace.run_spares_ignored`).
-/

namespace CommentSpell

/-- `KeepsWord word before after` iff `before` was rewritten to `after` word by word, and `word` is
kept. -/
def KeepsWord (word before after : Text) : Prop :=
  ∃ f : Text → Text, f word = word ∧ after = Text.mapRuns Text.isAsciiWord f before

/-- `answer.Spares word` iff `answer` is not about `word`: it is not reported, not offered for
replacing or ignoring, and kept in every comment of a corrected text. -/
def Answer.Spares (word : Text) : Answer → Prop
  | scan result => ∀ diagnostic ∈ result.diagnostics, diagnostic.code ≠ word
  | comments result => ∀ entry ∈ result.comments, ∀ m ∈ entry.2, m.cleaned ≠ word
  | correction result =>
    ∃ corrected : Text → Text, result.after = Comment.rewrite corrected result.before
      ∧ ∀ comment ∈ Comment.extract result.before,
          KeepsWord word comment.text (corrected comment.text)
  | fixes offered => ∀ fix ∈ offered, ∀ diagnostic ∈ fix.diagnostics, diagnostic.code ≠ word
  | _ => True

/-! ### Judging with ignored words -/

namespace Judge

variable {judge : Judge} {word : Text}

theorem code_ne_of_mem_ignored (hmem : word ∈ judge.ignored) {severity : Severity} {source : Text}
    {diagnostic : Diagnostic} (h : diagnostic ∈ judge.placeAll severity source) :
    diagnostic.code ≠ word := by
  obtain ⟨comment, -, hmarks⟩ := exists_marksToken_of_mem_placeAll h
  rw [hmarks.code_eq]
  rintro rfl
  exact hmarks.flagged.not_ignored hmem

/-- `judge.corrected text` keeps an ignored `word` wherever it stands as a whole word. -/
theorem keepsWord_corrected (hmin : 1 ≤ judge.minWordLength) (hmem : word ∈ judge.ignored)
    (text : Text) : KeepsWord word text (judge.corrected text) := by
  have hwords := cleanedAreWords hmin text
  refine ⟨fun run => if run = word then word else Comment.correctedText (judge.misspellings text) run,
    if_pos rfl, ?_⟩
  unfold corrected
  rw [Comment.correctedText_eq_mapRuns hwords text]
  refine Text.mapRuns_congr fun run hrun => ?_
  split
  · rename_i heq
    subst heq
    -- the run is one word, so only a misspelling of that word would rewrite it
    exact Comment.correctedText_word_eq_self hwords (Text.ne_nil_of_mem_runTexts hrun)
      (Text.of_mem_runTexts hrun) fun m hm => cleaned_ne_of_excuses (Or.inr (Or.inl hmem)) hm
  · rfl

end Judge

/-! ### Steps and runs -/

namespace Effect

variable {workspace : Workspace} {operation : Operation} {word : Text}

/-- A routine operation takes nothing off the list of ignored words:
`workspace.session.ignored ⊆ outcome.2.session.ignored`. -/
theorem ignored_subset {outcome : Except Failure Answer × Workspace}
    (heffect : Effect workspace operation outcome) :
    workspace.session.ignored ⊆ outcome.2.session.ignored := by
  cases heffect with
  | ignored uri diagnostic? item => exact IgnoreList.subset_add _ item
  | @misaddressed item hitem => exact IgnoreList.subset_add _ item
  | ignoredAll uri count =>
    show workspace.session.ignored ⊆ (workspace.session.ignoreAll uri).ignored
    rw [Session.ignored_ignoreAll]
    exact IgnoreList.subset_insertAll _ _
  | _ => exact IgnoreList.subset_refl _

/-- No `answer` to a routine operation is about an ignored `word`. -/
theorem spares {answer : Answer} {next : Workspace}
    (heffect : Effect workspace operation (.ok answer, next))
    (hmem : word ∈ workspace.session.ignored) : answer.Spares word := by
  have hmin : 1 ≤ workspace.session.settings.minWordLength :=
    workspace.session.settings.minWordLength_pos
  cases heffect with
  | told answer hplain => cases answer <;> trivial
  | wrote answer host hanswer =>
    rcases hanswer with hdone | ⟨cause, hfault⟩
    · obtain rfl := Except.ok.inj hdone
      trivial
    · cases hfault
  | unscanned hrequest =>
    intro diagnostic hdiagnostic
    cases hdiagnostic
  | scanned hrequest hget hjudge hdiagnostics =>
    subst hjudge hdiagnostics
    exact fun diagnostic hdiagnostic => Judge.code_ne_of_mem_ignored hmem hdiagnostic
  | uncorrected hrequest =>
    refine ⟨fun text => text, ?_, fun comment _ => ⟨fun run => run, rfl, ?_⟩⟩
    · exact (Comment.rewrite_self _).symm
    · exact (Text.mapRuns_id _ _).symm
  | corrected hrequest hget hjudge =>
    subst hjudge
    exact ⟨_, rfl, fun comment _ => Judge.keepsWord_corrected hmin hmem comment.text⟩
  | judged hget text identifiers =>
    intro entry hentry m hm
    rw [(Judge.mem_comments_scan_iff.mp hentry).2] at hm
    exact Judge.cleaned_ne_of_excuses (Or.inr (Or.inl hmem)) hm
  | ignored uri diagnostic? item => trivial
  | ignoredAll uri count => trivial
  | cleared uri diagnostic => trivial
  | offered document diagnostics? =>
    intro fix hfix diagnostic hdiagnostic
    rintro rfl
    exact QuickFix.code_not_mem_of_mem_build hfix diagnostic hdiagnostic hmem

/-- A correction that was asked for `document` is one of it: `result.before = document.text`. -/
theorem before_eq {result : CorrectionResult} {next : Workspace} {document : Document}
    (heffect : Effect workspace operation (.ok (.correction result), next))
    (hrequest : operation.request? = some (.autoCorrect, document)) : result.before = document.text := by
  cases heffect with
  | told answer hplain => cases hplain
  | wrote answer host hanswer => simp at hanswer
  | uncorrected hrequest' =>
    obtain rfl := (Prod.mk.inj (Option.some.inj (hrequest'.symm.trans hrequest))).2
    rfl
  | corrected hrequest' hget hjudge =>
    obtain rfl := (Prod.mk.inj (Option.some.inj (hrequest'.symm.trans hrequest))).2
    rfl

end Effect

namespace Workspace

variable {workspace : Workspace} {operation : Operation} {word : Text}

/-- The ignored words of `workspace` are ignored after a step, unless it closes the session. -/
theorem ignored_subset_step (hclose : operation ≠ .close) :
    workspace.session.ignored ⊆ (workspace.step operation).2.session.ignored := by
  rcases operation.isRoutine_or with hroutine | rfl | ⟨uri, diagnostics, rfl⟩
  · exact (workspace.step_effect hroutine).ignored_subset
  · exact absurd rfl hclose
  · exact IgnoreList.subset_refl _

/-- The ignored words of `workspace` are ignored after a run that does not close the session. -/
theorem ignored_subset_run (workspace : Workspace) {operations : List Operation}
    (hclose : .close ∉ operations) :
    workspace.session.ignored ⊆ (workspace.run operations).2.session.ignored := by
  refine run_invariant (P := fun after => workspace.session.ignored ⊆ after.session.ignored)
    (fun operation hoperation after h => IgnoreList.subset_trans h ?_) (IgnoreList.subset_refl _)
  exact ignored_subset_step fun heq => hclose (heq ▸ hoperation)

/-- **Ignored words stay ignored.** An ignored `word` is ignored `after` every run of `operations`
that does not close the session, and no `answer` to any operation there is about `word`; what a
correction rewrites is the text of the document that it was asked for. -/
theorem run_spares_ignored (hmem : word ∈ workspace.session.ignored) {operations : List Operation}
    (hclose : .close ∉ operations) :
    let after := (workspace.run operations).2
    word ∈ after.session.ignored
      ∧ ∀ operation answer next, after.step operation = (.ok answer, next) →
          answer.Spares word
            ∧ ∀ document result, operation.request? = some (.autoCorrect, document) →
                answer = .correction result → result.before = document.text := by
  intro after
  have hafter : word ∈ after.session.ignored := (workspace.ignored_subset_run hclose).1 word hmem
  refine ⟨hafter, fun operation answer next hstep => ?_⟩
  rcases operation.isRoutine_or with hroutine | rfl | ⟨uri, diagnostics, rfl⟩
  · have heffect := after.step_effect hroutine
    rw [hstep] at heffect
    refine ⟨heffect.spares hafter, fun document result hrequest hanswer => ?_⟩
    subst hanswer
    exact heffect.before_eq hrequest
  -- closing the session and setting diagnostics are answered without words
  · obtain rfl := Except.ok.inj (Prod.mk.inj hstep).1
    exact ⟨trivial, fun document result hrequest => nomatch hrequest⟩
  · obtain rfl := Except.ok.inj (Prod.mk.inj hstep).1
    exact ⟨trivial, fun document result hrequest => nomatch hrequest⟩

theorem step_autoCorrect_eq {document : Document} {result : CorrectionResult} {session : Session}
    (h : workspace.session.autoCorrect workspace.host document = (.ok result, session)) :
    workspace.step (.autoCorrect document)
      = (.ok (.correction result), workspace.withSession session) := by
  show workspace.autoCorrect document = _
  unfold autoCorrect
  rw [h]
  rfl

/-- An ignored word is kept beside one that is corrected, after a scan and more ignored words. -/
theorem run_spares_ignored_beside :
    let workspace : Workspace :=
      { host := {}
        session :=
          { settings := {}
            provider := .ready (.single "the".toList)
            ignored := .ofList ["teh".toList] } }
    let document : Document := { uri := [], text := "// teh zed (teh)".toList }
    let operations : List Operation := [.highlight document, .ignoreWord [] none "abc".toList]
    let after := (workspace.run operations).2
    "teh".toList ∈ workspace.session.ignored
      ∧ .close ∉ operations
      ∧ "teh".toList ∈ after.session.ignored
      ∧ ∃ result next, after.step (.autoCorrect document) = (.ok (.correction result), next)
          ∧ result.before = document.text
          ∧ result.after = "// teh the (teh)".toList
          ∧ (Answer.correction result).Spares "teh".toList := by
  intro workspace document operations after
  have hmem : "teh".toList ∈ workspace.session.ignored := by decide
  have hclose : .close ∉ operations := by decide
  obtain ⟨hafter, hanswers⟩ := run_spares_ignored hmem hclose
  have hsupported : after.session.settings.supports document.language := by decide +kernel
  have hget : after.session.provider.get after.host
      = (.ok (.single "the".toList), .ready (.single "the".toList)) := rfl
  have hcorrect := Session.autoCorrect_eq hsupported hget
  have hstep := step_autoCorrect_eq hcorrect
  obtain ⟨hspares, hbefore⟩ := hanswers _ _ _ hstep
  exact ⟨hmem, hclose, hafter, _, _, hstep, hbefore document _ rfl rfl, by decide +kernel, hspares⟩

end Workspace

end CommentSpell
