import CommentSpell.Proofs.Workspace.QuickFix

/-!
# What quick fixes write

Among the fixes that are built for some diagnostics, those that replace what one of them marks write the
suggestions that its message lists (`QuickFix.filter_replaces_build`).  The message of a diagnostic of a scan
lists what the dictionary suggests for its word, and such a list is read back as it was exactly if none of its
items is blank or holds the separator of the list.  Then the fixes write just what the dictionary suggests, in
its order (`replacements_are_suggestions`).
-/

namespace CommentSpell

namespace QuickFix

/-- `fix.replaces diagnostic` iff `fix` writes a suggestion in place of what `diagnostic` marks. -/
def replaces (diagnostic : Diagnostic) : QuickFix → Bool
  | replace _ marked _ => marked = diagnostic
  | _ => false

theorem filter_replaces_forDiagnostic (uri : Text) (diagnostic marked : Diagnostic) :
    (forDiagnostic uri marked).filter (replaces diagnostic)
      = if marked = diagnostic then (Hover.suggestions marked.message).map (replace uri marked)
        else [] := by
  rw [forDiagnostic, List.filter_append, List.filter_cons_of_neg Bool.false_ne_true, List.filter_nil,
    List.append_nil]
  split
  · rename_i heq
    rw [List.filter_eq_self, List.forall_mem_map]
    exact fun suggestion _ => decide_eq_true heq
  · rename_i hne
    rw [List.filter_eq_nil_iff, List.forall_mem_map]
    exact fun suggestion _ heq => hne (of_decide_eq_true heq)

/-- The fixes of `build` that replace what a spelling `diagnostic` marks write the suggestions of its
message in their order, once for each time that `diagnostic` is given. -/
theorem filter_replaces_build {diagnostic : Diagnostic} {ignored : List Text}
    (hspelling : Hover.isSpelling diagnostic.message) (hcode : diagnostic.code ∉ ignored) (uri : Text)
    (diagnostics : List Diagnostic) (hasDiagnostics : Bool) :
    (build uri diagnostics ignored hasDiagnostics).filter (replaces diagnostic)
      = (List.replicate (diagnostics.count diagnostic)
          ((Hover.suggestions diagnostic.message).map (replace uri diagnostic))).flatten := by
  have hall : (if hasDiagnostics then [ignoreAll uri] else []).filter (replaces diagnostic) = [] := by
    cases hasDiagnostics <;> rfl
  rw [build, List.filter_append, hall, List.nil_append]
  induction diagnostics with
  | nil => rfl
  | cons marked diagnostics ih =>
    by_cases heq : marked = diagnostic
    · subst heq
      rw [List.filter_cons_of_pos (by simp [hspelling, hcode]), List.flatMap_cons, List.filter_append, ih,
        filter_replaces_forDiagnostic, if_pos rfl, List.count_cons_self, List.replicate_succ,
        List.flatten_cons]
    · rw [List.count_cons_of_ne heq, List.filter_cons]
      split
      · rw [List.flatMap_cons, List.filter_append, ih, filter_replaces_forDiagnostic, if_neg heq,
          List.nil_append]
      · exact ih

end QuickFix

namespace Session

/-- **Replacements are suggestions.** `message suggested` is a spelling message, and `suggestions`
reads `suggested` back from it iff none of its items is blank or holds the separator.  If the
dictionary suggests only such items, then, for a `diagnostic` of a scan whose word is not ignored, the
fixes of `build uri diagnostics ignored hasDiagnostics` that replace it write
`dictionary.suggest diagnostic.code`, best first and once for each time that `diagnostic` is given;
and the session, which has it once, offers each of them once. -/
theorem replacements_are_suggestions :
    (∀ suggested, Hover.isSpelling (Hover.message suggested)
      ∧ (Hover.suggestions (Hover.message suggested) = suggested
        ↔ ∀ item ∈ suggested, Text.trim item ≠ [] ∧ ¬ [',', ' '] <:+: item))
    ∧ ∀ {session : Session} {host : Host} {document : Document} {dictionary : Dictionary}
        {provider : OnDemand}, session.settings.supports document.language →
      session.provider.get host = (.ok dictionary, provider) →
      (∀ word, ∀ suggestion ∈ dictionary.suggest word,
        Text.trim suggestion ≠ [] ∧ ¬ [',', ' '] <:+: suggestion) →
      ∃ result session', session.highlight host document = (.ok result, session')
        ∧ ∀ diagnostic ∈ result.diagnostics,
          (∀ uri diagnostics ignored hasDiagnostics, diagnostic.code ∉ ignored →
            (QuickFix.build uri diagnostics ignored hasDiagnostics).filter (QuickFix.replaces diagnostic)
              = (List.replicate (diagnostics.count diagnostic)
                  ((dictionary.suggest diagnostic.code).map (.replace uri diagnostic))).flatten)
          ∧ (session'.quickFixes document none).filter (QuickFix.replaces diagnostic)
              = (dictionary.suggest diagnostic.code).map (.replace document.uri diagnostic) := by
  refine ⟨fun suggested => ⟨Hover.isSpelling_message suggested, Hover.suggestions_message_iff⟩, ?_⟩
  intro session host document dictionary provider hsupported hget hsuggest
  refine ⟨_, _, highlight_eq hsupported hget, fun diagnostic hmem => ?_⟩
  obtain ⟨comment, -, hmarks⟩ := Judge.exists_marksToken_of_mem_placeAll hmem
  have hmessage : diagnostic.message = Hover.message (dictionary.suggest diagnostic.code) :=
    hmarks.message_eq
  have hspelling : Hover.isSpelling diagnostic.message := by
    rw [hmessage]
    exact Hover.isSpelling_message _
  have hread : Hover.suggestions diagnostic.message = dictionary.suggest diagnostic.code := by
    rw [hmessage]
    exact Hover.suggestions_message (hsuggest _)
  have hbuild : ∀ uri diagnostics ignored hasDiagnostics, diagnostic.code ∉ ignored →
      (QuickFix.build uri diagnostics ignored hasDiagnostics).filter (QuickFix.replaces diagnostic)
        = (List.replicate (diagnostics.count diagnostic)
            ((dictionary.suggest diagnostic.code).map (.replace uri diagnostic))).flatten := by
    intro uri diagnostics ignored hasDiagnostics hcode
    rw [QuickFix.filter_replaces_build hspelling hcode, hread]
  refine ⟨hbuild, ?_⟩
  have hcode : diagnostic.code ∉ session.ignored.words := by
    rw [hmarks.code_eq]
    exact hmarks.flagged.not_ignored
  have honce := List.count_eq_one_of_mem
    (Diagnostic.nodup_of_pairwise (Judge.pairwise_placeAll _ _ _)) hmem
  unfold quickFixes
  dsimp only
  rw [Board.get_set_self, Option.getD_none, hbuild _ _ _ _ hcode, honce, List.replicate_one,
    List.flatten_singleton]

/-- Suggestions that begin or end with a comma or a space are offered as they are, in their order. -/
theorem replacements_are_suggestions_commas :
    let dictionary : Dictionary :=
      { check := fun word => word == "the".toList
        suggest := fun _ => ["the,".toList, " ,tea".toList] }
    let session : Session := { settings := {}, provider := .ready dictionary }
    let document : Document := { uri := [], text := "// teh".toList }
    session.settings.supports document.language
      ∧ session.provider.get {} = (.ok dictionary, session.provider)
      ∧ (∀ word, ∀ suggestion ∈ dictionary.suggest word,
          Text.trim suggestion ≠ [] ∧ ¬ [',', ' '] <:+: suggestion)
      ∧ ∃ result session', session.highlight {} document = (.ok result, session')
        ∧ ∃ diagnostic ∈ result.diagnostics, diagnostic.message = "Suggestions: the,,  ,tea".toList
          ∧ diagnostic.code ∉ ["the".toList]
          ∧ (QuickFix.build [] [diagnostic] ["the".toList] true).filter (QuickFix.replaces diagnostic)
              = [.replace [] diagnostic "the,".toList, .replace [] diagnostic " ,tea".toList] := by
  intro dictionary session document
  have hsupported : session.settings.supports document.language := by decide
  have hget : session.provider.get {} = (.ok dictionary, session.provider) := rfl
  have hitems : ∀ suggestion ∈ ["the,".toList, " ,tea".toList],
      Text.trim suggestion ≠ [] ∧ ¬ [',', ' '] <:+: suggestion := by decide
  obtain ⟨-, hoffers⟩ := replacements_are_suggestions
  obtain ⟨result, session', hresult, hreplaced⟩ := hoffers hsupported hget fun _ => hitems
  have hdiagnostics : (session.highlight {} document).1.toOption.map ScanResult.diagnostics
      = some [⟨.ofLength 3 3, "Suggestions: the,,  ,tea".toList, "teh".toList, .warning⟩] := by
    decide +kernel
  rw [hresult] at hdiagnostics
  have hdiagnostics := Option.some.inj hdiagnostics
  have hmem := hdiagnostics.symm ▸ List.mem_cons_self
  have hcode : "teh".toList ∉ ["the".toList] := by decide
  refine ⟨hsupported, hget, fun _ => hitems, result, session', hresult, _, hmem, rfl, hcode, ?_⟩
  obtain ⟨hbuild, -⟩ := hreplaced _ hmem
  rw [hbuild _ _ _ _ hcode, List.count_cons_self]
  rfl

end Session

end CommentSpell
