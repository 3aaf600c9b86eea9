import CommentSpell.Proofs.Workspace.IgnoreAll
import CommentSpell.Proofs.Workspace.QuickFix

/-!
# The commands of quick fixes

A quick fix carries a command by its name, and arguments, which the host sends back as they are.  To
execute them is one operation of the session (`Workspace.step_execute_fix`), so it is never refused.  What
that operation leaves is said for each kind of fix: a fix for one diagnostic takes that diagnostic off its
document, a fix that ignores a word ends all further fixes for that word, and the fix that ignores all
words leaves nothing to be fixed in the document (`Workspace.execute_quickFix`).
-/

namespace CommentSpell

/-- `Command.ofName?` finds `command` by its name. -/
@[simp] theorem Command.ofName?_name (command : Command) :
    Command.ofName? command.name = some command := by
  cases command <;> decide

namespace QuickFix

/-- `fix.operation` is the operation that the command of `fix` stands for. -/
def operation : QuickFix → Operation
  | ignoreAll uri => .ignoreAll uri
  | replace uri diagnostic _ => .clearDiagnostic uri (some diagnostic)
  | ignoreWord uri diagnostic => .ignoreWord uri (some diagnostic) diagnostic.code

end QuickFix

/-! ### Sessions after a fix -/

namespace Session

variable {session : Session} {uri : Text}

theorem board_ignoreAll (session : Session) (uri : Text) :
    (session.ignoreAll uri).board.get uri = []
      ∧ ∀ other, other ≠ uri → (session.ignoreAll uri).board.get other = session.board.get other := by
  unfold ignoreAll
  split
  · rename_i hnil
    exact ⟨hnil, fun _ _ => rfl⟩
  · exact ⟨Board.get_delete_self _ _, fun _ hne => Board.get_delete_of_ne hne _⟩

/-- `session.quickFixes document none = []` if nothing is marked in `document`. -/
theorem quickFixes_eq_nil {document : Document} (h : session.board.get document.uri = []) :
    session.quickFixes document none = [] := by
  simp [quickFixes, QuickFix.build, h]

/-- No `fix` is about a diagnostic with an ignored `word`, whatever `diagnostics?` are asked about. -/
theorem code_ne_of_mem_quickFixes {word : Text} (hmem : word ∈ session.ignored) {document : Document}
    {diagnostics? : Option (List Diagnostic)} {fix : QuickFix}
    (hfix : fix ∈ session.quickFixes document diagnostics?) :
    ∀ diagnostic ∈ fix.diagnostics, diagnostic.code ≠ word := by
  rintro diagnostic hdiagnostic rfl
  exact QuickFix.code_not_mem_of_mem_build hfix diagnostic hdiagnostic hmem

end Session

/-! ### Executing the command -/

namespace Workspace

variable {workspace : Workspace} {document : Document} {diagnostics? : Option (List Diagnostic)}
  {fix : QuickFix}

/-- To execute the command of `fix` is the step of `fix.operation`. -/
theorem step_execute_fix (workspace : Workspace) (fix : QuickFix) :
    workspace.step (.execute fix.command.name fix.arguments) = workspace.step fix.operation := by
  show workspace.execute fix.command.name fix.arguments = _
  unfold execute
  rw [Command.ofName?_name]
  cases fix <;> rfl

/-- **The commands of quick fixes find their way back.** If `fix` is among the quick fixes of
`document` for `diagnostics?`, executing its command succeeds and leaves the diagnostics of other
documents as they are.  If `fix` is about a `diagnostic`, that one is taken off `document` and the
others stay in order.  If it ignores a word, the word is ignored and no `further` fix is about it.  If
it ignores all words, nothing is marked in `document`, all marked words are ignored, and no fix is
offered for it. -/
theorem execute_quickFix (hfix : fix ∈ workspace.session.quickFixes document diagnostics?) :
    let marked := workspace.session.board.get document.uri
    ∃ answer after, workspace.step (.execute fix.command.name fix.arguments) = (.ok answer, after)
      ∧ (∀ other, other ≠ document.uri →
          after.session.board.get other = workspace.session.board.get other)
      ∧ (∀ diagnostic ∈ fix.diagnostics,
          after.session.board.get document.uri = marked.filter (· ≠ diagnostic))
      ∧ (∀ diagnostic, fix = .ignoreWord document.uri diagnostic → diagnostic.code ≠ [] →
          diagnostic.code ∈ after.session.ignored
            ∧ ∀ document' diagnostics?', ∀ further ∈ after.session.quickFixes document' diagnostics?',
                ∀ diagnostic' ∈ further.diagnostics, diagnostic'.code ≠ diagnostic.code)
      ∧ (fix = .ignoreAll document.uri →
          after.session.board.get document.uri = []
            ∧ (∀ diagnostic ∈ marked, diagnostic.code ≠ [] →
                diagnostic.code ∈ after.session.ignored)
            ∧ after.session.quickFixes document none = []) := by
  intro marked
  rw [step_execute_fix]
  rcases QuickFix.eq_or_of_mem_build hfix with
    rfl | ⟨diagnostic, -, -, rfl | ⟨suggestion, -, rfl⟩⟩
  · obtain ⟨hnone, hothers⟩ := workspace.session.board_ignoreAll document.uri
    refine ⟨_, _, rfl, hothers, ?_, ?_, fun _ => ⟨hnone, ?_, Session.quickFixes_eq_nil hnone⟩⟩
    · intro diagnostic hmem
      cases hmem
    · intro diagnostic heq
      cases heq
    · intro diagnostic hmem hne
      show diagnostic.code ∈ (workspace.session.ignoreAll document.uri).ignored
      rw [Session.ignored_ignoreAll]
      exact IgnoreList.mem_insertAll.mpr (.inr ⟨List.mem_map_of_mem hmem, hne⟩)
  · refine ⟨_, _, rfl, fun other hne => Board.get_erase_of_ne hne _ _, ?_, ?_, fun heq => nomatch heq⟩
    · intro other hmem
      obtain rfl := List.mem_singleton.mp hmem
      exact Board.get_erase_self _ _ _
    · intro other heq hne
      obtain rfl := (QuickFix.ignoreWord.inj heq).2
      have hignored : diagnostic.code ∈ workspace.session.ignored.insert diagnostic.code :=
        IgnoreList.mem_insert.mpr (.inr ⟨rfl, hne⟩)
      exact ⟨hignored, fun _ _ further hmem => Session.code_ne_of_mem_quickFixes hignored hmem⟩
  · refine ⟨_, _, rfl, fun other hne => Board.get_erase_of_ne hne _ _, ?_, ?_, fun heq => nomatch heq⟩
    · intro other hmem
      obtain rfl := List.mem_singleton.mp hmem
      exact Board.get_erase_self _ _ _
    · intro other heq
      cases heq

/-- Of two diagnostics with one word the first is chosen to ignore the word: it alone is taken off,
and the other one is offered no fix any more. -/
theorem execute_quickFix_ignoreWord :
    let first : Diagnostic := ⟨.ofLength 3 3, Hover.message ["the".toList], "teh".toList, .warning⟩
    let zed : Diagnostic := ⟨.ofLength 7 3, Hover.message [], "zed".toList, .warning⟩
    let second : Diagnostic := ⟨.ofLength 11 3, Hover.message ["the".toList], "teh".toList, .hint⟩
    let document : Document := { uri := "a".toList, text := "// teh zed teh".toList }
    let board : Board :=
      (Board.set ∅ "b".toList [first]).set document.uri [first, zed, second]
    let workspace : Workspace :=
      { host := {}
        session := { settings := {}, provider := .ready (.single "the".toList), board } }
    let fix : QuickFix := .ignoreWord document.uri first
    fix ∈ workspace.session.quickFixes document (some [first])
      ∧ ∃ answer after, workspace.step (.execute fix.command.name fix.arguments) = (.ok answer, after)
          ∧ after.session.board.get document.uri = [zed, second]
          ∧ after.session.board.get "b".toList = [first]
          ∧ "teh".toList ∈ after.session.ignored
          ∧ ∀ further ∈ after.session.quickFixes document none, second ∉ further.diagnostics := by
  intro first zed second document board workspace fix
  have hfix : fix ∈ workspace.session.quickFixes document (some [first]) := by decide +kernel
  obtain ⟨answer, after, hstep, hothers, hmarked, hignored, -⟩ := execute_quickFix hfix
  obtain ⟨hmem, hfurther⟩ := hignored first rfl (by decide)
  refine ⟨hfix, answer, after, hstep, ?_, ?_, hmem, fun further hoffered hsecond => ?_⟩
  · rw [hmarked first (List.mem_singleton.mpr rfl)]
    decide +kernel
  · rw [hothers _ (by decide)]
    decide +kernel
  · exact hfurther document none further hoffered second hsecond rfl

end Workspace

end CommentSpell
