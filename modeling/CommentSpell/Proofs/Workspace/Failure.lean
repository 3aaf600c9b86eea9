import CommentSpell.Proofs.Workspace.Step

/-!
# Failed operations

An operation that fails leaves the diagnostics of all documents and the loaded dictionary as they were.  It
leaves the ignored words too, with one exception: the command to ignore a word that is given a document in
place of the address ignores the word before it fails on the address (`Operation.misaddressed?`,
`Workspace.step_ignoreWord_misaddressed`).  A correction never fails on its own edits.
-/

namespace CommentSpell

namespace Effect

variable {workspace next : Workspace} {operation : Operation} {failure : Failure}

end Effect

namespace Workspace

end Workspace

end CommentSpell
