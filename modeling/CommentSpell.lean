import CommentSpell.Workspace.Operation
import CommentSpell.Proofs.Source.Comment
import CommentSpell.Proofs.Source.Outline
import CommentSpell.Proofs.Source.Rewrite
import CommentSpell.Proofs.Source.Identifier
import CommentSpell.Proofs.Edit.Batch
import CommentSpell.Proofs.Word.Verdict
import CommentSpell.Proofs.Edit.Correction
import CommentSpell.Proofs.Word.Mask
import CommentSpell.Proofs.Word.Token
import CommentSpell.Proofs.Word.Mention
import CommentSpell.Proofs.Report.Placement
import CommentSpell.Proofs.Report.Board
import CommentSpell.Proofs.Report.Soundness
import CommentSpell.Proofs.Workspace.Highlight
import CommentSpell.Proofs.Report.Completeness
import CommentSpell.Proofs.Text.MapRuns
import CommentSpell.Proofs.Edit.WordByWord
import CommentSpell.Proofs.Edit.SecondPass
import CommentSpell.Proofs.Workspace.RoundTrip
import CommentSpell.Proofs.Source.Splice
import CommentSpell.Proofs.Report.Hover
import CommentSpell.Proofs.Workspace.QuickFix
import CommentSpell.Proofs.Report.Ignoring
import CommentSpell.Proofs.Workspace.IgnoreAll
import CommentSpell.Proofs.Edit.Mention
import CommentSpell.Proofs.Workspace.Step
import CommentSpell.Proofs.Workspace.LastScan
import CommentSpell.Proofs.Workspace.Ignored
import CommentSpell.Proofs.Workspace.Failure
import CommentSpell.Proofs.Workspace.FixCommand
import CommentSpell.Proofs.Edit.Substitution
import CommentSpell.Proofs.Edit.Frame
import CommentSpell.Proofs.Word.MaskUnion
import CommentSpell.Proofs.Workspace.Dependence
import CommentSpell.Proofs.Workspace.Loading
import CommentSpell.Proofs.Edit.Transaction
import CommentSpell.Proofs.Source.Stripped
import CommentSpell.Proofs.Word.RestatedCall
import CommentSpell.Proofs.Text.Leftmost
import CommentSpell.Proofs.Source.IdentifierSite
import CommentSpell.Proofs.Source.Position
import CommentSpell.Proofs.Workspace.Rendering
import CommentSpell.Proofs.Workspace.Replacement
import CommentSpell.Proofs.Word.Partition
import CommentSpell.Proofs.Dictionary.Ranking
import CommentSpell.Proofs.Dictionary.WordList
