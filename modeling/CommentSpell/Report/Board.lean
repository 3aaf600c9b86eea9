import CommentSpell.Report.Diagnostic

/-!
# The board of diagnostics

The diagnostics of all documents, by the address of the document.  The diagnostics of a document are
replaced as a whole; there is no merging.  Documents keep the order in which they first came to the
board, and a document that was deleted comes last when it returns.
-/

namespace CommentSpell

/-- The diagnostics of each document: `entries` pairs the addresses with them, in the order in which
the documents came. -/
structure Board where
  entries : List (Text × List Diagnostic)
  nodup_keys : (entries.map Prod.fst).Nodup := by simp
deriving DecidableEq

namespace Board

instance : EmptyCollection Board := ⟨{ entries := [] }⟩

instance : Inhabited Board := ⟨∅⟩

/-- `board.hasEntry uri` iff `board` has an entry for `uri`, be it without diagnostics. -/
def hasEntry (board : Board) (uri : Text) : Bool :=
  board.entries.any (·.1 == uri)

/-- `board.get uri` are the diagnostics of the document at `uri`; `[]` if `board` has no entry for it. -/
def get (board : Board) (uri : Text) : List Diagnostic :=
  (board.entries.lookup uri).getD []

/-- `replaced uri diagnostics entry` is `entry` with `diagnostics` in place of its own, if it is the
entry of `uri`. -/
def replaced (uri : Text) (diagnostics : List Diagnostic) (entry : Text × List Diagnostic) :
    Text × List Diagnostic :=
  if entry.1 == uri then (entry.1, diagnostics) else entry

theorem map_fst_map_replaced (uri : Text) (diagnostics : List Diagnostic)
    (entries : List (Text × List Diagnostic)) :
    (entries.map (replaced uri diagnostics)).map Prod.fst = entries.map Prod.fst := by
  rw [List.map_map]
  congr 1
  funext entry
  simp only [Function.comp, replaced]
  split <;> rfl

/-- `board.set uri diagnostics` is `board` with `diagnostics` in place of those of `uri`. -/
def set (board : Board) (uri : Text) (diagnostics : List Diagnostic) : Board :=
  if h : board.hasEntry uri then
    { entries := board.entries.map (replaced uri diagnostics)
      nodup_keys := by rw [map_fst_map_replaced]; exact board.nodup_keys }
  else
    { entries := board.entries ++ [(uri, diagnostics)]
      nodup_keys := by
        simp only [hasEntry, List.any_eq_true, beq_iff_eq, Prod.exists, not_exists, not_and] at h
        have := board.nodup_keys
        grind [List.nodup_append] }

/-- `board.erase uri diagnostic` is `board` with `diagnostic` taken off the document at `uri`,
wherever it occurs there. -/
def erase (board : Board) (uri : Text) (diagnostic : Diagnostic) : Board :=
  if diagnostic ∈ board.get uri then board.set uri ((board.get uri).filter (· ≠ diagnostic))
  else board

/-- `board.delete uri` is `board` without the entry of `uri`. -/
def delete (board : Board) (uri : Text) : Board :=
  { entries := board.entries.filter (·.1 != uri)
    nodup_keys := board.nodup_keys.sublist (List.filter_sublist.map _) }

/-- `board.contains uri` iff the document at `uri` has diagnostics. -/
def contains (board : Board) (uri : Text) : Bool :=
  !(board.get uri).isEmpty

/-- `board.size` is the number of diagnostics of all documents. -/
def size (board : Board) : Nat :=
  board.entries.foldl (fun count entry => count + entry.2.length) 0

end Board

end CommentSpell
