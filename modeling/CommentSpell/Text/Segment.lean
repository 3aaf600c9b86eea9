import CommentSpell.Text.Basic

/-!
# Leftmost scanning

Comments, declarations, calls and whole words are found in the same way: from left to right, and
where a site starts it is taken whole and the search goes on behind it.  What a site is differs, so
`scan` takes it as a function: given the character before a place and the text from that place on,
a `Site` says whether a site starts there, what it stands for and how long it is.

The result is the text cut into `Segment`s, each a character that belongs to no site or a whole
site.  Positions, the text without its sites and the text with its sites replaced are read off that
list.
-/

namespace CommentSpell

/-- A `Site` recognises what it looks for at a place of a text.
`site before rest = some (value, length)` if the first `length` characters of `rest`, with `before` in
front of them, stand for `value`. -/
abbrev Site (α : Type) := Option Char → Text → Option (α × Nat)

/-- A piece of a scanned text: `plain c` is a character outside all sites, `hit value text` a whole
site that reads `text` and stands for `value`. -/
inductive Segment (α : Type) where
  | plain (c : Char)
  | hit (value : α) (text : Text)
deriving DecidableEq

/-- A site in its place: the offset `start` of its first character, the `value` that it stands for,
and its `text`. -/
structure Hit (α : Type) where
  start : Nat
  value : α
  text : Text
deriving DecidableEq

variable {α : Type}

/-- `scanFrom site before skip text` are the segments of `text`, which stands behind the character
`before`; the first `skip` characters still belong to the last site and are left out. -/
def scanFrom (site : Site α) : (before : Option Char) → (skip : Nat) → Text → List (Segment α)
  | _, _, [] => []
  | _, skip + 1, c :: rest => scanFrom site (some c) skip rest
  | before, 0, c :: rest =>
    match site before (c :: rest) with
    | some (value, length + 1) =>
      .hit value (c :: rest.take length) :: scanFrom site (some c) length rest
    | _ => .plain c :: scanFrom site (some c) 0 rest

/-- `scan site text` is `text` cut into segments, leftmost sites first.  A site of length zero is no
site. -/
def scan (site : Site α) (text : Text) : List (Segment α) :=
  scanFrom site none 0 text

namespace Segment

/-- `segment.text` are the characters of `segment`, as they stand in the scanned text. -/
def text : Segment α → Text
  | plain c => [c]
  | hit _ text => text

/-- `segment.replaced replacement` are the characters of `segment` once a site `hit value text` reads
`replacement value text`. -/
def replaced (replacement : α → Text → Text) : Segment α → Text
  | plain c => [c]
  | hit value text => replacement value text

/-- `values segments` is what the sites among `segments` stand for, in text order. -/
def values : List (Segment α) → List α
  | [] => []
  | plain _ :: rest => values rest
  | hit value _ :: rest => value :: values rest

/-- `hitsFrom start segments` are the sites among `segments` with their offsets, when `segments` begin
at offset `start`. -/
def hitsFrom (start : Nat) : List (Segment α) → List (Hit α)
  | [] => []
  | plain _ :: rest => hitsFrom (start + 1) rest
  | hit value text :: rest => ⟨start, value, text⟩ :: hitsFrom (start + text.length) rest

end Segment

/-- `sites site text` are the sites of `text` with their offsets. -/
def sites (site : Site α) (text : Text) : List (Hit α) :=
  Segment.hitsFrom 0 (scan site text)

/-- `substitute site replacement text` is `text` with each site replaced and every other character
kept. -/
def substitute (site : Site α) (replacement : α → Text → Text) (text : Text) : Text :=
  (scan site text).flatMap (Segment.replaced replacement)

/-! ### A scan loses nothing -/

theorem flatMap_text_scanFrom (site : Site α) (before : Option Char) (skip : Nat) (text : Text) :
    (scanFrom site before skip text).flatMap Segment.text = text.drop skip := by
  fun_induction scanFrom site before skip text with
  | case1 => simp
  | case2 _ skip c rest ih => simpa using ih
  | case3 _ c rest _ length _ ih => simp [Segment.text, ih]
  | case4 _ c rest _ ih => simpa [Segment.text] using ih

/-- **A scan loses nothing**: the segments of `scan site text` put together are `text`. -/
theorem flatMap_text_scan (site : Site α) (text : Text) :
    (scan site text).flatMap Segment.text = text := by
  simpa [scan] using flatMap_text_scanFrom site none 0 text

end CommentSpell
