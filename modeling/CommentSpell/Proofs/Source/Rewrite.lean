import CommentSpell.Source.Identifier
import CommentSpell.Proofs.Source.Outline

/-!
# Rewriting the comments of a text

`rewrite f` puts `f t` in place of the text `t` of each comment and keeps the code.  If `f` keeps
outlines, the comments of the new text are the rewritten ones, each moved by the growth of those
before it (`extract_rewrite`), and the code, with all that is read off it, stays
(`strip_rewrite`).
-/

namespace CommentSpell.Comment

/-- `rewrite f source` is `source` with `f text` in place of the `text` of each comment. -/
def rewrite (f : Text → Text) (source : Text) : Text :=
  substitute site (fun _ text => f text) source

/-- `growth f comment` is how much longer the text of `comment` gets when `f` rewrites it. -/
def growth (f : Text → Text) (comment : Comment) : Int :=
  (f comment.text).length - comment.text.length

theorem rewrite_self (source : Text) : rewrite (fun text => text) source = source :=
  substitute_self site source

variable {f : Text → Text}

/-- `outline (rewrite f text) = outline text` if `f` keeps outlines. -/
theorem outline_rewrite (hf : ∀ text, outline (f text) = outline text) (text : Text) :
    outline (rewrite f text) = outline text := by
  refine Eq.symm (substitute_rel (R := fun a b => outline a = outline b) rfl ?_ ?_ none text)
  · intro c a b hab
    rw [Outline.outline_cons, Outline.outline_cons, hab]
  · intro before text value length a b _ hab
    exact Outline.outline_append_congr (hf _).symm hab

theorem rewrite_cons {c : Char} {rest : Text} (h : length? (c :: rest) = none) :
    rewrite f (c :: rest) = c :: rewrite f rest := by
  rw [rewrite, substitute, scan_cons h]
  rfl

theorem rewrite_append {text rest : Text} (h : length? (text ++ rest) = some text.length) :
    rewrite f (text ++ rest) = f text ++ rewrite f rest := by
  rw [rewrite, substitute, scan_append h]
  rfl

/-- The scan of `rewrite f source` is that of `source` with each comment rewritten, if `f` keeps
outlines. -/
theorem scan_rewrite (hf : ∀ text, outline (f text) = outline text) (source : Text) :
    scan site (rewrite f source) = (scan site source).map (Segment.mapText f) := by
  induction source using comment_induction with
  | nil => rfl
  | code c rest hnone ih =>
    have hcons : outline (c :: rest) = outline (c :: rewrite f rest) := by
      rw [Outline.outline_cons, Outline.outline_cons, outline_rewrite hf]
    -- no comment opens at the character, so none opens there in the rewritten text
    have hopens := opens_congr hcons
    rw [hnone, Option.isSome_none] at hopens
    have hnone' : length? (c :: rewrite f rest) = none :=
      Option.isNone_iff_eq_none.mp (Option.isSome_eq_false_iff.mp hopens.symm)
    rw [rewrite_cons hnone, scan_cons hnone', scan_cons hnone, ih]
    rfl
  | comment text rest hlength ih =>
    -- the comment and what follows it keep their outlines, so a comment of the same form stands there
    have hlength' := length?_append_of_outline_eq (hf text).symm (outline_rewrite hf rest).symm hlength
    rw [rewrite_append hlength, scan_append hlength', scan_append hlength, ih]
    rfl

/-- `strip (rewrite f source) = strip source` if `f` keeps outlines. -/
theorem strip_rewrite (hf : ∀ text, outline (f text) = outline text) (source : Text) :
    strip (rewrite f source) = strip source := by
  rw [strip, substitute, scan_rewrite hf, Segment.flatMap_replaced_nil_map_mapText]
  rfl

theorem identifiers_rewrite (hf : ∀ text, outline (f text) = outline text) (source : Text) :
    Identifier.extract (rewrite f source) = Identifier.extract source := by
  rw [Identifier.extract, Identifier.extract, strip_rewrite hf]

theorem kind_congr {comment comment' : Comment}
    (h : outline comment.text = outline comment'.text) : comment.kind = comment'.kind := by
  have hslashes : Text.startsWith comment.text ['/', '/']
      ↔ Text.startsWith comment'.text ['/', '/'] := by
    rw [Text.startsWith_iff, Text.startsWith_iff, Outline.pair_prefix_iff rfl rfl,
      Outline.pair_prefix_iff rfl rfl, h]
  rw [kind, kind, Bool.eq_iff_iff.mpr hslashes]

theorem length_extract_rewrite (hf : ∀ text, outline (f text) = outline text) (source : Text) :
    (extract (rewrite f source)).length = (extract source).length := by
  rw [extract_eq_map, extract_eq_map, List.length_map, List.length_map, sites, sites,
    scan_rewrite hf]
  exact Segment.length_hitsFrom_map_mapText f (scan site source) 0 0

/-- The `k`-th comment of `rewrite f source` is the `k`-th `comment` of `source` with the text
`f comment.text`, of the same kind and moved by the growth of those before it. -/
theorem extract_rewrite (hf : ∀ text, outline (f text) = outline text) {source : Text} {k : Nat}
    {comment : Comment} (h : (extract source)[k]? = some comment) :
    ∃ comment', (extract (rewrite f source))[k]? = some comment'
      ∧ comment'.text = f comment.text
      ∧ comment'.kind = comment.kind
      ∧ (comment'.start : Int)
          = comment.start + (((extract source).take k).map (growth f)).sum := by
  rw [extract_eq_map, List.getElem?_map, Option.map_eq_some_iff] at h
  obtain ⟨hit, hhit, rfl⟩ := h
  obtain ⟨hit', hhit', htext, hstart⟩ :=
    Segment.getElem?_hitsFrom_map_mapText f 0 hhit
  have hsum : ((extract source).take k).map (growth f)
      = ((sites site source).take k).map (Segment.growth f) := by
    rw [extract_eq_map, ← List.map_take, List.map_map]
    rfl
  refine ⟨ofHit hit', ?_, htext, ?_, ?_⟩
  · rw [extract_eq_map, List.getElem?_map, sites, scan_rewrite hf, hhit', Option.map_some]
  · have houtline : outline (ofHit hit').text = outline (ofHit hit).text := by
      rw [show (ofHit hit').text = f hit.text from htext, hf]
      rfl
    exact kind_congr houtline
  · rw [hsum, sites, ofHit, ofHit]
    dsimp only
    omega

/-- The comments of `rewrite f source` have the texts `f comment.text`. -/
theorem map_text_extract_rewrite (hf : ∀ text, outline (f text) = outline text) (source : Text) :
    (extract (rewrite f source)).map text = (extract source).map fun comment => f comment.text := by
  refine List.ext_getElem? fun k => ?_
  rw [List.getElem?_map, List.getElem?_map]
  cases hcomment : (extract source)[k]? with
  | none =>
    have hlength := List.getElem?_eq_none_iff.mp hcomment
    rw [List.getElem?_eq_none (by rw [length_extract_rewrite hf]; exact hlength)]
    rfl
  | some comment =>
    obtain ⟨comment', hcomment', htext, -⟩ := extract_rewrite hf hcomment
    rw [hcomment', Option.map_some, Option.map_some, htext]

end CommentSpell.Comment
