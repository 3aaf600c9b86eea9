import CommentSpell.Proofs.Source.Outline
import CommentSpell.Proofs.Source.Position
import CommentSpell.Proofs.Workspace.Highlight

/-!
# Diagnostics on one line

What has no line break lies on one line: between the positions of both ends of such a span, that line reads
the slice of the span (`rendersOnOneLine_slice`).  A token has no white space, so it has no line break, whatever
else parts the tokens of a text; and a line comment ends before the line break.  Hence a scan marks each token
on the line where it stands, also in a comment of several lines (`highlight_renders_on_one_line`).
-/

namespace CommentSpell

theorem Text.isLineBreak_eq_false_of_isBlank {c : Char} (h : isBlank c = false) :
    isLineBreak c = false := by
  rw [isLineBreak, Bool.or_eq_false_iff, beq_eq_false_iff_ne, beq_eq_false_iff_ne]
  constructor
  · rintro rfl
    exact absurd h (by decide)
  · rintro rfl
    exact absurd h (by decide)

namespace Document

/-- `document.lineText line` is the text of a line, with the line break that ends it. -/
def lineText (document : Document) (line : Nat) : Text :=
  let starts := lineStarts document.text
  let start := starts.getD line document.text.length
  let stop := starts.getD (line + 1) document.text.length
  (document.text.take stop).drop start

/-- `document.RendersOnOneLine span token` iff both ends of `span` are on one line, as many characters
apart as `span` has, and between them the line reads `token`. -/
structure RendersOnOneLine (document : Document) (span : Span) (token : Text) : Prop where
  line_eq : (document.rangeOf span).1.line = (document.rangeOf span).2.line
  width_eq : (document.rangeOf span).2.character - (document.rangeOf span).1.character
    = span.stop - span.start
  reads : ((document.lineText (document.rangeOf span).1.line.toNat).take
      (document.rangeOf span).2.character.toNat).drop (document.rangeOf span).1.character.toNat = token

/-! ### What has no line break -/

/-- `b` lies on the line of an earlier offset `a`, if no line break comes in between. -/
theorem LiesOn.of_unbroken {text : Text} {a b line start : Nat} (h : LiesOn text a line start)
    (hab : a ≤ b) (hunbroken : ∀ i, a ≤ i → i < b → ∀ c ∈ text[i]?, Text.isLineBreak c = false) :
    LiesOn text b line start := by
  refine ⟨h.getElem?_eq, Nat.le_trans h.start_le hab, fun next hnext => ?_⟩
  have hafter := h.lt_next next hnext
  rcases mem_lineStarts_iff.mp (List.mem_of_getElem? hnext) with rfl | ⟨i, rfl, hends⟩
  · exact absurd hafter (Nat.not_lt_zero _)
  · by_contra hle
    obtain ⟨c, hc, hbreak⟩ := hends.isLineBreak
    rw [hunbroken i (by omega) (by omega) c hc] at hbreak
    cases hbreak

/-- Between two offsets that lie on `line`, its text reads what the text of `document` reads there. -/
theorem slice_lineText {document : Document} {span : Span} {line start : Nat}
    (hstart : LiesOn document.text span.start line start)
    (hstop : LiesOn document.text span.stop line start) (hle : span.stop ≤ document.text.length) :
    ((document.lineText line).take (span.stop - start)).drop (span.start - start)
      = span.slice document.text := by
  have hspan := span.start_le_stop
  have hbefore := hstart.start_le
  have hend : span.stop ≤ (lineStarts document.text).getD (line + 1) document.text.length := by
    rw [List.getD_eq_getElem?_getD]
    rcases hnext : (lineStarts document.text)[line + 1]? with _ | next
    · exact hle
    · exact Nat.le_of_lt (hstop.lt_next next hnext)
  have hline : (lineStarts document.text).getD line document.text.length = start := by
    rw [List.getD_eq_getElem?_getD, hstart.getElem?_eq, Option.getD_some]
  have hlast : start + (span.stop - start) = span.stop := by omega
  dsimp only [lineText]
  rw [hline, List.take_drop, List.take_take, List.drop_drop, hlast, Nat.add_sub_cancel' hbefore,
    Nat.min_eq_left hend, Span.slice, Span.length, List.take_drop, Nat.add_sub_cancel' hspan]

/-- Both ends of `span` lie on one line, if it has no line break. -/
theorem exists_liesOn_of_unbroken {document : Document} {span : Span}
    (hunbroken : ∀ c ∈ span.slice document.text, Text.isLineBreak c = false) :
    ∃ line start, LiesOn document.text span.start line start
      ∧ LiesOn document.text span.stop line start := by
  obtain ⟨line, start, hlies⟩ := exists_liesOn document.text span.start
  refine ⟨line, start, hlies, hlies.of_unbroken span.start_le_stop fun i hi hlt c hc => ?_⟩
  obtain ⟨i, rfl⟩ := Nat.exists_eq_add_of_le hi
  refine hunbroken c (List.mem_of_getElem? (i := i) ?_)
  rw [Text.getElem?_slice _ (show i < span.length by rw [Span.length]; omega)]
  exact hc

/-- A `span` without line break renders on one line. -/
theorem rendersOnOneLine_slice {document : Document} {span : Span}
    (hle : span.stop ≤ document.text.length)
    (hunbroken : ∀ c ∈ span.slice document.text, Text.isLineBreak c = false) :
    document.RendersOnOneLine span (span.slice document.text) := by
  obtain ⟨line, start, hstart, hstop⟩ := exists_liesOn_of_unbroken hunbroken
  have hspan := span.start_le_stop
  have hbefore := hstart.start_le
  have hrange : document.rangeOf span = (⟨line, span.start - start⟩, ⟨line, span.stop - start⟩) := by
    rw [rangeOf, positionAt_of_liesOn hstart (by omega), positionAt_of_liesOn hstop hle]
  have hfirst : ((span.start : Int) - start).toNat = span.start - start := by omega
  have hlast : ((span.stop : Int) - start).toNat = span.stop - start := by omega
  refine ⟨?_, ?_, ?_⟩
  · rw [hrange]
  · rw [hrange]
    dsimp only
    omega
  · rw [hrange]
    dsimp only
    rw [hfirst, hlast, Int.toNat_natCast]
    exact slice_lineText hstart hstop hle

end Document

/-! ### Line comments and tokens -/

/-- A line comment has no line break. -/
theorem Comment.isLineBreak_eq_false_of_kind {source : Text} {comment : Comment}
    (hcomment : comment ∈ extract source) (hkind : comment.kind = .line) :
    ∀ c ∈ comment.text, Text.isLineBreak c = false := by
  obtain ⟨rest, hrest⟩ := readsAt_of_mem_extract hcomment
  have hlength : length? (comment.text ++ rest) = some comment.text.length := by
    rw [hrest, length?_eq_some_iff, isLineSpan_drop, isBlockSpan_drop]
    exact (areCommentsOf_extract source).form comment hcomment
  have hslashes : Text.startsWith comment.text ['/', '/'] := by
    by_contra hno
    rw [kind, if_neg hno] at hkind
    cases hkind
  obtain ⟨text, htext⟩ := Text.startsWith_iff.mp hslashes
  rw [← htext] at hlength ⊢
  refine List.forall_mem_append.mpr ⟨?_, (length?_line_append_iff.mp hlength).1⟩
  simp [Text.isLineBreak]

/-- A diagnostic of `judge.placeAll severity source` is a misspelling `m` of a comment of `source`,
which reads `m.token` where the diagnostic stands. -/
theorem Judge.exists_misspelling_of_mem_placeAll {judge : Judge} {severity : Severity} {source : Text}
    {diagnostic : Diagnostic} (h : diagnostic ∈ judge.placeAll severity source) :
    ∃ comment ∈ Comment.extract source, MarksToken judge source comment diagnostic
      ∧ ∃ m ∈ judge.misspellings comment.text, ∃ offset,
        diagnostic = comment.diagnosticAt severity offset m
          ∧ diagnostic.span.slice source = m.token := by
  obtain ⟨comment, hcomment, hplace⟩ := List.mem_flatMap.mp h
  refine ⟨comment, hcomment, Comment.marksToken_of_mem_place hcomment hplace, ?_⟩
  obtain ⟨offset, token, hstands, htoken, hflags, rfl⟩ := Comment.exists_standsAt_of_mem_place hplace
  have hm : judge.misspellingOf token ∈ judge.misspellings comment.text :=
    mem_misspellings_iff.mpr ⟨token, htoken, hflags, rfl⟩
  have htext := (blanked_maskCalls _ _).readsAt hstands.reads (space_not_mem_of_mem_tokenize htoken)
  exact ⟨_, hm, offset, rfl, Comment.slice_eq_of_readsAt hcomment htext⟩

namespace Session

/-- **Diagnostics render on one line.** Each diagnostic of `session.highlight host document` marks a
misspelling `m` of a comment of `document`: both its ends are on one line, as many characters apart as
it marks, and between them that line reads `m.token`.  Each line comment starts and ends on one line
too. -/
theorem highlight_renders_on_one_line {session : Session} {host : Host} {document : Document}
    {dictionary : Dictionary} {provider : OnDemand}
    (hsupported : session.settings.supports document.language)
    (hget : session.provider.get host = (.ok dictionary, provider)) :
    ∃ result session', session.highlight host document = (.ok result, session')
      ∧ (∀ diagnostic ∈ result.diagnostics, ∃ comment ∈ Comment.extract document.text,
          ∃ m ∈ (session.judge dictionary (Identifier.extract document.text)).misspellings comment.text,
          ∃ offset, diagnostic = comment.diagnosticAt session.settings.severity offset m
            ∧ document.RendersOnOneLine diagnostic.span m.token)
      ∧ ∀ comment ∈ Comment.extract document.text, comment.kind = .line →
          (document.positionAt comment.start).line = (document.positionAt comment.stop).line := by
  refine ⟨_, _, highlight_eq hsupported hget, fun diagnostic hmem => ?_, fun comment hcomment hkind => ?_⟩
  · obtain ⟨comment, hcomment, hmarks, m, hm, offset, heq, hslice⟩ :=
      Judge.exists_misspelling_of_mem_placeAll hmem
    refine ⟨comment, hcomment, m, hm, offset, heq, ?_⟩
    rw [← hslice]
    exact Document.rendersOnOneLine_slice (hmarks.stop_le_length hcomment) fun c hc =>
      Text.isLineBreak_eq_false_of_isBlank (hmarks.tokenChars c hc).2.1
  · have hends := Comment.areCommentsOf_extract document.text
    have hunbroken : ∀ c ∈ comment.span.slice document.text, Text.isLineBreak c = false := by
      rw [hends.slice_eq comment hcomment]
      exact Comment.isLineBreak_eq_false_of_kind hcomment hkind
    exact (Document.rendersOnOneLine_slice (hends.stop_le comment hcomment) hunbroken).line_eq

/-- In a comment of two lines a word is marked on the second one, behind a line separator that is no
line break; and a line comment ends at a lone carriage return. -/
theorem highlight_renders_on_one_line_separators :
    let dictionary : Dictionary := .single "the".toList
    let session : Session := { settings := {}, provider := .ready dictionary }
    let document : Document := { uri := [], text := "/* the\r\n\u2028teh */\n// teh,\rx".toList }
    session.settings.supports document.language
      ∧ session.provider.get {} = (.ok dictionary, session.provider)
      ∧ ∃ result session', session.highlight {} document = (.ok result, session')
        ∧ result.diagnostics.map (document.rangeOf ·.span) = [(⟨1, 1⟩, ⟨1, 4⟩), (⟨2, 3⟩, ⟨2, 6⟩)]
        ∧ (∀ diagnostic ∈ result.diagnostics, document.RendersOnOneLine diagnostic.span "teh".toList)
        ∧ ∃ comment ∈ Comment.extract document.text, comment.kind = .line ∧ comment.start = 16
          ∧ (document.positionAt comment.start).line = (document.positionAt comment.stop).line := by
  intro dictionary session document
  have hsupported : session.settings.supports document.language := by decide
  have hget : session.provider.get {} = (.ok dictionary, session.provider) := rfl
  have hranges : (session.highlight {} document).1.toOption.map
      (·.diagnostics.map (document.rangeOf ·.span)) = some [(⟨1, 1⟩, ⟨1, 4⟩), (⟨2, 3⟩, ⟨2, 6⟩)] := by
    decide +kernel
  have htokens : ∀ comment ∈ Comment.extract document.text,
      ∀ m ∈ (session.judge dictionary (Identifier.extract document.text)).misspellings comment.text,
        m.token = "teh".toList := by decide +kernel
  obtain ⟨comment, hcomment, hkind, hstart⟩ : ∃ comment ∈ Comment.extract document.text,
      comment.kind = .line ∧ comment.start = 16 := by decide +kernel
  obtain ⟨result, session', hresult, hrenders, hlines⟩ := highlight_renders_on_one_line hsupported hget
  rw [hresult] at hranges
  refine ⟨hsupported, hget, result, session', hresult, Option.some.inj hranges, fun diagnostic hmem => ?_,
    comment, hcomment, hkind, hstart, hlines comment hcomment hkind⟩
  obtain ⟨outer, houter, m, hm, -, -, hrendersOn⟩ := hrenders diagnostic hmem
  rwa [htokens outer houter m hm] at hrendersOn

end Session

end CommentSpell
