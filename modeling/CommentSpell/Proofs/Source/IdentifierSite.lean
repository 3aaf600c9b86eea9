import CommentSpell.Proofs.Source.Identifier
import CommentSpell.Proofs.Text.Leftmost

/-!
# Where identifiers are collected

The places of a code that give an identifier are stated as intervals: a call starts at a word boundary and
reads the longest name there, perhaps white space, and parentheses with all up to the first closing one
(`ReadsCall`); a declaration starts at a word boundary and reads a keyword, white space and the longest name
behind it (`ReadsDeclaration`).  Such intervals may overlap: a call in the arguments of another one, a name
that has a dollar sign in it, a keyword that is declared as a name.  The identifiers that are collected are
those of the one set of disjoint intervals that leaves out an interval only for an earlier one which overlaps
it (`collected_from_leftmost`).
-/

namespace CommentSpell

namespace Identifier

/-- `ReadsCall code span name blanks arguments` iff `span` starts at a word boundary of `code` and
reads there the longest `name`, white space `blanks`, which may be missing, and `arguments` in
parentheses up to the first closing one. -/
structure ReadsCall (code : Text) (span : Span) (name blanks arguments : Text) : Prop where
  boundary : Text.isBoundary (code.charBefore span.start) code[span.start]?
  reads : code.ReadsAt (name ++ blanks ++ '(' :: arguments ++ [')']) span.start
  length_eq : span.length = (name ++ blanks ++ '(' :: arguments ++ [')']).length
  isName : IsName name
  longest : ∀ c ∈ code[span.start + name.length]?, continuesName c = false
  isBlank : ∀ c ∈ blanks, Text.isAsciiBlank c
  first : ')' ∉ arguments

/-- `ReadsDeclaration code span keyword blanks name` iff `span` starts at a word boundary of `code`
and reads there a `keyword`, white space `blanks`, and the longest `name` behind it. -/
structure ReadsDeclaration (code : Text) (span : Span) (keyword blanks name : Text) : Prop where
  boundary : Text.isBoundary (code.charBefore span.start) code[span.start]?
  reads : code.ReadsAt (keyword ++ blanks ++ name) span.start
  length_eq : span.length = (keyword ++ blanks ++ name).length
  isKeyword : keyword ∈ keywords
  blanks_ne_nil : blanks ≠ []
  isBlank : ∀ c ∈ blanks, Text.isAsciiBlank c
  isName : IsName name
  longest : ∀ c ∈ code[span.stop]?, continuesName c = false

/-- `IsCallSite code span identifier` iff `span` is a call in `code`, and `identifier` is that call
without the white space behind its name. -/
def IsCallSite (code : Text) (span : Span) (identifier : Text) : Prop :=
  ∃ name blanks arguments, ReadsCall code span name blanks arguments
    ∧ identifier = name ++ '(' :: arguments ++ [')']

/-- `IsDeclarationSite code span name` iff `span` is a declaration of `name` in `code`. -/
def IsDeclarationSite (code : Text) (span : Span) (name : Text) : Prop :=
  ∃ keyword blanks, ReadsDeclaration code span keyword blanks name

/-! ### Sites are read where they start -/

theorem callSite_eq_some_iff {before : Option Char} {rest identifier : Text} {length : Nat} :
    callSite before rest = some (identifier, length)
      ↔ Text.isBoundary before rest.head? ∧ call? rest = some (identifier, length) :=
  Option.ite_none_right_eq_some

theorem declarationSite_eq_some_iff {before : Option Char} {rest name : Text} {length : Nat} :
    declarationSite before rest = some (name, length)
      ↔ Text.isBoundary before rest.head? ∧ declaration? rest = some (name, length) :=
  Option.ite_none_right_eq_some

theorem callSite_startsAt_iff (code : Text) (span : Span) (identifier : Text) :
    callSite.StartsAt code span.start identifier span.length ↔ IsCallSite code span identifier := by
  rw [Site.StartsAt, callSite_eq_some_iff, List.head?_drop, call?_eq_some_iff]
  constructor
  · rintro ⟨⟨hboundary, name, blanks, arguments, behind, hdrop, hname, hblanks, hnot, hcall, hlength⟩, -⟩
    refine ⟨name, blanks, arguments, ⟨hboundary, ⟨behind, ?_⟩, ?_, hname, ?_, hblanks, hnot⟩, hcall⟩
    · rw [hdrop]
      simp
    · rw [hlength]
      simp only [List.length_append, List.length_cons, List.length_nil]
      omega
    · have hnext : code[span.start + name.length]?
          = (blanks ++ '(' :: (arguments ++ ')' :: behind)).head? := by
        rw [← List.head?_drop, ← List.drop_drop, hdrop, List.append_assoc, List.append_assoc,
          List.drop_left, List.cons_append]
      rw [hnext]
      exact continuesName_of_mem_head?_paren hblanks _
  · rintro ⟨name, blanks, arguments, hreads, hcall⟩
    obtain ⟨behind, hdrop⟩ := hreads.reads
    have hlength := hreads.length_eq
    refine ⟨⟨hreads.boundary, name, blanks, arguments, behind, ?_, hreads.isName, hreads.isBlank,
      hreads.first, hcall, ?_⟩, ?_⟩
    · rw [← hdrop]
      simp
    · rw [hlength]
      simp only [List.length_append, List.length_cons, List.length_nil]
      omega
    · rw [hlength]
      exact List.length_pos_of_mem (List.mem_append_right _ (List.mem_singleton_self ')'))

theorem declarationSite_startsAt_iff (code : Text) (span : Span) (name : Text) :
    declarationSite.StartsAt code span.start name span.length ↔ IsDeclarationSite code span name := by
  rw [Site.StartsAt, declarationSite_eq_some_iff, List.head?_drop, declaration?_eq_some_iff]
  have hnext : ∀ {read behind : Text}, read ++ behind = code.drop span.start →
      span.length = read.length → code[span.stop]? = behind.head? := by
    intro read behind hdrop hlength
    have hstop : span.stop = span.start + read.length := by
      rw [← hlength, Span.length, Nat.add_sub_cancel' span.start_le_stop]
    rw [hstop, ← List.head?_drop, ← List.drop_drop, ← hdrop, List.drop_left]
  constructor
  · rintro ⟨⟨hboundary, keyword, blanks, behind, hdrop, hkeyword, hne, hblanks, hname, hbehind, hlength⟩, -⟩
    have hlength' : span.length = (keyword ++ blanks ++ name).length := by
      rw [hlength, List.length_append, List.length_append]
    refine ⟨keyword, blanks, hboundary, ⟨behind, hdrop.symm⟩, hlength', hkeyword, hne, hblanks, hname, ?_⟩
    rw [hnext hdrop.symm hlength']
    exact hbehind
  · rintro ⟨keyword, blanks, hreads⟩
    obtain ⟨behind, hdrop⟩ := hreads.reads
    have hlength := hreads.length_eq
    have hlongest := hreads.longest
    rw [hnext hdrop hlength] at hlongest
    refine ⟨⟨hreads.boundary, keyword, blanks, behind, hdrop.symm, hreads.isKeyword, hreads.blanks_ne_nil,
      hreads.isBlank, hreads.isName, hlongest, ?_⟩, ?_⟩
    · rw [hlength, List.length_append, List.length_append]
    · rw [hlength]
      exact List.length_pos_iff.mpr (List.append_ne_nil_of_right_ne_nil _ hreads.isName.ne_nil)

/-! ### Leftmost sites -/

theorem callSite_fits : callSite.Fits := by
  intro before text identifier length h
  obtain ⟨name, blanks, arguments, behind, rfl, -, -, -, -, rfl⟩ :=
    call?_eq_some_iff.mp (callSite_eq_some_iff.mp h).2
  simp only [List.length_append, List.length_cons]
  omega

theorem declarationSite_fits : declarationSite.Fits := by
  intro before text name length h
  obtain ⟨keyword, blanks, behind, rfl, -, -, -, -, -, rfl⟩ :=
    declaration?_eq_some_iff.mp (declarationSite_eq_some_iff.mp h).2
  simp only [List.length_append]
  omega

/-- **Identifiers are collected from the left.** Among the spans of `code` that are calls there is one
set `chosen` of which no two overlap, and in which a call is missing only if it overlaps an earlier
one of `chosen`; `calls code` are the calls of these spans.  The same holds of declarations and
`declarations code`. -/
theorem collected_from_leftmost (code : Text) :
    (∃ chosen,
        (∀ spans, IsLeftmostSet (fun span => ∃ identifier, IsCallSite code span identifier) spans
          ↔ spans = chosen)
        ∧ ∀ identifier, identifier ∈ calls code
            ↔ ∃ span ∈ chosen, IsCallSite code span identifier)
      ∧ ∃ chosen,
        (∀ spans, IsLeftmostSet (fun span => ∃ name, IsDeclarationSite code span name) spans
          ↔ spans = chosen)
        ∧ ∀ name, name ∈ declarations code ↔ ∃ span ∈ chosen, IsDeclarationSite code span name := by
  constructor
  · obtain ⟨chosen, hchosen, hvalues⟩ :=
      exists_isLeftmostSet callSite_fits code (callSite_startsAt_iff code)
    exact ⟨chosen, hchosen, fun identifier => by rw [calls, List.mem_eraseDups, hvalues]⟩
  · obtain ⟨chosen, hchosen, hvalues⟩ :=
      exists_isLeftmostSet declarationSite_fits code (declarationSite_startsAt_iff code)
    exact ⟨chosen, hchosen, fun name => by rw [declarations, List.mem_eraseDups, hvalues]⟩

/-- A name is not read again from its dollar sign on, and a call that an earlier one has taken in gives
nothing. -/
example : calls "a$b (x) f(g(y))".toList = ["a$b(x)".toList, "f(g(y)".toList] := by decide

/-- A keyword that is declared as a name introduces nothing itself. -/
example : declarations "let var x".toList = ["var".toList] := by decide

end Identifier

end CommentSpell
