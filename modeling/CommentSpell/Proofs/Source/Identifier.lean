import CommentSpell.Source.Identifier
import CommentSpell.Proofs.Text.Segment
import Mathlib.Data.List.TakeWhile

/-!
# The form of identifiers

Names, calls and declarations are stated without the functions that read them (`name?_eq_some_iff`,
`call?_eq_some_iff`, `declaration?_eq_some_iff`).  What a scan collects was recognised at some place of its text
(`exists_site_of_mem_values`), so the identifiers of a source are names and calls of names, with arguments
that stand in the code (`isName_or_eq_call_of_mem_extract`).  Each of them begins as a name does
(`beginsAsName_of_mem_extract`), and a call among them has its only closing parenthesis at its end
(`isWritten_of_mem_extract`): a name has none, and arguments stop at the first one.
-/

namespace CommentSpell

/-- Every value of a scan by `site` is that of a `site` at some `rest` with which `text` ends. -/
theorem exists_site_of_mem_values {α : Type} {site : Site α} {before : Option Char} {skip : Nat}
    {text : Text} {value : α} (h : value ∈ Segment.values (scanFrom site before skip text)) :
    ∃ before' rest length, rest <:+ text ∧ site before' rest = some (value, length) := by
  fun_induction scanFrom site before skip text with
  | case1 => cases h
  | case2 _ skip c rest ih =>
    obtain ⟨before', rest', length, hsuffix, hsite⟩ := ih h
    exact ⟨before', rest', length, hsuffix.trans (List.suffix_cons c rest), hsite⟩
  | case3 before c rest found length hsite ih =>
    rw [Segment.values, List.mem_cons] at h
    rcases h with rfl | h
    · exact ⟨before, c :: rest, length + 1, List.suffix_refl _, hsite⟩
    · obtain ⟨before', rest', length', hsuffix, hsite'⟩ := ih h
      exact ⟨before', rest', length', hsuffix.trans (List.suffix_cons c rest), hsite'⟩
  | case4 before c rest _ ih =>
    rw [Segment.values] at h
    obtain ⟨before', rest', length, hsuffix, hsite⟩ := ih h
    exact ⟨before', rest', length, hsuffix.trans (List.suffix_cons c rest), hsite⟩

namespace Identifier

/-- `BeginsAsName text` iff the first character of `text` may begin a name. -/
def BeginsAsName (text : Text) : Prop :=
  ∃ c rest, text = c :: rest ∧ startsName c

theorem BeginsAsName.append {text : Text} (h : BeginsAsName text) (following : Text) :
    BeginsAsName (text ++ following) := by
  obtain ⟨c, rest, rfl, hc⟩ := h
  exact ⟨c, rest ++ following, rfl, hc⟩

/-- A text that begins as a name does not begin with a space. -/
theorem BeginsAsName.head?_ne_space {text : Text} (h : BeginsAsName text) :
    text.head? ≠ some ' ' := by
  obtain ⟨c, rest, rfl, hc⟩ := h
  intro hspace
  obtain rfl := Option.some.inj hspace
  revert hc
  decide

/-! ### Names -/

/-- `IsName text` iff `text` is a character that may begin a name and then characters that may
continue it. -/
def IsName (text : Text) : Prop :=
  ∃ c rest, text = c :: rest ∧ startsName c ∧ ∀ d ∈ rest, continuesName d

theorem IsName.ne_nil {name : Text} (h : IsName name) : name ≠ [] := by
  obtain ⟨c, rest, rfl, -⟩ := h
  exact List.cons_ne_nil c rest

theorem continuesName_of_startsName {c : Char} (h : startsName c) : continuesName c := by
  simp only [startsName, continuesName, Text.isAsciiWord, Char.isAlphanum, Bool.or_eq_true] at h ⊢
  tauto

theorem IsName.continuesName_of_mem {name : Text} (h : IsName name) {c : Char} (hc : c ∈ name) :
    continuesName c := by
  obtain ⟨first, rest, rfl, hfirst, hrest⟩ := h
  rcases List.mem_cons.mp hc with rfl | hc
  · exact continuesName_of_startsName hfirst
  · exact hrest c hc

/-- A name does not have the character `c` if `continuesName c = false`. -/
theorem IsName.not_mem {name : Text} (h : IsName name) {c : Char} (hc : continuesName c = false) :
    c ∉ name := fun hmem =>
  Bool.eq_false_iff.mp hc (h.continuesName_of_mem hmem)

theorem IsName.beginsAsName {name : Text} (h : IsName name) : BeginsAsName name := by
  obtain ⟨c, rest, rfl, hc, -⟩ := h
  exact ⟨c, rest, rfl, hc⟩

/-- `name? text = some (name, following)` iff `text = name ++ following`, `name` is a name, and
`following` does not continue it. -/
theorem name?_eq_some_iff {text name following : Text} :
    name? text = some (name, following)
      ↔ text = name ++ following ∧ IsName name ∧ ∀ c ∈ following.head?, continuesName c = false := by
  constructor
  · intro h
    cases text with
    | nil => cases h
    | cons c rest =>
      rw [name?] at h
      split at h
      · rename_i hc
        obtain ⟨rfl, rfl⟩ := Prod.mk.inj (Option.some.inj h)
        refine ⟨?_, ⟨c, _, rfl, hc, fun d hd => List.mem_takeWhile_imp hd⟩, fun d hd => ?_⟩
        · rw [List.cons_append, List.takeWhile_append_dropWhile]
        · have hhead := List.head?_dropWhile_not continuesName rest
          rwa [hd] at hhead
      · cases h
  · rintro ⟨rfl, ⟨c, rest, rfl, hc, hrest⟩, hfollowing⟩
    rw [List.cons_append, name?, if_pos hc, Text.takeWhile_append_eq_left hrest hfollowing,
      Text.dropWhile_append_eq_right hrest hfollowing]

/-! ### Arguments and calls -/

/-- `arguments? text` are the characters of `text` before its first `)`. -/
theorem arguments?_eq_some_iff {text arguments : Text} :
    arguments? text = some arguments
      ↔ ')' ∉ arguments ∧ ∃ behind, text = arguments ++ ')' :: behind := by
  induction text generalizing arguments with
  | nil => simp [arguments?]
  | cons c rest ih =>
    rw [arguments?]
    by_cases hc : c = ')'
    · rw [if_pos hc, Option.some.injEq]
      constructor
      · rintro rfl
        exact ⟨List.not_mem_nil, rest, by rw [hc, List.nil_append]⟩
      · rintro ⟨hnot, behind, htext⟩
        cases arguments with
        | nil => rfl
        | cons d arguments =>
          obtain ⟨rfl, -⟩ := List.cons.inj htext
          exact absurd List.mem_cons_self (hc ▸ hnot)
    · rw [if_neg hc, Option.map_eq_some_iff]
      constructor
      · rintro ⟨arguments', hrest, rfl⟩
        obtain ⟨hnot, behind, rfl⟩ := ih.mp hrest
        refine ⟨?_, behind, rfl⟩
        rw [List.mem_cons, not_or]
        exact ⟨fun heq => hc heq.symm, hnot⟩
      · rintro ⟨hnot, behind, htext⟩
        cases arguments with
        | nil => exact absurd (List.cons.inj htext).1 hc
        | cons d arguments =>
          obtain ⟨rfl, hrest⟩ := List.cons.inj htext
          exact ⟨arguments, ih.mpr ⟨fun hmem => hnot (List.mem_cons_of_mem _ hmem), behind, hrest⟩, rfl⟩

/-- `continuesName c = false` if `c` is white space. -/
theorem continuesName_of_isAsciiBlank {c : Char} (h : Text.isAsciiBlank c) :
    continuesName c = false := by
  rw [Bool.eq_false_iff, continuesName, Ne, Bool.or_eq_true, not_or]
  rw [Text.isAsciiBlank, Bool.or_eq_true, beq_iff_eq, Bool.and_eq_true, decide_eq_true_eq,
    decide_eq_true_eq] at h
  have htoNat : c.toNat < 36 := by
    rcases h with rfl | h
    · decide
    · omega
  constructor
  · intro hword
    have := Text.toNat_bounds_of_isAsciiWord hword
    omega
  · intro hdollar
    rw [beq_iff_eq.mp hdollar] at htoNat
    revert htoNat
    decide

/-- `name ++ behind` does not begin with white space, if `name` is a name. -/
theorem IsName.isAsciiBlank_of_mem_head?_append {name : Text} (h : IsName name) (behind : Text) :
    ∀ c ∈ (name ++ behind).head?, Text.isAsciiBlank c = false := by
  obtain ⟨c, rest, rfl, hc, -⟩ := h
  intro d hd
  obtain rfl := Option.some.inj hd
  rw [Bool.eq_false_iff]
  intro hblank
  have hcontinues := continuesName_of_startsName hc
  rw [continuesName_of_isAsciiBlank hblank] at hcontinues
  cases hcontinues

/-- Neither white space nor a parenthesis behind a name continues it. -/
theorem continuesName_of_mem_head?_paren {blanks : Text} (hblanks : ∀ c ∈ blanks, Text.isAsciiBlank c)
    (rest : Text) : ∀ c ∈ (blanks ++ '(' :: rest).head?, continuesName c = false := by
  intro c hc
  cases blanks with
  | nil =>
    rw [← Option.some.inj hc]
    decide
  | cons d blanks =>
    rw [← Option.some.inj hc]
    exact continuesName_of_isAsciiBlank (hblanks d List.mem_cons_self)

/-- `call? text = some (identifier, length)` iff `text` begins with a name, perhaps white space, and
arguments in parentheses that are closed at their first `)`; `identifier` is written without that
white space. -/
theorem call?_eq_some_iff {text identifier : Text} {length : Nat} :
    call? text = some (identifier, length)
      ↔ ∃ name blanks arguments behind, text = name ++ blanks ++ '(' :: arguments ++ ')' :: behind
          ∧ IsName name ∧ (∀ c ∈ blanks, Text.isAsciiBlank c) ∧ ')' ∉ arguments
          ∧ identifier = call name arguments
          ∧ length = name.length + blanks.length + arguments.length + 2 := by
  constructor
  · intro h
    unfold call? at h
    obtain ⟨⟨name, following⟩, hname, h⟩ := Option.bind_eq_some_iff.mp h
    dsimp only at h
    split at h
    · rename_i rest hdrop
      obtain ⟨arguments, harguments, h⟩ := Option.bind_eq_some_iff.mp h
      obtain ⟨rfl, rfl⟩ := Prod.mk.inj (Option.some.inj h)
      obtain ⟨rfl, hisName, -⟩ := name?_eq_some_iff.mp hname
      obtain ⟨hnot, behind, rfl⟩ := arguments?_eq_some_iff.mp harguments
      refine ⟨name, following.takeWhile Text.isAsciiBlank, arguments, behind, ?_, hisName,
        fun c hc => List.mem_takeWhile_imp hc, hnot, rfl, rfl⟩
      have hsplit := List.takeWhile_append_dropWhile (p := Text.isAsciiBlank) (l := following)
      rw [hdrop] at hsplit
      nth_rewrite 1 [← hsplit]
      simp only [List.append_assoc, List.cons_append]
    · cases h
  · rintro ⟨name, blanks, arguments, behind, rfl, hname, hblanks, hnot, rfl, rfl⟩
    have hparen : ∀ c ∈ ('(' :: (arguments ++ ')' :: behind)).head?, Text.isAsciiBlank c = false := by
      rintro c hc
      rw [← Option.some.inj hc]
      decide
    have hfound := name?_eq_some_iff.mpr ⟨rfl, hname,
      continuesName_of_mem_head?_paren hblanks (arguments ++ ')' :: behind)⟩
    have harguments := arguments?_eq_some_iff.mpr ⟨hnot, behind, rfl⟩
    rw [List.append_assoc, List.append_assoc, List.cons_append, call?, hfound]
    simp only [Option.bind_eq_bind, Option.bind_some, Text.takeWhile_append_eq_left hblanks hparen,
      Text.dropWhile_append_eq_right hblanks hparen, harguments]

/-! ### Declarations -/

/-- `text` begins with only one of `keywords`, as none of them begins another one. -/
theorem eq_of_keyword_isPrefix {keyword keyword' text : Text} (hmem : keyword ∈ keywords)
    (hmem' : keyword' ∈ keywords) (hbegins : keyword <+: text) (hbegins' : keyword' <+: text) :
    keyword = keyword' := by
  have hkeywords : ∀ a ∈ keywords, ∀ b ∈ keywords, a <+: b → a = b := by decide
  rcases List.prefix_or_prefix_of_prefix hbegins hbegins' with h | h
  · exact hkeywords _ hmem _ hmem' h
  · exact (hkeywords _ hmem' _ hmem h).symm

theorem findSome?_keywords_eq_some_iff {text keyword following : Text} :
    keywords.findSome? (fun keyword => (Text.after? keyword text).map (keyword, ·))
        = some (keyword, following)
      ↔ keyword ∈ keywords ∧ text = keyword ++ following := by
  have hfound : ∀ {a : Text} {p : Text × Text},
      (Text.after? a text).map (a, ·) = some p ↔ p.1 = a ∧ text = a ++ p.2 := by
    rintro a ⟨b, rest⟩
    rw [Option.map_eq_some_iff]
    constructor
    · rintro ⟨rest', hafter, heq⟩
      obtain ⟨rfl, rfl⟩ := Prod.mk.inj heq
      exact ⟨rfl, Text.after?_eq_some_iff.mp hafter⟩
    · rintro ⟨rfl, htext⟩
      exact ⟨rest, Text.after?_eq_some_iff.mpr htext, rfl⟩
  constructor
  · intro h
    obtain ⟨a, ha, hsome⟩ := List.exists_of_findSome?_eq_some h
    obtain ⟨rfl, htext⟩ := hfound.mp hsome
    exact ⟨ha, htext⟩
  · rintro ⟨hmem, rfl⟩
    have hsome : (keywords.findSome? fun a =>
        (Text.after? a (keyword ++ following)).map (a, ·)).isSome := by
      rw [List.findSome?_isSome_iff]
      exact ⟨keyword, hmem, Option.isSome_iff_exists.mpr
        ⟨(keyword, following), hfound.mpr ⟨rfl, rfl⟩⟩⟩
    obtain ⟨⟨a, rest⟩, h⟩ := Option.isSome_iff_exists.mp hsome
    obtain ⟨b, hb, hsome⟩ := List.exists_of_findSome?_eq_some h
    obtain ⟨rfl, htext⟩ := hfound.mp hsome
    obtain rfl := eq_of_keyword_isPrefix hmem hb ⟨following, rfl⟩ ⟨rest, htext.symm⟩
    rw [h, List.append_cancel_left htext]

/-- `declaration? text = some (name, length)` iff `text` begins with a keyword, white space, and
`name` as the longest name behind it. -/
theorem declaration?_eq_some_iff {text name : Text} {length : Nat} :
    declaration? text = some (name, length)
      ↔ ∃ keyword blanks behind, text = keyword ++ blanks ++ name ++ behind
          ∧ keyword ∈ keywords ∧ blanks ≠ [] ∧ (∀ c ∈ blanks, Text.isAsciiBlank c)
          ∧ IsName name ∧ (∀ c ∈ behind.head?, continuesName c = false)
          ∧ length = keyword.length + blanks.length + name.length := by
  constructor
  · intro h
    unfold declaration? at h
    obtain ⟨⟨keyword, following⟩, hkeyword, h⟩ := Option.bind_eq_some_iff.mp h
    obtain ⟨hmem, htext⟩ := findSome?_keywords_eq_some_iff.mp hkeyword
    dsimp only at h
    split at h
    · cases h
    · rename_i hblanks
      obtain ⟨⟨name', behind⟩, hname, h⟩ := Option.bind_eq_some_iff.mp h
      obtain ⟨rfl, rfl⟩ := Prod.mk.inj (Option.some.inj h)
      obtain ⟨hdrop, hisName, hbehind⟩ := name?_eq_some_iff.mp hname
      refine ⟨keyword, following.takeWhile Text.isAsciiBlank, behind, ?_, hmem, ?_,
        fun c hc => List.mem_takeWhile_imp hc, hisName, hbehind, rfl⟩
      · rw [htext, List.append_assoc, ← hdrop, List.append_assoc, List.takeWhile_append_dropWhile]
      · rwa [List.isEmpty_iff] at hblanks
  · rintro ⟨keyword, blanks, behind, rfl, hmem, hne, hblanks, hname, hbehind, rfl⟩
    have hhead := hname.isAsciiBlank_of_mem_head?_append behind
    have hkeyword : (keywords.findSome? fun a =>
        (Text.after? a (keyword ++ (blanks ++ (name ++ behind)))).map (a, ·))
          = some (keyword, blanks ++ (name ++ behind)) :=
      findSome?_keywords_eq_some_iff.mpr ⟨hmem, rfl⟩
    have hfound := name?_eq_some_iff.mpr ⟨rfl, hname, hbehind⟩
    rw [List.append_assoc, List.append_assoc, declaration?, hkeyword]
    simp only [Option.bind_eq_bind, Option.bind_some, Text.takeWhile_append_eq_left hblanks hhead,
      Text.dropWhile_append_eq_right hblanks hhead, hfound, List.isEmpty_iff, if_neg hne]

/-! ### The identifiers of a source -/

/-- An identifier of `source` is a name, or it is `call name arguments` and its arguments in
parentheses stand in the code of `source`. -/
theorem isName_or_eq_call_of_mem_extract {source identifier : Text} (h : identifier ∈ extract source) :
    IsName identifier
      ∨ ∃ name arguments, identifier = call name arguments ∧ IsName name ∧ ')' ∉ arguments
          ∧ '(' :: arguments ++ [')'] <:+: Comment.strip source := by
  unfold extract at h
  rw [List.mem_eraseDups, List.mem_append, declarations, calls, List.mem_eraseDups,
    List.mem_eraseDups] at h
  rcases h with h | h
  · obtain ⟨before, rest, length, -, hsite⟩ := exists_site_of_mem_values h
    unfold declarationSite at hsite
    split at hsite
    · obtain ⟨keyword, blanks, behind, -, -, -, -, hname, -⟩ := declaration?_eq_some_iff.mp hsite
      exact Or.inl hname
    · cases hsite
  · obtain ⟨before, rest, length, hsuffix, hsite⟩ := exists_site_of_mem_values h
    unfold callSite at hsite
    split at hsite
    · obtain ⟨name, blanks, arguments, behind, rfl, hname, -, hnot, rfl, -⟩ := call?_eq_some_iff.mp hsite
      refine Or.inr ⟨name, arguments, rfl, hname, hnot, List.IsInfix.trans ?_ hsuffix.isInfix⟩
      exact ⟨name ++ blanks, behind, by simp⟩
    · cases hsite

/-- An identifier of `source` begins as a name does. -/
theorem beginsAsName_of_mem_extract {source identifier : Text} (h : identifier ∈ extract source) :
    BeginsAsName identifier := by
  rcases isName_or_eq_call_of_mem_extract h with hname | ⟨name, arguments, rfl, hname, -, -⟩
  · exact hname.beginsAsName
  · exact (hname.beginsAsName.append ('(' :: arguments)).append [')']

/-- `ClosesAtEnd text` iff the only closing parenthesis of `text` is its last character. -/
def ClosesAtEnd (text : Text) : Prop :=
  ∃ body, text = body ++ [')'] ∧ ')' ∉ body

theorem ClosesAtEnd.getElem?_eq_some_iff {text : Text} (h : ClosesAtEnd text) {i : Nat} :
    text[i]? = some ')' ↔ i + 1 = text.length := by
  obtain ⟨body, rfl, hbody⟩ := h
  rw [List.length_append, List.length_singleton, Nat.add_right_cancel_iff]
  constructor
  · intro hparen
    by_contra hne
    rcases Nat.lt_or_gt_of_ne hne with hlt | hgt
    · rw [List.getElem?_append_left hlt] at hparen
      exact hbody (List.mem_of_getElem? hparen)
    · rw [List.getElem?_eq_none (by rw [List.length_append, List.length_singleton]; omega)] at hparen
      cases hparen
  · rintro rfl
    exact List.getElem?_concat_length

/-- `IsWritten call` iff `call` is as a source has it: it begins as a name does and
`ClosesAtEnd call`. -/
structure IsWritten (call : Text) : Prop where
  begins : BeginsAsName call
  closes : ClosesAtEnd call

theorem IsWritten.length_pos {call : Text} (h : IsWritten call) : 0 < call.length := by
  obtain ⟨c, rest, rfl, -⟩ := h.begins
  exact Nat.succ_pos rest.length

theorem isWritten_of_mem_extract {source identifier : Text} (h : identifier ∈ extract source)
    (hcall : isCall identifier) : IsWritten identifier := by
  refine ⟨beginsAsName_of_mem_extract h, ?_⟩
  rcases isName_or_eq_call_of_mem_extract h with hname | ⟨name, arguments, rfl, hname, hnot, -⟩
  · -- a name does not end with a parenthesis, so it is no call
    rw [isCall, Bool.and_eq_true, Text.endsWith, beq_iff_eq] at hcall
    exact absurd (List.mem_of_getLast? hcall.1) (hname.not_mem (by decide))
  · refine ⟨name ++ '(' :: arguments, rfl, ?_⟩
    rw [List.mem_append, List.mem_cons, not_or, not_or]
    exact ⟨hname.not_mem (by decide), by decide, hnot⟩

end Identifier

end CommentSpell
