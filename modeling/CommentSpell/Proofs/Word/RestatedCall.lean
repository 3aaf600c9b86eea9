import CommentSpell.Proofs.Source.Stripped
import CommentSpell.Proofs.Word.MaskUnion
import CommentSpell.Proofs.Word.Verdict

/-!
# Calls that a comment restates

A call of the code is collected if its name begins a word and no earlier call runs into it
(`call_mem_extract`): before the first opening parenthesis stands one name only, with white space behind it,
so no call is read from a place before the name.  A comment that restates a collected call has the call
blanked, and if nothing else in it has letters, no token of it is flagged
(`Judge.misspellings_eq_nil_of_inRestated`).

The two readings differ in what begins a word.  For a call of the code it is a boundary of ASCII words, and a
dollar sign is no character of these, so a name that begins with a dollar sign is collected without it.  For a
restatement the dollar sign does continue a word, so what was collected is not found behind the dollar sign,
and the tokens of such a restatement are judged.
-/

namespace CommentSpell

namespace Identifier

variable {name arguments front behind : Text}

/-! ### Collecting a call -/

theorem isCall_call (name arguments : Text) : isCall (call name arguments) := by
  have hlast : (call name arguments).getLast? = some ')' := List.getLast?_concat
  have hparen : '(' ∈ call name arguments := by simp [call]
  rw [isCall, Text.endsWith, hlast, beq_self_eq_true, Bool.true_and, List.elem_iff]
  exact hparen

/-- `a ++ '(' :: s = b ++ '(' :: t` gives `a = b`, if neither has an opening parenthesis. -/
theorem eq_of_append_paren {a b s t : Text} (ha : '(' ∉ a) (hb : '(' ∉ b)
    (h : a ++ '(' :: s = b ++ '(' :: t) : a = b := by
  have hbefore : ∀ x y : Text, '(' ∉ x → (x ++ '(' :: y).takeWhile (· != '(') = x := by
    refine fun x y hx => Text.takeWhile_append_eq_left (fun c hc => ?_) (by simp)
    rw [bne_iff_ne]
    exact ne_of_mem_of_not_mem hc hx
  rw [← hbefore a s ha, h, hbefore b t hb]

/-- `call?` reads no call from `front` on if more than a name, and white space behind it, stands
before the parenthesis. -/
theorem call?_append_eq_none (hne : front ≠ []) (hparen : '(' ∉ front)
    (hlast : ∀ c ∈ front.getLast?, continuesName c = false) (hname : IsName name) (rest : Text) :
    call? (front ++ name ++ '(' :: rest) = none := by
  by_contra hsome
  obtain ⟨⟨identifier, length⟩, hcall⟩ := Option.ne_none_iff_exists'.mp hsome
  obtain ⟨name', blanks, arguments, behind, htext, hname', hblanks, -⟩ := call?_eq_some_iff.mp hcall
  have hnoParen : '(' ∉ front ++ name := by
    rw [List.mem_append, not_or]
    exact ⟨hparen, hname.not_mem (by decide)⟩
  have hnoParen' : '(' ∉ name' ++ blanks := by
    rw [List.mem_append, not_or]
    exact ⟨hname'.not_mem (by decide), fun hmem => absurd (hblanks _ hmem) (by decide)⟩
  rw [List.append_assoc (name' ++ blanks), List.cons_append] at htext
  have hbefore : front ++ name = name' ++ blanks := eq_of_append_paren hnoParen hnoParen' htext
  -- the name is at the end, so there is no white space behind the one that is read
  have hnoBlanks : blanks = [] := by
    by_contra hblank
    have hends := congrArg List.getLast? hbefore
    rw [List.getLast?_append_of_ne_nil _ hname.ne_nil, List.getLast?_append_of_ne_nil _ hblank,
      List.getLast?_eq_some_getLast hblank] at hends
    have hcontinues := hname.continuesName_of_mem (List.mem_of_getLast? hends)
    rw [continuesName_of_isAsciiBlank (hblanks _ (List.getLast_mem hblank))] at hcontinues
    cases hcontinues
  rw [hnoBlanks, List.append_nil] at hbefore
  have hmem : front.getLast hne ∈ name' := by
    rw [← hbefore]
    exact List.mem_append_left _ (List.getLast_mem hne)
  have hcontinues := hname'.continuesName_of_mem hmem
  rw [hlast _ (List.getLast?_eq_some_getLast hne)] at hcontinues
  cases hcontinues

/-- `callSite` reads `call name arguments` where `name` begins a word. -/
theorem callSite_call (hname : IsName name) (hfirst : name.head? ≠ some '$') (harguments : ')' ∉ arguments)
    {before : Option Char} (hbefore : ∀ c ∈ before, continuesName c = false) (behind : Text) :
    callSite before (call name arguments ++ behind)
      = some (call name arguments, name.length + arguments.length + 1 + 1) := by
  have hcall : call? (call name arguments ++ behind)
      = some (call name arguments, name.length + arguments.length + 1 + 1) := by
    refine call?_eq_some_iff.mpr ⟨name, [], arguments, behind, ?_, hname, List.forall_mem_nil _,
      harguments, rfl, ?_⟩
    · simp [call]
    · simp
  have hnotWord : Text.isWordAt before = false := by
    cases before with
    | none => rfl
    | some c =>
      have hc := hbefore c rfl
      rw [continuesName, Bool.or_eq_false_iff] at hc
      exact hc.1
  have hword : Text.isWordAt (call name arguments ++ behind).head? := by
    obtain ⟨c, rest, rfl, hc, -⟩ := hname
    have hdollar : c ≠ '$' := fun heq => hfirst (congrArg some heq)
    have hcontinues := continuesName_of_startsName hc
    rw [continuesName, Bool.or_eq_true, beq_iff_eq] at hcontinues
    exact hcontinues.resolve_right hdollar
  rw [callSite, Text.isBoundary, hnotWord, hword]
  exact hcall

theorem call_mem_values_scanFrom (hname : IsName name) (hfirst : name.head? ≠ some '$')
    (harguments : ')' ∉ arguments) (hparen : '(' ∉ front) {before : Option Char}
    (hlast : ∀ c ∈ front.getLast?.or before, continuesName c = false) :
    call name arguments
      ∈ Segment.values (scanFrom callSite before 0 (front ++ call name arguments ++ behind)) := by
  induction front generalizing before with
  | nil =>
    have hne : call name arguments ++ behind ≠ [] := by simp [call]
    rw [List.getLast?_nil, Option.none_or] at hlast
    rw [List.nil_append, scanFrom_hit hne (callSite_call hname hfirst harguments hlast behind)]
    exact List.mem_cons_self
  | cons c front ih =>
    -- no call is read from a place before the name
    have hnone : callSite before (c :: (front ++ call name arguments ++ behind)) = none := by
      have hend : ∀ d ∈ (c :: front).getLast?, continuesName d = false := by
        intro d hd
        apply hlast
        rw [hd]
        rfl
      have hcall := call?_append_eq_none (List.cons_ne_nil c front) hparen hend hname
        (arguments ++ ')' :: behind)
      have htext : c :: (front ++ call name arguments ++ behind)
          = c :: front ++ name ++ '(' :: (arguments ++ ')' :: behind) := by simp [call]
      unfold callSite
      rw [htext, hcall, ite_self]
    rw [List.cons_append, List.cons_append, scanFrom_of_eq_none hnone, Segment.values]
    refine ih (fun hmem => hparen (List.mem_cons_of_mem _ hmem)) fun d hd => hlast d ?_
    rw [List.getLast?_cons]
    cases hfront : front.getLast? with
    | none =>
      rw [hfront] at hd
      exact hd
    | some e =>
      rw [hfront] at hd
      exact hd

/-- `call name arguments ∈ extract source` if, in the code of `source`, no parenthesis is opened
before it and `name` begins a word. -/
theorem call_mem_extract {source : Text} (hname : IsName name) (hfirst : name.head? ≠ some '$')
    (harguments : ')' ∉ arguments) (hparen : '(' ∉ front)
    (hlast : ∀ c ∈ front.getLast?, continuesName c = false)
    (hcode : Comment.strip source = front ++ call name arguments ++ behind) :
    call name arguments ∈ extract source := by
  have hlast' : ∀ c ∈ front.getLast?.or none, continuesName c = false := by
    rwa [Option.or_none]
  unfold extract
  rw [List.mem_eraseDups, List.mem_append, hcode, calls, List.mem_eraseDups]
  exact Or.inr (call_mem_values_scanFrom hname hfirst harguments hparen hlast')

theorem isDelimiter_eq_false_of_all {text : Text} (h : text.all (!isDelimiter ·)) :
    ∀ c ∈ text, isDelimiter c = false := by
  intro c hc
  rw [← Bool.not_eq_true']
  exact List.all_eq_true.mp h c hc

/-- A character that continues names is no delimiter of comments. -/
theorem isDelimiter_eq_false_of_continuesName {c : Char} (h : continuesName c) :
    isDelimiter c = false := by
  rw [isDelimiter_eq_false_iff]
  refine ⟨?_, ?_, ?_, ?_⟩ <;> rintro rfl <;> revert h <;> decide

theorem isDelimiter_eq_false_of_mem_call (hname : IsName name)
    (harguments : ∀ c ∈ arguments, isDelimiter c = false) :
    ∀ c ∈ call name arguments, isDelimiter c = false := by
  intro c hc
  rw [call, List.mem_append, List.mem_append, List.mem_cons, List.mem_singleton] at hc
  rcases hc with (hc | rfl | hc) | rfl
  · exact isDelimiter_eq_false_of_continuesName (hname.continuesName_of_mem hc)
  · decide
  · exact harguments c hc
  · decide

end Identifier

/-! ### Restating a call -/

open Identifier

/-- `judge.misspellings text = []` if all letters of `text` lie in restated calls. -/
theorem Judge.misspellings_eq_nil_of_inRestated {judge : Judge} (hmin : 1 ≤ judge.minWordLength)
    (hcalls : ∀ identifier ∈ judge.identifiers, isCall identifier → IsWritten identifier) {text : Text}
    (h : ∀ i, ∀ c ∈ text[i]?, c.isAlpha → InRestated (judge.identifiers.filter isCall) text i) :
    judge.misspellings text = [] := by
  have hmasked := blankedAt_maskCalls hcalls text
  refine List.eq_nil_iff_forall_not_mem.mpr fun m hm => ?_
  obtain ⟨token, htoken, hflags, -⟩ := mem_misspellings_iff.mp hm
  apply hflags.cleanWord_ne_nil hmin
  refine List.filter_eq_nil_iff.mpr fun c hc halpha => ?_
  obtain ⟨i, hi⟩ := List.mem_iff_getElem?.mp (mem_of_mem_tokenize htoken hc)
  by_cases hin : InRestated (judge.identifiers.filter isCall) text i
  · rw [hmasked.blank i hin, Option.some.injEq] at hi
    rw [← hi] at halpha
    revert halpha
    decide
  · rw [hmasked.kept i hin] at hi
    exact hin (h i c hi halpha)

/-- `restating text` is the line comment that restates `text`. -/
def restating (text : Text) : Text :=
  "// ".toList ++ text

/-- `restatedBelow code text` is `code`, and on the next line a comment that restates `text`. -/
def restatedBelow (code text : Text) : Text :=
  code ++ '\n' :: restating text

theorem restating_eq (text : Text) : restating text = '/' :: '/' :: ' ' :: text := rfl

section Restating

variable {text : Text} (htext : ∀ c ∈ text, isDelimiter c = false)

include htext

/-- `restating text` is one comment, if `text` has no delimiters. -/
theorem length?_restating :
    Comment.length? (restating text) = some (restating text).length := by
  have hbody : ∀ c ∈ ' ' :: text, isDelimiter c = false := List.forall_mem_cons.mpr ⟨by decide, htext⟩
  have hunbroken : ∀ c ∈ ' ' :: text, Text.isLineBreak c = false := by
    intro c hc
    have hdelimiter := hbody c hc
    rw [isDelimiter, Bool.or_eq_false_iff] at hdelimiter
    exact hdelimiter.2
  have hline : Comment.length? ('/' :: '/' :: ' ' :: text ++ []) = some ('/' :: '/' :: ' ' :: text).length :=
    Comment.length?_line_append_iff.mpr ⟨hunbroken, by simp⟩
  rw [List.append_nil] at hline
  exact hline

theorem not_readsAt_closer_restating (j : Nat) : ¬ (restating text).ReadsAt ['*', '/'] j := by
  intro hreads
  have hstar : '*' ∈ '/' :: '/' :: ' ' :: text :=
    List.mem_of_mem_drop (hreads.subset List.mem_cons_self)
  have hbody : '*' ∈ text := by simpa using hstar
  exact absurd (htext '*' hbody) (by decide)

end Restating

theorem restatedAt_restating (text : Text) : RestatedAt (restating text) text 3 := by
  rw [restating_eq]
  have hbefore : Text.charBefore ('/' :: '/' :: ' ' :: text) 3 = some ' ' := rfl
  refine ⟨List.prefix_refl text, ?_⟩
  rw [hbefore]
  decide

/-- The letters of `restating text` lie in restated calls, if `text` is one of `calls`. -/
theorem inRestated_of_isAlpha {calls : List Text} {text : Text} (hmem : text ∈ calls) {i : Nat} {c : Char}
    (hc : (restating text)[i]? = some c) (halpha : c.isAlpha) : InRestated calls (restating text) i := by
  have hlength : i < (restating text).length := (List.getElem?_eq_some_iff.mp hc).1
  rw [restating_eq, List.length_cons, List.length_cons, List.length_cons] at hlength
  rw [restating_eq] at hc
  refine ⟨text, hmem, 3, restatedAt_restating text, ?_, by omega⟩
  -- the first three characters are no letters
  by_contra hlt
  have hfront : i = 0 ∨ i = 1 ∨ i = 2 := by omega
  rcases hfront with rfl | rfl | rfl <;>
    · rw [← Option.some.inj hc] at halpha
      revert halpha
      decide

/-- **A restated call is excluded as a whole.** `code` has no comments, and in it stands
`call name arguments`, behind text `a` that opens no parenthesis and ends with no character of a name;
the next line restates that call.  If `name` does not begin with a dollar sign, or the call is
collected from another place, it is among the identifiers and nothing in that comment is flagged,
whatever the dictionary accepts, whatever is ignored and however short words may be. -/
theorem misspellings_restating {code a b name arguments : Text}
    (hcode : code = a ++ call name arguments ++ b) (hfree : Comment.extract code = [])
    (hname : IsName name) (hclose : ')' ∉ arguments)
    (harguments : ∀ c ∈ arguments, isDelimiter c = false) (hparen : '(' ∉ a)
    (hlast : ∀ c ∈ a.getLast?, continuesName c = false)
    (hfound : name.head? ≠ some '$'
      ∨ call name arguments ∈ extract (restatedBelow code (call name arguments))) :
    Comment.extract (restatedBelow code (call name arguments))
        = [⟨restating (call name arguments), code.length + 1⟩]
      ∧ call name arguments ∈ extract (restatedBelow code (call name arguments))
      ∧ ∀ judge : Judge, 1 ≤ judge.minWordLength →
          (∀ identifier, identifier ∈ judge.identifiers
            ↔ identifier ∈ extract (restatedBelow code (call name arguments))) →
          judge.misspellings (restating (call name arguments)) = [] := by
  have hopens := Comment.extract_eq_nil_iff.mp hfree
  have hdelimiters := isDelimiter_eq_false_of_mem_call hname harguments
  have hlength := length?_restating hdelimiters
  have hcloser := not_readsAt_closer_restating hdelimiters
  have hcollected : call name arguments ∈ extract (restatedBelow code (call name arguments)) := by
    rcases hfound with hfirst | hcollected
    · have hstrip : Comment.strip (restatedBelow code (call name arguments))
          = a ++ call name arguments ++ (b ++ ['\n']) := by
        rw [restatedBelow, Comment.strip_trailing hopens hlength hcloser, hcode, List.append_assoc _ b]
      exact call_mem_extract hname hfirst hclose hparen hlast hstrip
    · exact hcollected
  refine ⟨Comment.extract_trailing hopens hlength hcloser, hcollected, fun judge hmin hidentifiers => ?_⟩
  apply Judge.misspellings_eq_nil_of_inRestated hmin
  · exact fun identifier hmem hisCall =>
      isWritten_of_mem_extract ((hidentifiers identifier).mp hmem) hisCall
  · have hmem : call name arguments ∈ judge.identifiers.filter isCall :=
      List.mem_filter.mpr ⟨(hidentifiers _).mpr hcollected, isCall_call name arguments⟩
    exact fun i c hc halpha => inRestated_of_isAlpha hmem hc halpha

/-- The arguments open a parenthesis that they do not close, and hold the beginning of a shorter call
that the code has as well. -/
theorem misspellings_restating_nested :
    let code := "let é = oo$lgo(tset, f(y)); f(y);".toList
    let judge : Judge :=
      { dictionary := { check := fun _ => false, suggest := fun _ => [] }
        minWordLength := 1
        identifiers := extract (restatedBelow code "oo$lgo(tset, f(y)".toList)
        ignored := [] }
    Comment.extract code = [] ∧ judge.misspellings (restating "oo$lgo(tset, f(y)".toList) = [] := by
  intro code judge
  have hcode : code
      = "let é = ".toList ++ call "oo$lgo".toList "tset, f(y".toList ++ "); f(y);".toList := by
    decide +kernel
  have hfree : Comment.extract code = [] := by decide +kernel
  have hname : IsName "oo$lgo".toList :=
    ⟨'o', "o$lgo".toList, rfl, rfl, List.all_eq_true.mp (by decide +kernel)⟩
  have harguments : ∀ c ∈ "tset, f(y".toList, isDelimiter c = false :=
    isDelimiter_eq_false_of_all (by decide +kernel)
  have hlast : ∀ c ∈ "let é = ".toList.getLast?, continuesName c = false := by
    intro c hc
    rw [← Option.some.inj hc]
    rfl
  have hrestated := misspellings_restating hcode hfree hname (by decide) harguments (by decide) hlast
    (Or.inl (by decide))
  exact ⟨hfree, hrestated.2.2 judge (Nat.le_refl 1) fun _ => Iff.rfl⟩

/-- The dollar sign with which a name begins is not collected, so the restated call is not blanked. -/
theorem misspellings_restating_dollar :
    let code := "$log(tset);".toList
    let judge : Judge :=
      { dictionary := { check := fun _ => false, suggest := fun _ => [] }
        minWordLength := 3
        identifiers := extract (restatedBelow code "$log(tset)".toList)
        ignored := [] }
    code = [] ++ call "$log".toList "tset".toList ++ ";".toList
      ∧ Comment.extract code = []
      ∧ IsName "$log".toList
      ∧ ')' ∉ "tset".toList
      ∧ (∀ c ∈ "tset".toList, isDelimiter c = false)
      ∧ judge.identifiers = ["log(tset)".toList]
      ∧ judge.misspellings (restating "$log(tset)".toList)
          = [⟨"$log(tset)".toList, "logtset".toList, []⟩] := by
  intro code judge
  have hname : IsName "$log".toList :=
    ⟨'$', "log".toList, rfl, rfl, List.all_eq_true.mp (by decide +kernel)⟩
  have harguments : ∀ c ∈ "tset".toList, isDelimiter c = false :=
    isDelimiter_eq_false_of_all (by decide +kernel)
  exact ⟨by decide +kernel, by decide +kernel, hname, by decide, harguments, by decide +kernel,
    by decide +kernel⟩

end CommentSpell
