import CommentSpell.Text.WordChar
import CommentSpell.Word.Token
import CommentSpell.Proofs.Text.Runs

/-!
# Tokens and where they come from

A token is never empty, and it has no comma, no white space and no period.  Deleting periods may join
what stands apart in the text; if no period stands between two other characters of one piece, it does
not, and the tokens are the maximal runs of their characters (`tokenize_eq_map_slice_runs`).
-/

namespace CommentSpell

/-- `isTokenChar c` iff tokens may have the character `c`: it is neither a separator nor a period. -/
def isTokenChar (c : Char) : Bool :=
  !isSeparator c && c != '.'

theorem isTokenChar_iff {c : Char} :
    isTokenChar c ↔ c ≠ ',' ∧ Text.isBlank c = false ∧ c ≠ '.' := by
  simp [isTokenChar, isSeparator, and_assoc]

theorem Text.not_of_mem_pieces {p : Char → Bool} {text piece : Text} (h : piece ∈ pieces p text)
    {c : Char} (hc : c ∈ piece) : p c = false := by
  induction text generalizing piece with
  | nil =>
    rw [pieces, List.mem_singleton] at h
    rw [h] at hc
    cases hc
  | cons d text ih =>
    rw [pieces] at h
    split at h
    · rcases List.mem_cons.mp h with rfl | h
      · cases hc
      · exact ih h hc
    · rename_i hd
      cases hpieces : pieces p text with
      | nil =>
        rw [hpieces] at h
        cases h
      | cons first rest =>
        rw [hpieces, List.modifyHead_cons] at h
        rcases List.mem_cons.mp h with rfl | h
        · rcases List.mem_cons.mp hc with rfl | hc
          · exact Bool.eq_false_iff.mpr hd
          · exact ih (by rw [hpieces]; exact List.mem_cons_self) hc
        · exact ih (by rw [hpieces]; exact List.mem_cons_of_mem _ h) hc

theorem ne_nil_of_mem_tokenize {text token : Text} (h : token ∈ tokenize text) : token ≠ [] := by
  have hne := (List.mem_filter.mp h).2
  exact of_decide_eq_true hne

theorem isTokenChar_of_mem_tokenize {text token : Text} (h : token ∈ tokenize text) {c : Char}
    (hc : c ∈ token) : isTokenChar c := by
  obtain ⟨piece, hpiece, rfl⟩ := List.mem_map.mp (List.mem_filter.mp h).1
  obtain ⟨hmem, hperiod⟩ := List.mem_filter.mp hc
  have hseparator := Text.not_of_mem_pieces hpiece hmem
  rw [isTokenChar, hseparator, Bool.not_false, Bool.true_and, bne_iff_ne]
  exact of_decide_eq_true hperiod

theorem not_isTokenChar (c : Char) : (!isTokenChar c) = (isSeparator c || c == '.') := by
  rw [isTokenChar, Bool.not_and, Bool.not_not, bne, Bool.not_not]

theorem isTokenChar_space : isTokenChar ' ' = false := by decide

theorem space_not_mem_of_mem_tokenize {text token : Text} (h : token ∈ tokenize text) :
    ' ' ∉ token := by
  intro hmem
  have hchar := isTokenChar_of_mem_tokenize h hmem
  rw [isTokenChar_space] at hchar
  cases hchar

/-! ### Tokens of pieces -/

/-- `undotted word` is `word` without its periods. -/
def undotted (word : Text) : Text :=
  word.filter (· ≠ '.')

theorem tokenize_eq (text : Text) :
    tokenize text = ((Text.pieces isSeparator text).map undotted).filter (· ≠ []) := rfl

theorem cleanWord_undotted (word : Text) : cleanWord (undotted word) = cleanWord word := by
  unfold cleanWord undotted
  rw [List.filter_filter]
  refine List.filter_congr fun c _ => ?_
  by_cases hc : c = '.'
  · subst hc
    rfl
  · simp [hc]

/-! ### Characters of words -/

/-- `covers ranges n` gives `covers (ranges ++ later) n`. -/
theorem CodeRanges.covers_append {ranges : CodeRanges} {n : Nat} (h : ranges.covers n)
    (later : CodeRanges) : covers (ranges ++ later) n := by
  induction ranges with
  | nil => cases h
  | cons range ranges ih =>
    obtain ⟨first, last⟩ := range
    rw [covers] at h
    rw [List.cons_append, covers]
    split at h
    · cases h
    · rename_i hfirst
      rw [if_neg hfirst, Bool.or_eq_true]
      exact ((Bool.or_eq_true _ _).mp h).imp_right ih

/-- `isAsciiWord c` gives `isWordChar c`: a character of an ASCII word is a word character of some
script. -/
theorem Text.isWordChar_of_isAsciiWord {c : Char} (h : isAsciiWord c) : isWordChar c := by
  have hcases := toNat_cases_of_isAsciiWord h
  have hascii : CodeRanges.covers (wordRanges.take 4) c.toNat := by
    show CodeRanges.covers [(0x30, 0x39), (0x41, 0x5A), (0x5F, 0x5F), (0x61, 0x7A)] c.toNat
    simp [CodeRanges.covers]
    omega
  exact CodeRanges.covers_append hascii (wordRanges.drop 4)

theorem isSeparator_eq_false_of_isAsciiWord {c : Char} (h : Text.isAsciiWord c) :
    isSeparator c = false := by
  obtain ⟨hlow, hhigh⟩ := Text.toNat_bounds_of_isAsciiWord h
  have hcomma : c ≠ ',' := by
    rintro rfl
    exact absurd hlow (by decide)
  have hblank : Text.isBlank c = false := by
    simp [Text.isBlank, Text.blankRanges, CodeRanges.covers]
    omega
  simp [isSeparator, hcomma, hblank]

theorem isSeparator_eq_false_iff {c : Char} :
    isSeparator c = false ↔ c ≠ ',' ∧ Text.isBlank c = false := by
  simp [isSeparator]

/-! ### Periods between other characters -/

/-- `OnlyPeriods text` iff `text` has no other characters than periods. -/
def OnlyPeriods (text : Text) : Prop :=
  ∀ c ∈ text, c = '.'

instance (text : Text) : Decidable (OnlyPeriods text) :=
  List.decidableBAll (· = '.') text

/-- `NoInnerPeriod word` iff no period of `word` stands between two other characters of it: all before
it, or all behind it, are periods. -/
def NoInnerPeriod (word : Text) : Prop :=
  ∀ i < word.length, word[i]? = some '.' →
    OnlyPeriods (word.take i) ∨ OnlyPeriods (word.drop (i + 1))

instance (word : Text) : Decidable (NoInnerPeriod word) :=
  inferInstanceAs (Decidable (∀ i < word.length, word[i]? = some '.' →
    OnlyPeriods (word.take i) ∨ OnlyPeriods (word.drop (i + 1))))

/-- `NoInnerPeriods text` iff no maximal run of non-separators of `text` has an inner period. -/
def NoInnerPeriods (text : Text) : Prop :=
  ∀ span, Text.IsRun (!isSeparator ·) text span → NoInnerPeriod (span.slice text)

instance (text : Text) : Decidable (NoInnerPeriods text) :=
  decidable_of_iff (∀ span ∈ Text.runs (!isSeparator ·) text, NoInnerPeriod (span.slice text))
    (forall_congr' fun _ => imp_congr_left Text.mem_runs_iff)

namespace Text

theorem exists_pieces_eq_cons (p : Char → Bool) (text : Text) :
    ∃ first later, pieces p text = first :: later := by
  induction text with
  | nil => exact ⟨[], [], rfl⟩
  | cons c text ih =>
    obtain ⟨first, later, hpieces⟩ := ih
    rw [pieces, hpieces]
    split
    · exact ⟨_, _, rfl⟩
    · exact ⟨_, _, rfl⟩

/-- `pieces (fun c => p c || q c) text` is `text` cut at `p`, and each piece of it then cut at `q`. -/
theorem pieces_or (p q : Char → Bool) (text : Text) :
    pieces (fun c => p c || q c) text = (pieces p text).flatMap (pieces q) := by
  induction text with
  | nil => rfl
  | cons c text ih =>
    rw [pieces, ih, pieces]
    by_cases hp : p c
    · rw [hp, Bool.true_or, if_pos rfl, if_pos rfl, List.flatMap_cons]
      rfl
    · obtain ⟨first, later, hpieces⟩ := exists_pieces_eq_cons p text
      obtain ⟨first', later', hpieces'⟩ := exists_pieces_eq_cons q first
      rw [if_neg hp, hpieces, List.modifyHead_cons, List.flatMap_cons, List.flatMap_cons, pieces,
        hpieces', Bool.eq_false_iff.mpr hp, Bool.false_or]
      split
      · rfl
      · rfl

/-- If all behind a period of `word` are periods, then its first piece is `word` without periods, and
all later ones are empty. -/
theorem pieces_of_trailing {word : Text}
    (h : ∀ i < word.length, word[i]? = some '.' → OnlyPeriods (word.drop (i + 1))) :
    ∃ later, pieces (· == '.') word = word.filter (· ≠ '.') :: later
      ∧ ∀ piece ∈ later, piece = [] := by
  induction word with
  | nil => exact ⟨[], rfl, by simp⟩
  | cons c word ih =>
    obtain ⟨later, hpieces, hlater⟩ := ih fun i hi => h (i + 1) (Nat.succ_lt_succ hi)
    by_cases hc : c = '.'
    · subst hc
      have hperiods : OnlyPeriods word := h 0 (Nat.succ_pos _) rfl
      have hnil : word.filter (· ≠ '.') = [] := by
        refine List.filter_eq_nil_iff.mpr fun d hd => ?_
        rw [hperiods d hd]
        decide
      refine ⟨[] :: later, ?_, ?_⟩
      · rw [pieces, hpieces, if_pos (by decide), List.filter_cons_of_neg (by decide), hnil]
      · intro piece hmem
        rcases List.mem_cons.mp hmem with rfl | hmem
        · rfl
        · exact hlater piece hmem
    · refine ⟨later, ?_, hlater⟩
      rw [pieces, hpieces, if_neg (by simpa using hc), List.filter_cons_of_pos (by simpa using hc),
        List.modifyHead_cons]

/-- Less the empty ones, the pieces of a `word` without inner periods are `word` without its periods. -/
theorem filter_pieces_of_noInnerPeriod {word : Text} (h : NoInnerPeriod word) :
    (pieces (· == '.') word).filter (· ≠ []) = [word.filter (· ≠ '.')].filter (· ≠ []) := by
  induction word with
  | nil => rfl
  | cons c word ih =>
    by_cases hc : c = '.'
    · subst hc
      have htail : NoInnerPeriod word := by
        intro i hi hperiod
        rcases h (i + 1) (Nat.succ_lt_succ hi) hperiod with hbefore | hbehind
        · exact Or.inl fun d hd => hbefore d (List.mem_cons_of_mem _ hd)
        · exact Or.inr hbehind
      have hfirst : ('.' :: word).filter (· ≠ '.') = word.filter (· ≠ '.') :=
        List.filter_cons_of_neg (by decide)
      rw [pieces, if_pos (by decide), List.filter_cons_of_neg (by decide), ih htail, hfirst]
    · -- the word begins with another character, so all its periods are at its end
      have hend : ∀ i < word.length, word[i]? = some '.' → OnlyPeriods (word.drop (i + 1)) := by
        intro i hi hperiod
        refine (h (i + 1) (Nat.succ_lt_succ hi) hperiod).resolve_left fun hbefore => ?_
        exact hc (hbefore c List.mem_cons_self)
      obtain ⟨later, hpieces, hlater⟩ := pieces_of_trailing hend
      have hnone : later.filter (· ≠ []) = [] := by
        refine List.filter_eq_nil_iff.mpr fun piece hmem => ?_
        rw [hlater piece hmem]
        decide
      have hfirst : (c :: word).filter (· ≠ '.') = c :: word.filter (· ≠ '.') :=
        List.filter_cons_of_pos (by simpa using hc)
      rw [pieces, hpieces, if_neg (by simpa using hc), List.modifyHead_cons, hfirst,
        List.filter_cons, List.filter_cons, hnone, List.filter_nil]

end Text

/-- `undotted word` is a run of `word`, if `word` has no inner period and more than periods. -/
theorem exists_run_of_noInnerPeriod {word : Text} (h : NoInnerPeriod word)
    (hne : undotted word ≠ []) :
    ∃ run, Text.IsRun (· != '.') word run ∧ run.slice word = undotted word := by
  have hruns := Text.map_slice_runs (· != '.') word
  simp only [bne, Bool.not_not] at hruns
  rw [Text.filter_pieces_of_noInnerPeriod h] at hruns
  have hmem : undotted word ∈ [undotted word].filter (· ≠ []) :=
    List.mem_filter.mpr ⟨List.mem_singleton_self _, decide_eq_true hne⟩
  obtain ⟨run, hrun, hslice⟩ := List.mem_map.mp (hruns.symm ▸ hmem)
  exact ⟨run, Text.mem_runs_iff.mp hrun, hslice⟩

/-- What holds of the empty word and of each maximal run of non-separators of `text` holds of each of
its pieces. -/
theorem forall_mem_pieces {P : Text → Prop} (hnil : P []) {text : Text}
    (h : ∀ span, Text.IsRun (!isSeparator ·) text span → P (span.slice text)) :
    ∀ word ∈ Text.pieces isSeparator text, P word := by
  intro word hword
  by_cases hne : word = []
  · subst hne
    exact hnil
  · have hruns := Text.map_slice_runs (!isSeparator ·) text
    simp only [Bool.not_not] at hruns
    have hmem : word ∈ (Text.pieces isSeparator text).filter (· ≠ []) :=
      List.mem_filter.mpr ⟨hword, decide_eq_true hne⟩
    rw [← hruns] at hmem
    obtain ⟨span, hspan, rfl⟩ := List.mem_map.mp hmem
    exact h span (Text.mem_runs_iff.mp hspan)

/-- The characters of a `token` of `text` are characters of `text`. -/
theorem mem_of_mem_tokenize {text token : Text} (h : token ∈ tokenize text) {c : Char}
    (hc : c ∈ token) : c ∈ text := by
  obtain ⟨piece, hpiece, rfl⟩ := List.mem_map.mp (List.mem_filter.mp h).1
  have hpieces : ∀ word ∈ Text.pieces isSeparator text, ∀ d ∈ word, d ∈ text :=
    forall_mem_pieces (List.forall_mem_nil _) fun _ _ _ hd =>
      List.mem_of_mem_drop (List.mem_of_mem_take hd)
  exact hpieces piece hpiece c (List.mem_filter.mp hc).1

theorem noInnerPeriod_of_mem_pieces {text word : Text} (h : NoInnerPeriods text)
    (hword : word ∈ Text.pieces isSeparator text) : NoInnerPeriod word :=
  forall_mem_pieces (fun i hi => absurd hi (Nat.not_lt_zero i)) h word hword

/-- **Tokens are runs**: `tokenize text` are the maximal runs of token characters of `text`, if no
period stands between two other characters of a run of non-separators. -/
theorem tokenize_eq_map_slice_runs {text : Text} (h : NoInnerPeriods text) :
    tokenize text = (Text.runs isTokenChar text).map (·.slice text) := by
  calc tokenize text
      = ((Text.pieces isSeparator text).flatMap fun word => [word.filter (· ≠ '.')]).filter
          (· ≠ []) := by rw [tokenize, List.map_eq_flatMap]
    _ = (Text.pieces isSeparator text).flatMap fun word =>
          [word.filter (· ≠ '.')].filter (· ≠ []) := List.filter_flatMap
    _ = (Text.pieces isSeparator text).flatMap fun word =>
          (Text.pieces (· == '.') word).filter (· ≠ []) :=
        List.flatMap_congr fun word hword =>
          (Text.filter_pieces_of_noInnerPeriod (noInnerPeriod_of_mem_pieces h hword)).symm
    _ = (Text.pieces (fun c => isSeparator c || c == '.') text).filter (· ≠ []) := by
        rw [Text.pieces_or, List.filter_flatMap]
    _ = (Text.runs isTokenChar text).map (·.slice text) := by
        rw [Text.map_slice_runs, funext not_isTokenChar]

end CommentSpell
