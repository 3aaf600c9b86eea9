import CommentSpell.Source.Document
import Mathlib.Data.List.TakeWhile

/-!
# Offsets and positions

The starts of the lines are stated without the scan for line breaks: the first line starts at zero, and every
other one behind a line feed or behind a carriage return that no line feed follows (`mem_lineStarts_iff`).  They
ascend, so each offset lies on one line (`LiesOn.unique`), and a later line starts behind it
(`LiesOn.lt_start`).  The position of an offset is its line and its distance from the start of that line
(`exists_liesOn_positionAt`).  Hence the offsets of a text and the positions of a document correspond to each
other, in their order (`positions_correspond`).
-/

namespace CommentSpell

theorem Position.le_iff {a b : Position} :
    a.le b ↔ a.line < b.line ∨ a.line = b.line ∧ a.character ≤ b.character := by
  simp [le]

namespace Document

/-! ### Where lines start -/

/-- `EndsLine text i` iff the character of `text` at `i` is the last one of a line break: a line feed,
or a carriage return that no line feed follows. -/
def EndsLine (text : Text) (i : Nat) : Prop :=
  text[i]? = some '\n' ∨ text[i]? = some '\r' ∧ text[i + 1]? ≠ some '\n'

theorem not_endsLine_nil (i : Nat) : ¬ EndsLine [] i := by
  simp [EndsLine]

theorem endsLine_cons_zero {c : Char} {rest : Text} :
    EndsLine (c :: rest) 0 ↔ c = '\n' ∨ c = '\r' ∧ rest.head? ≠ some '\n' := by
  simp [EndsLine, List.head?_eq_getElem?]

theorem endsLine_cons_succ {c : Char} {rest : Text} {i : Nat} :
    EndsLine (c :: rest) (i + 1) ↔ EndsLine rest i := by
  simp [EndsLine]

theorem EndsLine.lt_length {text : Text} {i : Nat} (h : EndsLine text i) : i < text.length := by
  rcases h with h | ⟨h, -⟩
  · exact (List.getElem?_eq_some_iff.mp h).1
  · exact (List.getElem?_eq_some_iff.mp h).1

theorem EndsLine.isLineBreak {text : Text} {i : Nat} (h : EndsLine text i) :
    ∃ c, text[i]? = some c ∧ Text.isLineBreak c := by
  rcases h with h | ⟨h, -⟩
  · exact ⟨_, h, by decide⟩
  · exact ⟨_, h, by decide⟩

theorem exists_endsLine_cons {c : Char} {rest : Text} {stop position : Nat} :
    (∃ i, stop = position + i + 1 ∧ EndsLine (c :: rest) i)
      ↔ stop = position + 1 ∧ EndsLine (c :: rest) 0
          ∨ ∃ i, stop = position + 1 + i + 1 ∧ EndsLine rest i := by
  rw [← Nat.or_exists_add_one]
  refine or_congr_right (exists_congr fun i => ?_)
  rw [endsLine_cons_succ, Nat.add_right_comm position 1 i]
  rfl

/-- `lineEndsFrom position text` are the offsets `position + i + 1` with `EndsLine text i`. -/
theorem mem_lineEndsFrom_iff {position stop : Nat} {text : Text} :
    stop ∈ lineEndsFrom position text ↔ ∃ i, stop = position + i + 1 ∧ EndsLine text i := by
  fun_induction lineEndsFrom position text with
  | case1 position => simp [not_endsLine_nil]
  | case2 position rest ih =>
    -- the pair is one line break, which ends with its line feed
    rw [List.mem_cons, ih, exists_endsLine_cons, exists_endsLine_cons]
    simp [endsLine_cons_zero]
  | case3 position c rest hpair hbreak ih =>
    have hends : EndsLine (c :: rest) 0 := by
      rw [endsLine_cons_zero]
      rcases (Bool.or_eq_true _ _).mp hbreak with hreturn | hfeed
      · refine Or.inr ⟨beq_iff_eq.mp hreturn, fun hhead => ?_⟩
        obtain ⟨following, rfl⟩ := List.head?_eq_some_iff.mp hhead
        exact hpair following (beq_iff_eq.mp hreturn) rfl
      · exact Or.inl (beq_iff_eq.mp hfeed)
    rw [List.mem_cons, ih, exists_endsLine_cons, and_iff_left hends]
  | case4 position c rest hpair hbreak ih =>
    have hends : ¬ EndsLine (c :: rest) 0 := by
      rw [endsLine_cons_zero]
      rintro (rfl | ⟨rfl, -⟩)
      · exact hbreak (by decide)
      · exact hbreak (by decide)
    rw [ih, exists_endsLine_cons, or_iff_right fun h => hends h.2]

/-- `lineStarts text` are zero and the offsets `i + 1` with `EndsLine text i`. -/
theorem mem_lineStarts_iff {text : Text} {start : Nat} :
    start ∈ lineStarts text ↔ start = 0 ∨ ∃ i, start = i + 1 ∧ EndsLine text i := by
  rw [lineStarts, List.mem_cons, mem_lineEndsFrom_iff]
  simp only [Nat.zero_add]

theorem le_length_of_mem_lineStarts {text : Text} {start : Nat} (h : start ∈ lineStarts text) :
    start ≤ text.length := by
  rcases mem_lineStarts_iff.mp h with rfl | ⟨i, rfl, hends⟩
  · exact Nat.zero_le _
  · exact hends.lt_length

theorem pairwise_lineEndsFrom (position : Nat) (text : Text) :
    (lineEndsFrom position text).Pairwise (· < ·) := by
  have hlater : ∀ {start stop : Nat} {rest : Text}, stop ∈ lineEndsFrom start rest → start < stop := by
    intro start stop rest hmem
    obtain ⟨i, rfl, -⟩ := mem_lineEndsFrom_iff.mp hmem
    omega
  fun_induction lineEndsFrom position text with
  | case1 => exact List.Pairwise.nil
  | case2 position rest ih => exact List.pairwise_cons.mpr ⟨fun _ => hlater, ih⟩
  | case3 position c rest hpair hbreak ih => exact List.pairwise_cons.mpr ⟨fun _ => hlater, ih⟩
  | case4 position c rest hpair hbreak ih => exact ih

/-- `lineStarts text` ascend strictly. -/
theorem pairwise_lineStarts (text : Text) : (lineStarts text).Pairwise (· < ·) := by
  refine List.pairwise_cons.mpr ⟨fun stop hmem => ?_, pairwise_lineEndsFrom 0 text⟩
  obtain ⟨i, rfl, -⟩ := mem_lineEndsFrom_iff.mp hmem
  omega

/-! ### The line of an offset -/

/-- `LiesOn text offset line start` iff the line number `line` of `text` starts at `start`, which is
not behind `offset`, and the next line starts behind `offset`. -/
structure LiesOn (text : Text) (offset line start : Nat) : Prop where
  getElem?_eq : (lineStarts text)[line]? = some start
  start_le : start ≤ offset
  lt_next : ∀ next ∈ (lineStarts text)[line + 1]?, offset < next

namespace LiesOn

variable {text : Text} {offset offset' line line' start start' : Nat}

/-- Every later line `line'` starts behind `offset`. -/
theorem lt_start (h : LiesOn text offset line start) (hlt : line < line')
    (hstart : (lineStarts text)[line']? = some start') : offset < start' := by
  have hpairwise := List.pairwise_iff_getElem.mp (pairwise_lineStarts text)
  obtain ⟨hlength, rfl⟩ := List.getElem?_eq_some_iff.mp hstart
  have hnext := h.lt_next _ (List.getElem?_eq_getElem (Nat.lt_of_le_of_lt hlt hlength))
  rcases Nat.eq_or_lt_of_le hlt with heq | hlt
  · subst heq
    exact hnext
  · exact Nat.lt_trans hnext (hpairwise _ _ _ hlength hlt)

/-- A later offset does not lie on an earlier line: `line ≤ line'` if `offset ≤ offset'`. -/
theorem line_le (h : LiesOn text offset line start) (h' : LiesOn text offset' line' start')
    (hle : offset ≤ offset') : line ≤ line' := by
  by_contra hlt
  have hbefore := h'.lt_start (Nat.not_le.mp hlt) h.getElem?_eq
  have := h.start_le
  omega

/-- An offset lies on one line only: `line = line'` and `start = start'`. -/
theorem unique (h : LiesOn text offset line start) (h' : LiesOn text offset line' start') :
    line = line' ∧ start = start' := by
  have hline := Nat.le_antisymm (h.line_le h' (Nat.le_refl _)) (h'.line_le h (Nat.le_refl _))
  refine ⟨hline, ?_⟩
  rw [← Option.some.injEq, ← h.getElem?_eq, ← h'.getElem?_eq, hline]

end LiesOn

/-! ### Positions -/

variable {document : Document}

/-- Some line of `text` starts at `offset` or before: the first one. -/
theorem takeWhile_lineStarts_ne_nil (text : Text) (offset : Nat) :
    (lineStarts text).takeWhile (· ≤ offset) ≠ [] := by
  simp [lineStarts]

/-- `offset` lies on the last of the lines that start at `offset` or before. -/
theorem liesOn_takeWhile (text : Text) (offset : Nat) :
    let starts := (lineStarts text).takeWhile (· ≤ offset)
    LiesOn text offset (starts.length - 1) (starts.getLastD 0) := by
  intro starts
  have hsplit : starts ++ (lineStarts text).dropWhile (· ≤ offset) = lineStarts text :=
    List.takeWhile_append_dropWhile
  have hne : starts ≠ [] := takeWhile_lineStarts_ne_nil text offset
  have hpos := List.length_pos_iff.mpr hne
  have hlast : starts.getLast? = some (starts.getLastD 0) := by
    rw [List.getLastD_eq_getLast?, List.getLast?_eq_some_getLast hne, Option.getD_some]
  refine ⟨?_, ?_, ?_⟩
  · rw [← hsplit, List.getElem?_append_left (by omega), ← List.getLast?_eq_getElem?, hlast]
  · have hmem := List.mem_takeWhile_imp (List.mem_of_getLast? hlast)
    exact of_decide_eq_true hmem
  · intro next hnext
    rw [← hsplit, Nat.sub_add_cancel hpos, ← List.head?_drop, List.drop_left] at hnext
    have hnot := List.head?_dropWhile_not (fun start => decide (start ≤ offset)) (lineStarts text)
    rw [hnext] at hnot
    simpa using hnot

theorem exists_liesOn (text : Text) (offset : Nat) : ∃ line start, LiesOn text offset line start :=
  ⟨_, _, liesOn_takeWhile text offset⟩

/-- `document.positionAt offset` is the line on which the clamped offset lies, and its distance from
the start of that line. -/
theorem exists_liesOn_positionAt (document : Document) (offset : Int) :
    ∃ line start, LiesOn document.text (document.clamp offset) line start
      ∧ document.positionAt offset = ⟨line, document.clamp offset - start⟩ := by
  refine ⟨_, _, liesOn_takeWhile document.text (document.clamp offset), ?_⟩
  have hpos := List.length_pos_iff.mpr
    (takeWhile_lineStarts_ne_nil document.text (document.clamp offset))
  rw [positionAt, Int.ofNat_sub hpos]
  rfl

theorem clamp_le (document : Document) (offset : Int) : document.clamp offset ≤ document.text.length :=
  Nat.min_le_right _ _

theorem positionAt_of_liesOn {offset line start : Nat} (h : LiesOn document.text offset line start)
    (hle : offset ≤ document.text.length) :
    document.positionAt offset = ⟨line, offset - start⟩ := by
  have hclamp : document.clamp offset = offset := by
    simp [clamp, hle]
  obtain ⟨line', start', h', hposition⟩ := exists_liesOn_positionAt document offset
  rw [hclamp] at h' hposition
  obtain ⟨rfl, rfl⟩ := h.unique h'
  exact hposition

theorem offsetAt_of_liesOn {offset line start : Nat} (h : LiesOn document.text offset line start)
    (hle : offset ≤ document.text.length) :
    document.offsetAt ⟨line, offset - start⟩ = offset := by
  have hline : ¬ (line : Int) < 0 := by omega
  have hcharacter : ((offset : Int) - start).toNat = offset - start := by omega
  have hstart := h.start_le
  rw [offsetAt, if_neg hline]
  simp only [Int.toNat_natCast, h.getElem?_eq, hcharacter]
  omega

/-- `document.HasPosition position` iff the line and the character of `position` are there: it comes
before the start of the next line or, on the last line, not behind the end of the text. -/
structure HasPosition (document : Document) (position : Position) : Prop where
  line_nonneg : 0 ≤ position.line
  line_lt : position.line < document.lineCount
  character_nonneg : 0 ≤ position.character
  before_next : ∀ start ∈ (lineStarts document.text)[position.line.toNat]?,
    ∀ next ∈ (lineStarts document.text)[position.line.toNat + 1]?, start + position.character < next
  within : position.line + 1 = document.lineCount →
    ∀ start ∈ (lineStarts document.text)[position.line.toNat]?,
      start + position.character ≤ document.text.length

/-- If `offset` lies on `line`, which starts at `start`, then `⟨line, offset - start⟩` is a position
of `document`. -/
theorem hasPosition_of_liesOn {offset line start : Nat} (h : LiesOn document.text offset line start)
    (hle : offset ≤ document.text.length) : document.HasPosition ⟨line, offset - start⟩ := by
  have hstart := h.start_le
  have hline := (List.getElem?_eq_some_iff.mp h.getElem?_eq).1
  have honly : ∀ start' ∈ (lineStarts document.text)[line]?, start' = start :=
    fun start' hstart' => Option.some.inj (hstart'.symm.trans h.getElem?_eq)
  refine
    { line_nonneg := Int.natCast_nonneg line
      line_lt := Int.ofNat_lt.mpr hline
      character_nonneg := by dsimp only; omega
      before_next := ?_
      within := ?_ }
  · intro start' hstart' next hnext
    have hbefore := h.lt_next next hnext
    rw [honly start' hstart']
    dsimp only
    omega
  · intro _ start' hstart'
    rw [honly start' hstart']
    dsimp only
    omega

/-- A position of `document` is the distance from the start of its line of an `offset` that lies on
it. -/
theorem HasPosition.exists_liesOn {position : Position} (h : document.HasPosition position) :
    ∃ offset line start : Nat, LiesOn document.text offset line start ∧ offset ≤ document.text.length
      ∧ position = ⟨line, offset - start⟩ := by
  obtain ⟨line, character⟩ := position
  obtain ⟨line, rfl⟩ := Int.eq_ofNat_of_zero_le h.line_nonneg
  obtain ⟨character, rfl⟩ := Int.eq_ofNat_of_zero_le h.character_nonneg
  have hlt : line < (lineStarts document.text).length := Int.ofNat_lt.mp h.line_lt
  have hstart := List.getElem?_eq_getElem hlt
  have hbefore := h.before_next _ hstart
  have hwithin := fun hlast => h.within hlast _ hstart
  generalize (lineStarts document.text)[line] = start at hstart hbefore hwithin
  dsimp only [Int.toNat_natCast] at hbefore hwithin
  refine ⟨start + character, line, start, ⟨hstart, Nat.le_add_right _ _, fun next hnext => ?_⟩, ?_, ?_⟩
  · have := hbefore next hnext
    omega
  · -- a line that starts behind this one starts within the text
    rcases hnext : (lineStarts document.text)[line + 1]? with _ | next
    · have hlength := List.getElem?_eq_none_iff.mp hnext
      have := hwithin (by rw [lineCount]; omega)
      omega
    · have := hbefore next hnext
      have := le_length_of_mem_lineStarts (List.mem_of_getElem? hnext)
      omega
  · rw [Position.mk.injEq]
    exact ⟨rfl, by push_cast; omega⟩

/-- `document.positionAt (document.offsetAt position) = position` iff `document.HasPosition position`. -/
theorem positionAt_offsetAt_iff {position : Position} :
    document.positionAt (document.offsetAt position) = position ↔ document.HasPosition position := by
  constructor
  · intro h
    obtain ⟨line, start, hlies, hposition⟩ :=
      exists_liesOn_positionAt document (document.offsetAt position)
    rw [← h, hposition]
    exact hasPosition_of_liesOn hlies (document.clamp_le _)
  · intro h
    obtain ⟨offset, line, start, hlies, hle, rfl⟩ := h.exists_liesOn
    rw [offsetAt_of_liesOn hlies hle, positionAt_of_liesOn hlies hle]

/-- `document.offsetAt (document.positionAt offset) = document.clamp offset`. -/
theorem offsetAt_positionAt (document : Document) (offset : Int) :
    document.offsetAt (document.positionAt offset) = document.clamp offset := by
  obtain ⟨line, start, hlies, hposition⟩ := exists_liesOn_positionAt document offset
  rw [hposition, offsetAt_of_liesOn hlies (document.clamp_le offset)]

/-- `document.positionAt a` comes strictly before `document.positionAt b`, if `a < b` and `b` is in
the text. -/
theorem positionAt_lt {a b : Nat} (hlt : a < b) (hle : b ≤ document.text.length) :
    (document.positionAt a).le (document.positionAt b)
      ∧ document.positionAt a ≠ document.positionAt b := by
  obtain ⟨line, start, ha⟩ := exists_liesOn document.text a
  obtain ⟨line', start', hb⟩ := exists_liesOn document.text b
  rw [positionAt_of_liesOn ha (by omega), positionAt_of_liesOn hb hle]
  rw [Position.le_iff, Ne, Position.mk.injEq]
  rcases Nat.eq_or_lt_of_le (ha.line_le hb (Nat.le_of_lt hlt)) with rfl | hline
  · -- on one line the distance from its start decides
    obtain rfl : start = start' := Option.some.inj (ha.getElem?_eq.symm.trans hb.getElem?_eq)
    dsimp only
    omega
  · dsimp only
    omega

/-- **Offsets and positions correspond.** `document.offsetAt (document.positionAt offset)` is
`offset`, clamped to the text; a later offset has a later position; and
`document.positionAt (document.offsetAt position) = position` iff `position` is one of `document`.
`lineStarts` ascend from zero and are the offsets behind each line feed or carriage return that is not
the first half of a pair. -/
theorem positions_correspond (document : Document) :
    (∀ offset : Int, (document.offsetAt (document.positionAt offset) : Int)
        = max 0 (min offset document.text.length))
      ∧ (∀ a b : Int, 0 ≤ a → a < b → b ≤ document.text.length →
          (document.positionAt a).le (document.positionAt b)
            ∧ document.positionAt a ≠ document.positionAt b)
      ∧ (∀ position, document.positionAt (document.offsetAt position) = position
          ↔ document.HasPosition position)
      ∧ (lineStarts document.text).Pairwise (· < ·)
      ∧ ∀ start, start ∈ lineStarts document.text
          ↔ start = 0 ∨ ∃ i, start = i + 1 ∧ EndsLine document.text i := by
  refine ⟨fun offset => ?_, fun a b ha hlt hle => ?_, fun _ => positionAt_offsetAt_iff,
    pairwise_lineStarts document.text, fun _ => mem_lineStarts_iff⟩
  · rw [offsetAt_positionAt, clamp]
    omega
  · obtain ⟨a, rfl⟩ := Int.eq_ofNat_of_zero_le ha
    obtain ⟨b, rfl⟩ := Int.eq_ofNat_of_zero_le (Int.le_trans ha (Int.le_of_lt hlt))
    exact positionAt_lt (Int.ofNat_lt.mp hlt) (Int.ofNat_le.mp hle)

/-- In `a\r\nb`, the offset between carriage return and line feed has a position on the line that they
end, before the start of the next line. -/
theorem positions_correspond_pair :
    let document : Document := { uri := [], text := "a\r\nb".toList }
    (0 : Int) ≤ 2 ∧ (2 : Int) < 3 ∧ (3 : Int) ≤ document.text.length
      ∧ document.positionAt 2 = ⟨0, 2⟩ ∧ document.positionAt 3 = ⟨1, 0⟩
      ∧ (document.offsetAt (document.positionAt 2) : Int) = 2
      ∧ (document.positionAt 2).le (document.positionAt 3)
      ∧ document.positionAt 2 ≠ document.positionAt 3
      ∧ ¬ document.HasPosition ⟨0, 3⟩ := by
  intro document
  obtain ⟨hoffset, hlater, hposition, -⟩ := positions_correspond document
  obtain ⟨hle, hne⟩ := hlater 2 3 (by decide) (by decide) (by decide)
  refine ⟨by decide, by decide, by decide, by decide, by decide, hoffset 2, hle, hne, ?_⟩
  rw [← hposition]
  decide

end Document

end CommentSpell
