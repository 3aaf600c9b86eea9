import CommentSpell.Proofs.Text.Segment

/-!
# Maximal runs

A maximal run of a class of characters is a span that holds only characters of the class and that no
character of the class adjoins (`IsRun`).  The runs of a text are the sites of a scan, so they are
listed in order (`mem_runs_iff`, `pairwise_runs`).  Cutting the text at all other characters gives the
texts of the runs, less the empty pieces (`map_slice_runs`).
-/

namespace CommentSpell.Text

/-- `IsRun p text span` iff `span` is a maximal run of characters of `text` with `p`. -/
structure IsRun (p : Char → Bool) (text : Text) (span : Span) : Prop where
  start_lt_stop : span.start < span.stop
  stop_le_length : span.stop ≤ text.length
  within : ∀ i, span.start ≤ i → i < span.stop → ∀ c ∈ text[i]?, p c
  before : ∀ c ∈ text.charBefore span.start, p c = false
  after : ∀ c ∈ text[span.stop]?, p c = false

/-- `runSite p before rest` is the longest run of characters with `p` at the start of `rest`, if the
character `before` does not have `p`. -/
def runSite (p : Char → Bool) : Site Unit := fun before rest =>
  if before.any p then none else some ((), (rest.takeWhile p).length)

/-- `runs p text` are the maximal runs of `text`, in their order. -/
def runs (p : Char → Bool) (text : Text) : List Span :=
  (sites (runSite p) text).map fun hit => .ofLength hit.start hit.text.length

variable {p : Char → Bool}

/-! ### Runs as sites -/

theorem runSite_eq_some_iff {before : Option Char} {rest : Text} {value : Unit} {length : Nat} :
    runSite p before rest = some (value, length)
      ↔ (∀ c ∈ before, p c = false) ∧ (rest.takeWhile p).length = length := by
  unfold runSite
  split
  · rename_i hbefore
    obtain ⟨c, hc, hp⟩ := (Option.any_eq_true p before).mp hbefore
    refine iff_of_false (Option.some_ne_none _).symm fun h => ?_
    rw [h.1 c hc] at hp
    cases hp
  · rename_i hbefore
    rw [Bool.not_eq_true, Option.any_eq_false] at hbefore
    rw [Option.some.injEq, Prod.mk.injEq]
    exact ⟨fun h => ⟨fun c hc => Bool.not_eq_true _ ▸ hbefore c hc, h.2⟩, fun h => ⟨rfl, h.2⟩⟩

theorem runSite_fits (p : Char → Bool) : (runSite p).Fits := by
  intro before text value length h
  rw [← (runSite_eq_some_iff.mp h).2]
  exact (List.takeWhile_prefix p).length_le

theorem isRun_iff_startsAt {text : Text} {start length : Nat} :
    IsRun p text (.ofLength start length) ↔ (runSite p).StartsAt text start () length := by
  rw [Site.StartsAt, runSite_eq_some_iff, length_takeWhile_eq_iff, List.length_drop]
  constructor
  · intro h
    have hlt : start < start + length := h.start_lt_stop
    have hle : start + length ≤ text.length := h.stop_le_length
    refine ⟨⟨h.before, by omega, fun i hi => ?_, ?_⟩, by omega⟩
    · rw [List.getElem?_drop]
      exact h.within (start + i) (Nat.le_add_right _ _) (Nat.add_lt_add_left hi start)
    · rw [List.getElem?_drop]
      exact h.after
  · rintro ⟨⟨hbefore, hle, hwithin, hafter⟩, hpos⟩
    refine ⟨Nat.lt_add_of_pos_right hpos, ?_, fun i hstart hstop => ?_, hbefore, ?_⟩
    · show start + length ≤ text.length
      by_contra hlong
      omega
    · have hi : i - start < length := Nat.sub_lt_left_of_lt_add hstart hstop
      have h := hwithin (i - start) hi
      rw [List.getElem?_drop] at h
      rwa [show start + (i - start) = i from Nat.add_sub_cancel' hstart] at h
    · rwa [List.getElem?_drop] at hafter

namespace IsRun

variable {text : Text} {a b : Span}

/-- A run `b` does not start within a run `a`: if `b.start < a.stop`, then `b.start ≤ a.start`. -/
theorem start_le_start (ha : IsRun p text a) (hb : IsRun p text b) (h : b.start < a.stop) :
    b.start ≤ a.start := by
  by_contra hlt
  rw [Nat.not_le] at hlt
  obtain ⟨i, hi⟩ := Nat.exists_eq_add_of_lt hlt
  have hlength : a.start + i < text.length := by
    have := ha.stop_le_length
    omega
  have hchar := List.getElem?_eq_getElem hlength
  have hin := ha.within (a.start + i) (Nat.le_add_right _ _) (by omega) _ hchar
  have hout := hb.before text[a.start + i] (by rw [hi, charBefore_succ hlength, hchar]; rfl)
  rw [hin] at hout
  cases hout

/-- A run `b` does not stop within a run `a`: if `a.start < b.stop`, then `a.stop ≤ b.stop`. -/
theorem stop_le_stop (ha : IsRun p text a) (hb : IsRun p text b) (h : a.start < b.stop) :
    a.stop ≤ b.stop := by
  by_contra hlt
  rw [Nat.not_le] at hlt
  have hchar := List.getElem?_eq_getElem (Nat.lt_of_lt_of_le hlt ha.stop_le_length)
  have hin := ha.within b.stop (Nat.le_of_lt h) hlt _ hchar
  have hout := hb.after _ hchar
  rw [hin] at hout
  cases hout

/-- Two runs `a` and `b` that overlap are one run: `a = b`. -/
theorem eq_of_overlap (ha : IsRun p text a) (hb : IsRun p text b) (hab : a.start < b.stop)
    (hba : b.start < a.stop) : a = b := by
  apply Span.ext
  · exact Nat.le_antisymm (hb.start_le_start ha hab) (ha.start_le_start hb hba)
  · exact Nat.le_antisymm (ha.stop_le_stop hb hab) (hb.stop_le_stop ha hba)

/-- Something stands between a run `a` and a later run `b`: `a.stop < b.start`. -/
theorem stop_lt_start (ha : IsRun p text a) (hb : IsRun p text b) (h : a.stop ≤ b.start) :
    a.stop < b.start := by
  refine Nat.lt_of_le_of_ne h fun heq => ?_
  have hlength := Nat.lt_of_lt_of_le hb.start_lt_stop hb.stop_le_length
  have hchar := List.getElem?_eq_getElem hlength
  have hin := hb.within b.start (Nat.le_refl _) hb.start_lt_stop _ hchar
  have hout := ha.after text[b.start] (by rw [heq]; exact hchar)
  rw [hin] at hout
  cases hout

theorem length_slice (h : IsRun p text a) : (a.slice text).length = a.length := by
  have hstop := h.stop_le_length
  have hlength := a.start_le_stop
  rw [Span.slice, List.length_take, List.length_drop, Span.length]
  omega

theorem slice_ne_nil (h : IsRun p text a) : a.slice text ≠ [] := by
  apply List.ne_nil_of_length_pos
  rw [h.length_slice, Span.length]
  exact Nat.sub_pos_of_lt h.start_lt_stop

/-- All characters of `a.slice text` have `p`, if `a` is a run. -/
theorem of_mem_slice (h : IsRun p text a) {c : Char} (hc : c ∈ a.slice text) : p c := by
  obtain ⟨i, hi, rfl⟩ := List.getElem_of_mem hc
  have hlt : i < a.length := h.length_slice ▸ hi
  have hchar : (a.slice text)[i]? = some (a.slice text)[i] := List.getElem?_eq_getElem hi
  rw [getElem?_slice text hlt] at hchar
  rw [Span.length] at hlt
  exact h.within (a.start + i) (Nat.le_add_right _ _) (by omega) _ hchar

/-- If `a` is a run of `p` in `text` and `b` a run of `q` in `a.slice text`, then `b`, moved by
`a.start`, is a run of `p c && q c` in `text`. -/
theorem inner {q : Char → Bool} (ha : IsRun p text a) (hb : IsRun q (a.slice text) b) :
    IsRun (fun c => p c && q c) text (.ofLength (a.start + b.start) b.length) := by
  have hlength := ha.length_slice
  have hblt := hb.start_lt_stop
  have hble := hb.stop_le_length
  have hstop := ha.stop_le_length
  have hbstop : a.start + b.start + b.length = a.start + b.stop := by
    rw [Span.length]
    omega
  rw [hlength] at hble
  have hwithin : b.stop ≤ a.stop - a.start := hble
  refine ⟨?_, ?_, fun i hi hlt c hc => ?_, fun c hc => ?_, fun c hc => ?_⟩
  · show a.start + b.start < a.start + b.start + b.length
    omega
  · show a.start + b.start + b.length ≤ text.length
    omega
  · change a.start + b.start ≤ i at hi
    change i < a.start + b.start + b.length at hlt
    obtain ⟨j, rfl⟩ := Nat.exists_eq_add_of_le (show a.start ≤ i by omega)
    have hslice := @getElem?_slice text a _ (show j < a.length by omega)
    rw [Bool.and_eq_true]
    exact ⟨ha.within _ (by omega) (by omega) c hc,
      hb.within j (by omega) (by omega) c (hslice ▸ hc)⟩
  · change c ∈ text.charBefore (a.start + b.start) at hc
    -- the neighbour is that of the outer run, or one within it
    cases hstart : b.start with
    | zero =>
      rw [hstart] at hc
      rw [ha.before c hc, Bool.false_and]
    | succ k =>
      have hslice := @getElem?_slice text a _ (show k < a.length by omega)
      rw [hstart, ← Nat.add_assoc, charBefore_succ (by omega), ← hslice] at hc
      have hq := hb.before c (by rw [hstart, charBefore_succ (by omega)]; exact hc)
      rw [hq, Bool.and_false]
  · change c ∈ text[a.start + b.start + b.length]? at hc
    rw [hbstop] at hc
    rcases Nat.lt_or_ge b.stop a.length with hlt | hge
    · rw [← getElem?_slice text hlt] at hc
      rw [hb.after c hc, Bool.and_false]
    · have hend : a.start + b.stop = a.stop := by
        rw [Span.length] at hge
        omega
      rw [hend] at hc
      rw [ha.after c hc, Bool.false_and]

end IsRun

theorem isRun_of_mem_sites {text : Text} {hit : Hit Unit} (h : hit ∈ sites (runSite p) text) :
    IsRun p text (.ofLength hit.start hit.text.length) :=
  isRun_iff_startsAt.mpr ((leftmostFrom_sites (runSite_fits p) text).isSite hit h)

/-- `span ∈ runs p text` iff `IsRun p text span`. -/
theorem mem_runs_iff {text : Text} {span : Span} : span ∈ runs p text ↔ IsRun p text span := by
  constructor
  · intro hmem
    obtain ⟨hit, hhit, rfl⟩ := List.mem_map.mp hmem
    exact isRun_of_mem_sites hhit
  · intro hrun
    by_contra hnot
    have hspan : span = .ofLength span.start span.length :=
      Span.ext rfl (Nat.add_sub_cancel' span.start_le_stop).symm
    have hstarts := isRun_iff_startsAt.mp (hspan ▸ hrun)
    refine (leftmostFrom_sites (runSite_fits p) text).complete span.start (Nat.zero_le _) ?_ _ _
      hstarts
    intro hit hmem
    by_contra hoverlap
    rw [not_or, Nat.not_lt, Nat.not_le] at hoverlap
    -- a hit that covers the start of the run would be the run
    have hlt := Nat.lt_of_le_of_lt hoverlap.1 hrun.start_lt_stop
    have heq := (isRun_of_mem_sites hmem).eq_of_overlap hrun hlt hoverlap.2
    exact hnot (List.mem_map.mpr ⟨hit, hmem, heq⟩)

/-- `runs p text` are in order, and something stands between each two of them. -/
theorem pairwise_runs (p : Char → Bool) (text : Text) :
    (runs p text).Pairwise fun a b => a.stop < b.start := by
  refine List.pairwise_map.mpr ?_
  refine (leftmostFrom_sites (runSite_fits p) text).apart.imp_of_mem fun ha hb hab => ?_
  exact (isRun_of_mem_sites ha).stop_lt_start (isRun_of_mem_sites hb) hab

/-! ### Runs as pieces -/

theorem pieces_append_of_all {word : Text} (hword : ∀ c ∈ word, p c) (text : Text) :
    pieces (!p ·) (word ++ text) = (pieces (!p ·) text).modifyHead (word ++ ·) := by
  induction word with
  | nil =>
    rw [List.nil_append]
    cases pieces (!p ·) text <;> simp
  | cons c word ih =>
    have hc : ¬ (!p c) = true := by
      rw [hword c List.mem_cons_self]
      decide
    rw [List.cons_append, pieces, if_neg hc, ih fun d hd => hword d (List.mem_cons_of_mem c hd)]
    cases pieces (!p ·) text <;> rfl

/-- `pieces isSeparator (word ++ text)` are the pieces of `text` with `word` in front of the first
one, if `word` has no separators. -/
theorem pieces_append_of_not_isSeparator {isSeparator : Char → Bool} {word : Text}
    (hword : ∀ c ∈ word, isSeparator c = false) (text : Text) :
    pieces isSeparator (word ++ text) = (pieces isSeparator text).modifyHead (word ++ ·) := by
  have h := @pieces_append_of_all (!isSeparator ·) word (fun c hc => by simp [hword c hc]) text
  simpa using h

/-- Cut at characters without `p`, `text.dropWhile p` begins with an empty piece. -/
theorem exists_pieces_dropWhile (p : Char → Bool) (text : Text) :
    ∃ later, pieces (!p ·) (text.dropWhile p) = [] :: later := by
  cases hrest : text.dropWhile p with
  | nil => exact ⟨[], rfl⟩
  | cons c rest =>
    have hc : p c = false := by
      have h := List.head?_dropWhile_not p text
      rw [hrest] at h
      simpa using h
    exact ⟨pieces (!p ·) rest, by rw [pieces, hc]; rfl⟩

/-- From `before` on, the texts of the runs are the pieces of `text` between characters without `p`,
less the empty ones.  No run may be under way at `before`. -/
theorem map_text_hitsFrom (before : Option Char) (text : Text)
    (hbefore : ∀ c ∈ before, p c → ∀ d ∈ text.head?, p d = false) (start : Nat) :
    (Segment.hitsFrom start (scanFrom (runSite p) before 0 text)).map Hit.text
      = (pieces (!p ·) text).filter (· ≠ []) := by
  induction before, text using scan_induction (runSite p) generalizing start with
  | nil before => rfl
  | plain before c rest hno ih =>
    -- a character of the class would start a run here, since none is under way
    have hc : p c = false := by
      by_contra hp
      rw [Bool.not_eq_false] at hp
      refine hno () (rest.takeWhile p).length (runSite_eq_some_iff.mpr ⟨fun d hd => ?_, ?_⟩)
      · by_contra hpd
        have hnot := hbefore d hd (Bool.not_eq_false _ ▸ hpd) c rfl
        rw [hp] at hnot
        cases hnot
      · rw [List.takeWhile_cons, if_pos hp, List.length_cons]
    rw [scanFrom_plain hno, Segment.hitsFrom, pieces, hc, Bool.not_false, if_pos rfl,
      List.filter_cons_of_neg (by decide)]
    refine ih (fun d hd hp => ?_) (start + 1)
    obtain rfl := Option.some.inj hd
    rw [hc] at hp
    cases hp
  | hit before text value length hne hsite ih =>
    obtain ⟨-, hlength⟩ := runSite_eq_some_iff.mp hsite
    have htake : text.take (length + 1) = text.takeWhile p := by
      rw [← hlength]
      exact (List.prefix_iff_eq_take.mp (List.takeWhile_prefix p)).symm
    have hdrop : text.drop (length + 1) = text.dropWhile p := by
      have h : (text.takeWhile p ++ text.dropWhile p).drop (text.takeWhile p).length
          = text.dropWhile p := List.drop_left
      rwa [List.takeWhile_append_dropWhile, hlength] at h
    obtain ⟨later, hlater⟩ := exists_pieces_dropWhile p text
    have hpieces : pieces (!p ·) text = text.takeWhile p :: later := by
      have hall := List.all_eq_true.mp (List.all_takeWhile (p := p) (l := text))
      have h := pieces_append_of_all hall (text.dropWhile p)
      rwa [List.takeWhile_append_dropWhile, hlater, List.modifyHead_cons, List.append_nil] at h
    have hword : text.takeWhile p ≠ [] := List.ne_nil_of_length_eq_add_one hlength
    have hrest := ih (fun c _ _ d hd => ?_) (start + (text.take (length + 1)).length)
    · rw [scanFrom_hit hne hsite, Segment.hitsFrom, List.map_cons, hrest, hdrop, hlater, hpieces,
        List.filter_cons_of_neg (by decide), List.filter_cons_of_pos (by simpa using hword), htake]
    · have h := List.head?_dropWhile_not p text
      rw [hdrop] at hd
      rw [hd] at h
      simpa using h

/-- The texts of `runs p text` are `pieces (!p ·) text`, less the empty pieces. -/
theorem map_slice_runs (p : Char → Bool) (text : Text) :
    (runs p text).map (·.slice text) = (pieces (!p ·) text).filter (· ≠ []) := by
  rw [← map_text_hitsFrom none text (fun c hc => by cases hc) 0, runs, List.map_map]
  refine List.map_congr_left fun hit hmem => ?_
  rw [Function.comp, slice_ofLength]
  exact ((leftmostFrom_sites (runSite_fits p) text).slice hit hmem).symm

end CommentSpell.Text
