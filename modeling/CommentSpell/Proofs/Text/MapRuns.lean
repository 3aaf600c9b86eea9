import CommentSpell.Text.WholeWord
import CommentSpell.Proofs.Text.Runs

/-!
# Rewriting a text run by run

`mapRuns p f` rewrites each maximal run of a class of characters and keeps all other characters.  A
text is made of single characters outside the class and of whole runs (`run_induction`), and on both
the rewriting has one equation (`mapRuns_cons`, `mapRuns_run`).  Rewriting twice is rewriting each run
twice (`mapRuns_mapRuns`), whatever the rewritten runs hold: their neighbours are no characters of the
class, so they merge with nothing.

Replacing a whole word is rewriting of this kind (`replaceWholeWord_eq_mapRuns`).  The word boundary
before and behind the word makes it a maximal run.
-/

namespace CommentSpell.Text

/-- `mapRuns p f text` is `text` with `f run` in place of each maximal run of characters with `p`. -/
def mapRuns (p : Char → Bool) (f : Text → Text) (text : Text) : Text :=
  substitute (runSite p) (fun _ run => f run) text

/-- `runTexts p text` are the texts of the maximal runs of `text`, in their order. -/
def runTexts (p : Char → Bool) (text : Text) : List Text :=
  (runs p text).map (·.slice text)

variable {p : Char → Bool}

/-! ### The scan for runs -/

theorem scanFrom_runSite_cons {c : Char} (hc : p c = false) (before : Option Char) (rest : Text) :
    scanFrom (runSite p) before 0 (c :: rest) = .plain c :: scanFrom (runSite p) none 0 rest := by
  have hno : ∀ value length, runSite p before (c :: rest) ≠ some (value, length + 1) := by
    intro value length hsite
    have hlength := (runSite_eq_some_iff.mp hsite).2
    simp [hc] at hlength
  have hbefore : runSite p (some c) rest = runSite p none rest := by
    simp [runSite, hc]
  rw [scanFrom_plain hno, scanFrom_congr hbefore]

theorem scanFrom_runSite_append {run rest : Text} (hne : run ≠ []) (hrun : ∀ c ∈ run, p c)
    (hrest : ∀ c ∈ rest.head?, p c = false) :
    scanFrom (runSite p) none 0 (run ++ rest) = .hit () run :: scanFrom (runSite p) none 0 rest := by
  have hsite : runSite p none (run ++ rest) = some ((), run.length) :=
    runSite_eq_some_iff.mpr ⟨by simp, length_takeWhile_append_eq_iff.mpr ⟨hrun, hrest⟩⟩
  obtain ⟨length, hlength⟩ := Nat.exists_eq_add_of_lt (List.length_pos_iff.mpr hne)
  rw [Nat.zero_add] at hlength
  -- behind the run stands no character of the class, so what is before it no longer matters
  have hbehind : scanFrom (runSite p) run.getLast? 0 rest = scanFrom (runSite p) none 0 rest := by
    cases rest with
    | nil => rw [scanFrom, scanFrom]
    | cons c rest =>
      have hc := hrest c rfl
      rw [scanFrom_runSite_cons hc, scanFrom_runSite_cons hc]
  rw [scanFrom_hit (by simp [hne]) (hlength ▸ hsite), ← hlength, List.take_left, List.drop_left,
    hbehind]

/-- Induction along a text: it is made of characters without `p`, and of whole runs of characters with
`p`. -/
theorem run_induction (p : Char → Bool) {motive : Text → Prop} (nil : motive [])
    (cons : ∀ c rest, p c = false → motive rest → motive (c :: rest))
    (run : ∀ run rest, run ≠ [] → (∀ c ∈ run, p c) → (∀ c ∈ rest.head?, p c = false) →
      motive rest → motive (run ++ rest)) : ∀ text, motive text := by
  -- the induction is on the length, as a run takes more than one character
  suffices h : ∀ (n : Nat) (text : Text), text.length = n → motive text from
    fun text => h _ text rfl
  intro n
  induction n using Nat.strongRecOn with
  | ind n ih =>
    intro text hn
    cases text with
    | nil => exact nil
    | cons c rest =>
      by_cases hc : p c
      · have hsplit := List.takeWhile_append_dropWhile (p := p) (l := c :: rest)
        have htake : (c :: rest).takeWhile p ≠ [] := by simp [hc]
        have hrun : ∀ d ∈ (c :: rest).takeWhile p, p d := List.all_eq_true.mp List.all_takeWhile
        have hrest : ∀ d ∈ ((c :: rest).dropWhile p).head?, p d = false := by
          intro d hd
          have hhead := List.head?_dropWhile_not p (c :: rest)
          rw [hd] at hhead
          simpa using hhead
        have hlt : ((c :: rest).dropWhile p).length < n := by
          have hlengths := congrArg List.length hsplit
          have hpos := List.length_pos_iff.mpr htake
          rw [List.length_append, hn] at hlengths
          omega
        rw [← hsplit]
        exact run _ _ htake hrun hrest (ih _ hlt _ rfl)
      · have hlt : rest.length < n := by
          rw [← hn, List.length_cons]
          omega
        exact cons c rest (Bool.eq_false_iff.mpr hc) (ih _ hlt _ rfl)

/-! ### Rewriting runs -/

variable {f g : Text → Text}

@[simp] theorem mapRuns_nil : mapRuns p f [] = [] := rfl

theorem mapRuns_cons {c : Char} (hc : p c = false) (rest : Text) :
    mapRuns p f (c :: rest) = c :: mapRuns p f rest := by
  unfold mapRuns substitute scan
  rw [scanFrom_runSite_cons hc, List.flatMap_cons, Segment.replaced, List.singleton_append]

theorem mapRuns_run {run rest : Text} (hne : run ≠ []) (hrun : ∀ c ∈ run, p c)
    (hrest : ∀ c ∈ rest.head?, p c = false) :
    mapRuns p f (run ++ rest) = f run ++ mapRuns p f rest := by
  unfold mapRuns substitute scan
  rw [scanFrom_runSite_append hne hrun hrest, List.flatMap_cons, Segment.replaced]

theorem mapRuns_of_all {run : Text} (hne : run ≠ []) (hrun : ∀ c ∈ run, p c) :
    mapRuns p f run = f run := by
  have h := @mapRuns_run p f run [] hne hrun (by simp)
  simpa using h

theorem not_of_mem_head?_append {a b : Text} (ha : ∀ c ∈ a.head?, p c = false)
    (hb : ∀ c ∈ b.head?, p c = false) : ∀ c ∈ (a ++ b).head?, p c = false := by
  cases a with
  | nil => exact hb
  | cons d rest => exact ha

/-- `mapRuns p f (a ++ b) = mapRuns p f a ++ mapRuns p f b` if no run reaches from `a` into `b`. -/
theorem mapRuns_append_of_cut {a b : Text}
    (hcut : ∀ c ∈ a.getLast?, p c → ∀ d ∈ b.head?, p d = false) :
    mapRuns p f (a ++ b) = mapRuns p f a ++ mapRuns p f b := by
  induction a using run_induction p with
  | nil => simp
  | cons c rest hc ih =>
    have hrest : ∀ d ∈ rest.getLast?, p d → ∀ e ∈ b.head?, p e = false := by
      intro d hd
      apply hcut d
      rw [List.getLast?_cons, Option.mem_def.mp hd]
      rfl
    rw [List.cons_append, mapRuns_cons hc, mapRuns_cons hc, ih hrest, List.cons_append]
  | run run rest hne hrun hrest ih =>
    rw [List.append_assoc]
    cases rest with
    | nil =>
      -- the run ends at the cut, so nothing goes on behind it
      have hhead : ∀ d ∈ b.head?, p d = false := by
        refine hcut (run.getLast hne) ?_ (hrun _ (List.getLast_mem hne))
        simp [List.getLast?_eq_getLast_of_ne_nil hne]
      rw [List.nil_append, mapRuns_run hne hrun hhead, List.append_nil, mapRuns_of_all hne hrun]
    | cons c rest =>
      have hlast : (run ++ c :: rest).getLast? = (c :: rest).getLast? :=
        List.getLast?_append_of_ne_nil _ (List.cons_ne_nil c rest)
      have hhead : ∀ d ∈ (c :: rest ++ b).head?, p d = false := hrest
      rw [hlast] at hcut
      rw [mapRuns_run hne hrun hhead, mapRuns_run hne hrun hrest, ih hcut, List.append_assoc]

/-- `mapRuns p f (a ++ b) = mapRuns p f a ++ mapRuns p f b` if `b` does not begin with a character of
the class. -/
theorem mapRuns_append {a b : Text} (hb : ∀ c ∈ b.head?, p c = false) :
    mapRuns p f (a ++ b) = mapRuns p f a ++ mapRuns p f b :=
  mapRuns_append_of_cut fun _ _ _ => hb

/-- `CutAt p text i` iff no run of characters with `p` reaches over the offset `i` of `text`. -/
def CutAt (p : Char → Bool) (text : Text) (i : Nat) : Prop :=
  ∀ c ∈ text.charBefore i, p c → ∀ d ∈ text[i]?, p d = false

theorem mapRuns_take_drop {text : Text} {i : Nat} (hcut : CutAt p text i) :
    mapRuns p f text = mapRuns p f (text.take i) ++ mapRuns p f (text.drop i) := by
  have hparts := @mapRuns_append_of_cut p f (text.take i) (text.drop i)
    (by rwa [List.head?_drop])
  rwa [List.take_append_drop] at hparts

/-- If no run reaches over either end of `span`, then `mapRuns p f text` is `mapRuns p f` of what
stands before `span`, in it, and behind it. -/
theorem mapRuns_slice {text : Text} {span : Span} (hstart : CutAt p text span.start)
    (hstop : CutAt p text span.stop) :
    mapRuns p f text
      = mapRuns p f (text.take span.start) ++ mapRuns p f (span.slice text)
          ++ mapRuns p f (text.drop span.stop) := by
  have hle := span.start_le_stop
  have hinner : CutAt p (text.take span.stop) span.start := by
    intro c hc hp d hd
    rw [charBefore, List.take_take, Nat.min_eq_left hle] at hc
    rw [List.getElem?_take] at hd
    split at hd
    · exact hstart c hc hp d hd
    · cases hd
  rw [mapRuns_take_drop hstop, mapRuns_take_drop hinner, List.take_take, Nat.min_eq_left hle,
    List.drop_take, Span.slice, Span.length]

theorem head?_mapRuns_of_not {text : Text} (h : ∀ c ∈ text.head?, p c = false) :
    (mapRuns p f text).head? = text.head? := by
  cases text with
  | nil => rfl
  | cons c rest => rw [mapRuns_cons (h c rfl), List.head?_cons, List.head?_cons]

/-- `mapRuns p g (mapRuns p f text)` rewrites each run to `mapRuns p g (f run)`. -/
theorem mapRuns_mapRuns (p : Char → Bool) (f g : Text → Text) (text : Text) :
    mapRuns p g (mapRuns p f text) = mapRuns p (fun run => mapRuns p g (f run)) text := by
  induction text using run_induction p with
  | nil => rfl
  | cons c rest hc ih => rw [mapRuns_cons hc, mapRuns_cons hc, mapRuns_cons hc, ih]
  | run run rest hne hrun hrest ih =>
    have hhead : ∀ c ∈ (mapRuns p f rest).head?, p c = false := by
      rwa [head?_mapRuns_of_not hrest]
    rw [mapRuns_run hne hrun hrest, mapRuns_append hhead, mapRuns_run hne hrun hrest, ih]

/-! ### The texts of the runs -/

@[simp] theorem runTexts_nil : runTexts p [] = [] := rfl

theorem runTexts_eq_filter_pieces (p : Char → Bool) (text : Text) :
    runTexts p text = (pieces (!p ·) text).filter (· ≠ []) :=
  map_slice_runs p text

theorem mem_runTexts_iff {text run : Text} :
    run ∈ runTexts p text ↔ ∃ span, IsRun p text span ∧ span.slice text = run := by
  simp only [runTexts, List.mem_map, mem_runs_iff]

theorem ne_nil_of_mem_runTexts {text run : Text} (h : run ∈ runTexts p text) : run ≠ [] := by
  obtain ⟨span, hspan, rfl⟩ := mem_runTexts_iff.mp h
  exact hspan.slice_ne_nil

theorem of_mem_runTexts {text run : Text} (h : run ∈ runTexts p text) : ∀ c ∈ run, p c := by
  obtain ⟨span, hspan, rfl⟩ := mem_runTexts_iff.mp h
  exact fun c hc => hspan.of_mem_slice hc

theorem runTexts_cons {c : Char} (hc : p c = false) (rest : Text) :
    runTexts p (c :: rest) = runTexts p rest := by
  rw [runTexts_eq_filter_pieces, runTexts_eq_filter_pieces, pieces]
  simp [hc]

theorem runTexts_run {run rest : Text} (hne : run ≠ []) (hrun : ∀ c ∈ run, p c)
    (hrest : ∀ c ∈ rest.head?, p c = false) :
    runTexts p (run ++ rest) = run :: runTexts p rest := by
  rw [runTexts_eq_filter_pieces, runTexts_eq_filter_pieces, pieces_append_of_all hrun]
  -- what follows the run begins with an empty piece, to which the run is joined
  obtain ⟨later, hlater⟩ : ∃ later, pieces (!p ·) rest = [] :: later := by
    cases rest with
    | nil => exact ⟨[], rfl⟩
    | cons c rest => exact ⟨pieces (!p ·) rest, by simp [pieces, hrest c rfl]⟩
  simp [hlater, hne]

theorem runTexts_of_all {run : Text} (hne : run ≠ []) (hrun : ∀ c ∈ run, p c) :
    runTexts p run = [run] := by
  have h := @runTexts_run p run [] hne hrun (by simp)
  simpa using h

theorem runTexts_append {a b : Text} (hb : ∀ c ∈ b.head?, p c = false) :
    runTexts p (a ++ b) = runTexts p a ++ runTexts p b := by
  induction a using run_induction p with
  | nil => simp
  | cons c rest hc ih => rw [List.cons_append, runTexts_cons hc, runTexts_cons hc, ih]
  | run run rest hne hrun hrest ih =>
    have hhead := not_of_mem_head?_append hrest hb
    rw [List.append_assoc, runTexts_run hne hrun hhead, ih, runTexts_run hne hrun hrest,
      List.cons_append]

/-- The runs of `mapRuns p f text` are, one run of `text` after the other, those of `f run`. -/
theorem runTexts_mapRuns (p : Char → Bool) (f : Text → Text) (text : Text) :
    runTexts p (mapRuns p f text) = (runTexts p text).flatMap fun run => runTexts p (f run) := by
  induction text using run_induction p with
  | nil => rfl
  | cons c rest hc ih => rw [mapRuns_cons hc, runTexts_cons hc, runTexts_cons hc, ih]
  | run run rest hne hrun hrest ih =>
    have hhead : ∀ c ∈ (mapRuns p f rest).head?, p c = false := by
      rwa [head?_mapRuns_of_not hrest]
    rw [mapRuns_run hne hrun hrest, runTexts_append hhead, runTexts_run hne hrun hrest,
      List.flatMap_cons, ih]

theorem mapRuns_congr {text : Text} (h : ∀ run ∈ runTexts p text, f run = g run) :
    mapRuns p f text = mapRuns p g text := by
  induction text using run_induction p with
  | nil => rfl
  | cons c rest hc ih =>
    rw [runTexts_cons hc] at h
    rw [mapRuns_cons hc, mapRuns_cons hc, ih h]
  | run run rest hne hrun hrest ih =>
    rw [runTexts_run hne hrun hrest, List.forall_mem_cons] at h
    rw [mapRuns_run hne hrun hrest, mapRuns_run hne hrun hrest, h.1, ih h.2]

theorem mapRuns_id (p : Char → Bool) (text : Text) : mapRuns p (fun run => run) text = text :=
  substitute_self (runSite p) text

/-- `mapRuns p f text = text` if `f run = run` for each run of `text`. -/
theorem mapRuns_eq_self {text : Text} (h : ∀ run ∈ runTexts p text, f run = run) :
    mapRuns p f text = text := by
  rw [mapRuns_congr h, mapRuns_id]

/-! ### Runs within pieces -/

section Pieces

variable {isSeparator : Char → Bool}

/-- If `text` does not begin with a character of the class, neither does its first piece. -/
theorem head?_first_piece {text first : Text} {later : List Text}
    (hpieces : pieces isSeparator text = first :: later) (htext : ∀ c ∈ text.head?, p c = false) :
    ∀ c ∈ first.head?, p c = false := by
  cases text with
  | nil =>
    obtain ⟨rfl, -⟩ := List.cons.inj hpieces
    simp
  | cons d rest =>
    rw [pieces] at hpieces
    split at hpieces
    · obtain ⟨rfl, -⟩ := List.cons.inj hpieces
      simp
    · cases hrest : pieces isSeparator rest with
      | nil => simp [hrest] at hpieces
      | cons first' later' =>
        rw [hrest, List.modifyHead_cons] at hpieces
        obtain ⟨rfl, -⟩ := List.cons.inj hpieces
        simpa using htext

/-- `pieces isSeparator (mapRuns p f text)` is `mapRuns p f` of each piece of `text`, if neither the
class nor the rewritten runs have separators. -/
theorem pieces_mapRuns (hp : ∀ c, p c → isSeparator c = false) {text : Text}
    (hf : ∀ run ∈ runTexts p text, ∀ c ∈ f run, isSeparator c = false) :
    pieces isSeparator (mapRuns p f text) = (pieces isSeparator text).map (mapRuns p f) := by
  induction text using run_induction p with
  | nil => rfl
  | cons c rest hc ih =>
    rw [runTexts_cons hc] at hf
    rw [mapRuns_cons hc, pieces, pieces, ih hf]
    split
    · rfl
    · cases pieces isSeparator rest with
      | nil => rfl
      | cons first later => simp [mapRuns_cons hc]
  | run run rest hne hrun hrest ih =>
    rw [runTexts_run hne hrun hrest, List.forall_mem_cons] at hf
    have hsource := pieces_append_of_not_isSeparator (fun c hc => hp c (hrun c hc)) rest
    rw [mapRuns_run hne hrun hrest, pieces_append_of_not_isSeparator hf.1, hsource, ih hf.2]
    cases hpieces : pieces isSeparator rest with
    | nil => rfl
    | cons first later =>
      -- the run is joined to the first piece, and is a whole run there
      have hfirst := head?_first_piece hpieces hrest
      simp [mapRuns_run hne hrun hfirst]

end Pieces

/-! ### Whole words -/

theorem wordSite_eq_none_of_head {word rest : Text} (hne : word ≠ [])
    (hword : ∀ c ∈ word, isAsciiWord c) (hrest : ∀ c ∈ rest.head?, isAsciiWord c = false)
    (before : Option Char) : wordSite word before rest = none := by
  unfold wordSite
  split
  · rename_i following hafter
    rw [after?_eq_some_iff] at hafter
    obtain ⟨c, word, rfl⟩ := List.exists_cons_of_ne_nil hne
    have hc := hword c List.mem_cons_self
    rw [hrest c (by simp [hafter])] at hc
    cases hc
  · rfl

/-- `wordSite word (some c) rest = none` if `c` is a word character: within a word no other one
begins. -/
theorem wordSite_eq_none_of_within {word : Text} (hne : word ≠ [])
    (hword : ∀ c ∈ word, isAsciiWord c) {c : Char} (hc : isAsciiWord c) (rest : Text) :
    wordSite word (some c) rest = none := by
  obtain ⟨d, word, rfl⟩ := List.exists_cons_of_ne_nil hne
  have hd := hword d List.mem_cons_self
  unfold wordSite
  split
  · simp [isBoundary, isWordAt, hc, hd]
  · rfl

/-- `wordSite word` matches `word` itself at the start of `word ++ rest`, if no word character stands
before or behind it. -/
theorem wordSite_self {word rest : Text} (hne : word ≠ []) (hword : ∀ c ∈ word, isAsciiWord c)
    (hrest : ∀ c ∈ rest.head?, isAsciiWord c = false) {before : Option Char}
    (hbefore : isWordAt before = false) :
    wordSite word before (word ++ rest) = some ((), word.length) := by
  have hafter : after? word (word ++ rest) = some rest := after?_eq_some_iff.mpr rfl
  have hstart : isBoundary before word.head? = true := by
    have hhead : isWordAt word.head? = true := by
      obtain ⟨c, word, rfl⟩ := List.exists_cons_of_ne_nil hne
      exact hword c List.mem_cons_self
    simp [isBoundary, hbefore, hhead]
  have hstop : isBoundary word.getLast? rest.head? = true := by
    have hlast := hword _ (List.getLast_mem hne)
    rw [List.getLast?_eq_getLast_of_ne_nil hne]
    cases hhead : rest.head? with
    | none => simp [isBoundary, isWordAt, hlast]
    | some c => simp [isBoundary, isWordAt, hlast, hrest c hhead]
  unfold wordSite
  rw [hafter]
  simp [hstart, hstop]

/-- `wordSite word before (run ++ rest) = none` if `run` is a whole run of word characters other than
`word`. -/
theorem wordSite_eq_none_of_ne {word run rest : Text} (hne : word ≠ [])
    (hword : ∀ c ∈ word, isAsciiWord c) (hrun : ∀ c ∈ run, isAsciiWord c)
    (hrest : ∀ c ∈ rest.head?, isAsciiWord c = false) (hdiff : run ≠ word) (before : Option Char) :
    wordSite word before (run ++ rest) = none := by
  unfold wordSite
  split
  · rename_i following hafter
    rw [after?_eq_some_iff] at hafter
    rcases List.append_eq_append_iff.mp hafter with ⟨later, rfl, hfollowing⟩ | ⟨later, rfl, rfl⟩
    · -- the word does not go on behind the run
      cases later with
      | nil => simp at hdiff
      | cons c later =>
        have hc := hword c (by simp)
        rw [hrest c (by simp [hfollowing])] at hc
        cases hc
    · -- the word is a proper beginning of the run, so it does not end at a boundary
      cases later with
      | nil => simp at hdiff
      | cons c later =>
        have hc := hrun c (by simp)
        have hlast := hword _ (List.getLast_mem hne)
        have hstop : isBoundary word.getLast? ((c :: later) ++ rest).head? = false := by
          rw [List.getLast?_eq_getLast_of_ne_nil hne]
          simp [isBoundary, isWordAt, hlast, hc]
        rw [hstop, Bool.and_false, if_neg Bool.false_ne_true]
  · rfl

section Scan

variable {word rest : Text}

/-- The scan of `rest` for `word` does not depend on the character `before`, if `rest` does not begin
with a word character. -/
theorem scanFrom_wordSite_rest (hne : word ≠ []) (hword : ∀ c ∈ word, isAsciiWord c)
    (hrest : ∀ c ∈ rest.head?, isAsciiWord c = false) (before : Option Char) :
    scanFrom (wordSite word) before 0 rest = scanFrom (wordSite word) none 0 rest := by
  apply scanFrom_congr
  rw [wordSite_eq_none_of_head hne hword hrest, wordSite_eq_none_of_head hne hword hrest]

/-- Behind a word character `c`, the scan of `run ++ rest` keeps `run` and goes on with `rest` as at
the start of a text. -/
theorem scanFrom_wordSite_within (hne : word ≠ []) (hword : ∀ c ∈ word, isAsciiWord c)
    (hrest : ∀ d ∈ rest.head?, isAsciiWord d = false) {c : Char} (hc : isAsciiWord c) {run : Text}
    (hrun : ∀ d ∈ run, isAsciiWord d) :
    scanFrom (wordSite word) (some c) 0 (run ++ rest)
      = run.map .plain ++ scanFrom (wordSite word) none 0 rest := by
  induction run generalizing c with
  | nil => exact scanFrom_wordSite_rest hne hword hrest _
  | cons d run ih =>
    rw [List.forall_mem_cons] at hrun
    rw [List.cons_append, scanFrom_of_eq_none (wordSite_eq_none_of_within hne hword hc _),
      ih hrun.1 hrun.2, List.map_cons, List.cons_append]

/-- The scan of `word ++ rest` has a hit on `word` and goes on with `rest` as at the start of a text. -/
theorem scanFrom_wordSite_self (hne : word ≠ []) (hword : ∀ c ∈ word, isAsciiWord c)
    (hrest : ∀ c ∈ rest.head?, isAsciiWord c = false) {before : Option Char}
    (hbefore : isWordAt before = false) :
    scanFrom (wordSite word) before 0 (word ++ rest)
      = .hit () word :: scanFrom (wordSite word) none 0 rest := by
  have hsite := wordSite_self hne hword hrest hbefore
  obtain ⟨length, hlength⟩ := Nat.exists_eq_add_of_lt (List.length_pos_iff.mpr hne)
  rw [Nat.zero_add] at hlength
  rw [scanFrom_hit (by simp [hne]) (hlength ▸ hsite), ← hlength, List.take_left, List.drop_left,
    scanFrom_wordSite_rest hne hword hrest]

/-- The scan of `run ++ rest` keeps `run`, which is not `word`, and goes on with `rest` as at the
start of a text. -/
theorem scanFrom_wordSite_of_ne (hne : word ≠ []) (hword : ∀ c ∈ word, isAsciiWord c)
    (hrest : ∀ c ∈ rest.head?, isAsciiWord c = false) {run : Text} (hrunne : run ≠ [])
    (hrun : ∀ c ∈ run, isAsciiWord c) (hdiff : run ≠ word) (before : Option Char) :
    scanFrom (wordSite word) before 0 (run ++ rest)
      = run.map .plain ++ scanFrom (wordSite word) none 0 rest := by
  have hsite := wordSite_eq_none_of_ne hne hword hrun hrest hdiff before
  obtain ⟨c, run, rfl⟩ := List.exists_cons_of_ne_nil hrunne
  rw [List.forall_mem_cons] at hrun
  rw [List.cons_append] at hsite
  rw [List.cons_append, scanFrom_of_eq_none hsite, scanFrom_wordSite_within hne hword hrest hrun.1 hrun.2,
    List.map_cons, List.cons_append]

end Scan

/-- **Whole words are runs**: `replaceWholeWord word replacement text` is `text` with `replacement` in
place of each maximal run of word characters that is `word`. -/
theorem replaceWholeWord_eq_mapRuns {word : Text} (hne : word ≠ [])
    (hword : ∀ c ∈ word, isAsciiWord c) (replacement text : Text) :
    replaceWholeWord word replacement text
      = mapRuns isAsciiWord (fun run => if run = word then replacement else run) text := by
  have hempty : word.isEmpty = false := by simpa using hne
  rw [replaceWholeWord, hempty, if_neg Bool.false_ne_true, substitute, scan]
  -- what stands before the place does not matter, as long as it is no word character
  suffices h : ∀ before, isWordAt before = false →
      (scanFrom (wordSite word) before 0 text).flatMap (Segment.replaced fun _ _ => replacement)
        = mapRuns isAsciiWord (fun run => if run = word then replacement else run) text from
    h none rfl
  induction text using run_induction isAsciiWord with
  | nil => exact fun _ _ => rfl
  | cons c rest hc ih =>
    intro before _
    have hhead : ∀ d ∈ (c :: rest).head?, isAsciiWord d = false := by simpa using hc
    rw [scanFrom_of_eq_none (wordSite_eq_none_of_head hne hword hhead before), List.flatMap_cons,
      Segment.replaced, ih (some c) hc, mapRuns_cons hc, List.singleton_append]
  | run run rest hrunne hrun hrest ih =>
    intro before hbefore
    rw [mapRuns_run hrunne hrun hrest, ← ih none rfl]
    split
    · rename_i heq
      rw [heq, scanFrom_wordSite_self hne hword hrest hbefore, List.flatMap_cons, Segment.replaced]
    · rename_i hdiff
      rw [scanFrom_wordSite_of_ne hne hword hrest hrunne hrun hdiff, List.flatMap_append,
        Segment.flatMap_replaced_map_plain]

/-- The sites of `wordSite word` in `text` read what the runs of `text` equal to `word` read. -/
theorem map_text_sites_wordSite {word : Text} (hne : word ≠ []) (hword : ∀ c ∈ word, isAsciiWord c)
    (text : Text) :
    (sites (wordSite word) text).map Hit.text = (runTexts isAsciiWord text).filter (· = word) := by
  suffices h : ∀ before start, isWordAt before = false →
      (Segment.hitsFrom start (scanFrom (wordSite word) before 0 text)).map Hit.text
        = (runTexts isAsciiWord text).filter (· = word) from
    h none 0 rfl
  induction text using run_induction isAsciiWord with
  | nil => exact fun _ _ _ => rfl
  | cons c rest hc ih =>
    intro before start _
    have hhead : ∀ d ∈ (c :: rest).head?, isAsciiWord d = false := by simpa using hc
    rw [scanFrom_of_eq_none (wordSite_eq_none_of_head hne hword hhead before), Segment.hitsFrom,
      ih (some c) _ hc, runTexts_cons hc]
  | run run rest hrunne hrun hrest ih =>
    intro before start hbefore
    rw [runTexts_run hrunne hrun hrest]
    by_cases heq : run = word
    · rw [heq, scanFrom_wordSite_self hne hword hrest hbefore, Segment.hitsFrom, List.map_cons,
        ih none _ rfl, List.filter_cons_of_pos (by simp)]
    · rw [scanFrom_wordSite_of_ne hne hword hrest hrunne hrun heq, Segment.hitsFrom_map_plain_append,
        ih none _ rfl, List.filter_cons_of_neg (by simpa using heq)]

/-- `sites (wordSite word) text = []` iff no run of `text` is `word`. -/
theorem sites_wordSite_eq_nil_iff {word : Text} (hne : word ≠ []) (hword : ∀ c ∈ word, isAsciiWord c)
    {text : Text} : sites (wordSite word) text = [] ↔ word ∉ runTexts isAsciiWord text := by
  rw [← List.map_eq_nil_iff, map_text_sites_wordSite hne hword, List.filter_eq_nil_iff]
  constructor
  · intro h hmem
    exact h word hmem (by simp)
  · rintro h run hmem heq
    exact h (of_decide_eq_true heq ▸ hmem)

end CommentSpell.Text
