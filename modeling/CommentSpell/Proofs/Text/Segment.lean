import CommentSpell.Text.Segment
import CommentSpell.Proofs.Text.Basic

/-!
# The sites of a leftmost scan

A leftmost scan is pinned down without the scan: its hits do not overlap and stand in order, each of
them is a site, and no site starts at an offset that lies outside all of them (`LeftmostFrom`).
There is exactly one such list of hits (`eq_sites_iff`): at the first offset where two lists could
part, both have a site there, and a site has one length only.

The text without its sites is described by the same list (`substitute_nil_eq_outside`).  When sites
are replaced, a relation that holds site by site holds for the whole (`substitute_rel`), and each site
is moved by the growth of those before it (`getElem?_hitsFrom_map_mapText`).
-/

namespace CommentSpell

variable {α : Type}

namespace Hit

/-- `hit.stop` is the offset just behind `hit`. -/
def stop (hit : Hit α) : Nat :=
  hit.start + hit.text.length

/-- `hit.covers i` iff the offset `i` lies in `hit`. -/
def covers (hit : Hit α) (i : Nat) : Bool :=
  hit.start ≤ i && i < hit.stop

theorem covers_iff (hit : Hit α) (i : Nat) : hit.covers i ↔ hit.start ≤ i ∧ i < hit.stop := by
  rw [covers, Bool.and_eq_true, decide_eq_true_eq, decide_eq_true_eq]

end Hit

namespace Site

/-- `site.Fits` iff `site` never reaches beyond the end of the text. -/
def Fits (site : Site α) : Prop :=
  ∀ before text value length, site before text = some (value, length) → length ≤ text.length

/-- `site.StartsAt text i value length` iff `site` matches `length` characters of `text` at offset
`i`, at least one, and gives `value`. -/
def StartsAt (site : Site α) (text : Text) (i : Nat) (value : α) (length : Nat) : Prop :=
  site (text.charBefore i) (text.drop i) = some (value, length) ∧ 0 < length

end Site

/-! ### Equations of the scan -/

/-- `scanFrom site before skip text` passes over `skip` characters and goes on behind them. -/
theorem scanFrom_skip (site : Site α) (before : Option Char) (skip : Nat) (text : Text) :
    scanFrom site before skip text
      = scanFrom site ((text.take skip).getLast?.or before) 0 (text.drop skip) := by
  induction text generalizing before skip with
  | nil => rw [List.drop_nil, scanFrom, scanFrom]
  | cons c rest ih =>
    cases skip with
    | zero => rw [List.take_zero, List.drop_zero, List.getLast?_nil, Option.none_or]
    | succ skip =>
      rw [scanFrom, ih, List.take_succ_cons, List.drop_succ_cons, List.getLast?_cons]
      cases (rest.take skip).getLast? <;> rfl

/-- `scanFrom site before 0 text` depends on `before` only by `site before text`. -/
theorem scanFrom_congr {site : Site α} {before before' : Option Char} {text : Text}
    (h : site before text = site before' text) :
    scanFrom site before 0 text = scanFrom site before' 0 text := by
  cases text with
  | nil => rw [scanFrom, scanFrom]
  | cons c rest => rw [scanFrom, scanFrom, h]

theorem scanFrom_plain {site : Site α} {before : Option Char} {c : Char} {rest : Text}
    (h : ∀ value length, site before (c :: rest) ≠ some (value, length + 1)) :
    scanFrom site before 0 (c :: rest) = .plain c :: scanFrom site (some c) 0 rest := by
  rw [scanFrom]
  split
  · rename_i value length hsite
    exact absurd hsite (h value length)
  · rfl

theorem scanFrom_of_eq_none {site : Site α} {before : Option Char} {c : Char} {rest : Text}
    (h : site before (c :: rest) = none) :
    scanFrom site before 0 (c :: rest) = .plain c :: scanFrom site (some c) 0 rest := by
  apply scanFrom_plain
  intro value length hsite
  rw [h] at hsite
  cases hsite

theorem scanFrom_hit {site : Site α} {before : Option Char} {text : Text} {value : α}
    {length : Nat} (hne : text ≠ []) (h : site before text = some (value, length + 1)) :
    scanFrom site before 0 text
      = .hit value (text.take (length + 1))
        :: scanFrom site (text.take (length + 1)).getLast? 0 (text.drop (length + 1)) := by
  obtain ⟨c, rest, rfl⟩ := List.exists_cons_of_ne_nil hne
  rw [scanFrom, h]
  dsimp only
  rw [scanFrom_skip, List.take_succ_cons, List.drop_succ_cons, List.getLast?_cons]
  cases (rest.take length).getLast? <;> rfl

/-- Induction along the scan of a text by `site`, from one segment to the next. -/
theorem scan_induction (site : Site α) {motive : Option Char → Text → Prop}
    (nil : ∀ before, motive before [])
    (plain : ∀ before c rest,
      (∀ value length, site before (c :: rest) ≠ some (value, length + 1)) →
      motive (some c) rest → motive before (c :: rest))
    (hit : ∀ before text value length, text ≠ [] →
      site before text = some (value, length + 1) →
      motive (text.take (length + 1)).getLast? (text.drop (length + 1)) → motive before text) :
    ∀ before text, motive before text := by
  -- the induction is on the length, as a hit drops more than one character
  suffices h : ∀ (n : Nat) (before : Option Char) (text : Text), text.length = n →
      motive before text from fun before text => h _ before text rfl
  intro n
  induction n using Nat.strongRecOn with
  | ind n ih =>
    intro before text hn
    cases text with
    | nil => exact nil before
    | cons c rest =>
      by_cases hsite : ∃ value length, site before (c :: rest) = some (value, length + 1)
      · obtain ⟨value, length, hsite⟩ := hsite
        have hlt : ((c :: rest).drop (length + 1)).length < n := by
          rw [← hn, List.length_drop, List.length_cons]
          omega
        exact hit before (c :: rest) value length (List.cons_ne_nil c rest) hsite
          (ih _ hlt _ _ rfl)
      · have hplain : ∀ value length, site before (c :: rest) ≠ some (value, length + 1) :=
          fun value length h => hsite ⟨value, length, h⟩
        have hlt : rest.length < n := by
          rw [← hn, List.length_cons]
          omega
        exact plain before c rest hplain (ih _ hlt _ _ rfl)

/-! ### Leftmost lists of hits -/

/-- `LeftmostFrom site text base hits` iff `hits` are those of a leftmost scan of `text` from `base`
on: they are sites, stand in order and apart, and no other site starts outside of them. -/
structure LeftmostFrom (site : Site α) (text : Text) (base : Nat) (hits : List (Hit α)) : Prop where
  base_le : ∀ hit ∈ hits, base ≤ hit.start
  apart : hits.Pairwise fun a b => a.stop ≤ b.start
  isSite : ∀ hit ∈ hits, site.StartsAt text hit.start hit.value hit.text.length
  slice : ∀ hit ∈ hits, hit.text = (text.drop hit.start).take hit.text.length
  complete : ∀ i, base ≤ i → (∀ hit ∈ hits, i < hit.start ∨ hit.stop ≤ i) →
    ∀ value length, ¬ site.StartsAt text i value length

namespace LeftmostFrom

variable {site : Site α} {text : Text} {base : Nat} {hits : List (Hit α)}

theorem start_lt_stop (h : LeftmostFrom site text base hits) {hit : Hit α} (hmem : hit ∈ hits) :
    hit.start < hit.stop := by
  have hpos := (h.isSite hit hmem).2
  rw [Hit.stop]
  omega

theorem stop_le_length (h : LeftmostFrom site text base hits) {hit : Hit α} (hmem : hit ∈ hits) :
    hit.stop ≤ text.length := by
  have hpos := (h.isSite hit hmem).2
  have hlen := congrArg List.length (h.slice hit hmem)
  rw [List.length_take, List.length_drop] at hlen
  rw [Hit.stop]
  omega

/-- Nothing is left to find if `base` is not before the end of `text`. -/
theorem nil (hfits : site.Fits) (hbase : text.length ≤ base) : LeftmostFrom site text base [] where
  base_le := by simp
  apart := List.Pairwise.nil
  isSite := by simp
  slice := by simp
  complete i hi _ value length hstarts := by
    have hle := hfits _ _ _ _ hstarts.1
    have hpos := hstarts.2
    rw [List.length_drop] at hle
    omega

/-- An offset `base` where no site starts is passed over: hits that are leftmost from `base + 1` on
are leftmost from `base` on. -/
theorem plain (hno : ∀ value length, ¬ site.StartsAt text base value length)
    (h : LeftmostFrom site text (base + 1) hits) : LeftmostFrom site text base hits where
  base_le hit hmem := by
    have := h.base_le hit hmem
    omega
  apart := h.apart
  isSite := h.isSite
  slice := h.slice
  complete i hi hout := by
    rcases Nat.eq_or_lt_of_le hi with rfl | hlt
    · exact hno
    · exact h.complete i hlt hout

/-- A site that starts at `base` is taken: with it in front, hits that are leftmost from its end on
are leftmost from `base` on. -/
theorem hit {value : α} {word : Text} (hsite : site.StartsAt text base value word.length)
    (hword : word = (text.drop base).take word.length)
    (h : LeftmostFrom site text (base + word.length) hits) :
    LeftmostFrom site text base (⟨base, value, word⟩ :: hits) where
  base_le := by
    intro hit hmem
    rcases List.mem_cons.mp hmem with rfl | hmem
    · exact Nat.le_refl _
    · have := h.base_le hit hmem
      omega
  apart := List.pairwise_cons.mpr ⟨h.base_le, h.apart⟩
  isSite := by
    intro hit hmem
    rcases List.mem_cons.mp hmem with rfl | hmem
    · exact hsite
    · exact h.isSite hit hmem
  slice := by
    intro hit hmem
    rcases List.mem_cons.mp hmem with rfl | hmem
    · exact hword
    · exact h.slice hit hmem
  complete := by
    intro i hi hout
    rcases hout _ List.mem_cons_self with hlt | hge
    · exact absurd hi (Nat.not_le.mpr hlt)
    · exact h.complete i hge fun hit hmem => hout hit (List.mem_cons_of_mem _ hmem)

/-- The `hits` behind the `first` one are leftmost from `first.stop` on. -/
theorem tail {first : Hit α} (h : LeftmostFrom site text base (first :: hits)) :
    LeftmostFrom site text first.stop hits where
  base_le := (List.pairwise_cons.mp h.apart).1
  apart := (List.pairwise_cons.mp h.apart).2
  isSite hit hmem := h.isSite hit (List.mem_cons_of_mem _ hmem)
  slice hit hmem := h.slice hit (List.mem_cons_of_mem _ hmem)
  complete := by
    intro i hi hout
    have hstart := h.start_lt_stop List.mem_cons_self
    have hbase := h.base_le first List.mem_cons_self
    refine h.complete i (by omega) fun hit hmem => ?_
    rcases List.mem_cons.mp hmem with rfl | hmem
    · exact Or.inr hi
    · exact hout hit hmem

/-- Of two leftmost lists from `base` on, the first hit of one starts no later than that of the other. -/
theorem start_le_start {first first' : Hit α} {hits' : List (Hit α)}
    (h : LeftmostFrom site text base (first :: hits))
    (h' : LeftmostFrom site text base (first' :: hits')) : first.start ≤ first'.start := by
  -- otherwise the other list has a site before all hits of this one
  by_contra hlt
  rw [Nat.not_le] at hlt
  refine h.complete first'.start (h'.base_le first' List.mem_cons_self) ?_ _ _
    (h'.isSite first' List.mem_cons_self)
  intro hit hmem
  rcases List.mem_cons.mp hmem with rfl | hmem
  · exact Or.inl hlt
  · have hapart := (List.pairwise_cons.mp h.apart).1 hit hmem
    have := h.start_lt_stop List.mem_cons_self
    exact Or.inl (by omega)

/-- There is only one leftmost list from `base` on: `hits = hits'`. -/
theorem unique {hits' : List (Hit α)} (h : LeftmostFrom site text base hits)
    (h' : LeftmostFrom site text base hits') : hits = hits' := by
  induction hits generalizing base hits' with
  | nil =>
    cases hits' with
    | nil => rfl
    | cons first' hits' =>
      have hmem : first' ∈ first' :: hits' := List.mem_cons_self
      exact absurd (h'.isSite first' hmem)
        (h.complete first'.start (h'.base_le first' hmem) (by simp) _ _)
  | cons first hits ih =>
    cases hits' with
    | nil =>
      have hmem : first ∈ first :: hits := List.mem_cons_self
      exact absurd (h.isSite first hmem)
        (h'.complete first.start (h.base_le first hmem) (by simp) _ _)
    | cons first' hits' =>
      -- both first hits are at one offset, and the site there has one length
      have hstart : first.start = first'.start :=
        Nat.le_antisymm (h.start_le_start h') (h'.start_le_start h)
      have hsite := (h.isSite first List.mem_cons_self).1
      have hsite' := (h'.isSite first' List.mem_cons_self).1
      rw [hstart, hsite', Option.some.injEq, Prod.mk.injEq] at hsite
      have htext : first.text = first'.text := by
        rw [h.slice first List.mem_cons_self, h'.slice first' List.mem_cons_self, hstart, hsite.2]
      have hfirst : first = first' := by
        cases first
        cases first'
        simp_all
      subst hfirst
      rw [ih h.tail h'.tail]

end LeftmostFrom

/-! ### The scan finds the leftmost hits -/

theorem Site.startsAt_length_append {site : Site α} {pre text : Text} {value : α} {length : Nat} :
    site.StartsAt (pre ++ text) pre.length value length
      ↔ site pre.getLast? text = some (value, length) ∧ 0 < length := by
  rw [Site.StartsAt, Text.charBefore_length_append, List.drop_left]

theorem leftmostFrom_hitsFrom {site : Site α} (hfits : site.Fits) (before : Option Char)
    (text : Text) : ∀ pre : Text, pre.getLast? = before →
      LeftmostFrom site (pre ++ text) pre.length
        (Segment.hitsFrom pre.length (scanFrom site before 0 text)) := by
  -- `pre` is what has been scanned, so its length is the offset of the next segment
  induction before, text using scan_induction site with
  | nil before =>
    intro pre _
    rw [scanFrom, Segment.hitsFrom, List.append_nil]
    exact .nil hfits (Nat.le_refl _)
  | plain before c rest hno ih =>
    intro pre hpre
    rw [scanFrom_plain hno, Segment.hitsFrom]
    have hrest := ih (pre ++ [c]) (by rw [List.getLast?_concat])
    rw [List.append_assoc, List.singleton_append, List.length_append, List.length_singleton]
      at hrest
    refine .plain (fun value length hstarts => ?_) hrest
    rw [Site.startsAt_length_append, hpre] at hstarts
    obtain ⟨length, rfl⟩ := Nat.exists_eq_add_of_lt hstarts.2
    rw [Nat.zero_add] at hstarts
    exact hno value length hstarts.1
  | hit before text value length hne hsite ih =>
    intro pre hpre
    rw [scanFrom_hit hne hsite, Segment.hitsFrom]
    have hlen : (text.take (length + 1)).length = length + 1 :=
      List.length_take_of_le (hfits _ _ _ _ hsite)
    have hlast : (pre ++ text.take (length + 1)).getLast? = (text.take (length + 1)).getLast? := by
      have hne' : text.take (length + 1) ≠ [] := by
        rw [← List.length_pos_iff, hlen]
        omega
      rw [List.getLast?_append_of_ne_nil _ hne']
    have hrest := ih (pre ++ text.take (length + 1)) hlast
    rw [List.append_assoc, List.take_append_drop, List.length_append] at hrest
    refine .hit ?_ ?_ hrest
    · rw [Site.startsAt_length_append, hpre, hlen]
      exact ⟨hsite, Nat.succ_pos length⟩
    · rw [List.drop_left, hlen]

theorem leftmostFrom_sites {site : Site α} (hfits : site.Fits) (text : Text) :
    LeftmostFrom site text 0 (sites site text) :=
  leftmostFrom_hitsFrom hfits none text [] rfl

/-- **Leftmost sites**: `sites site text = hits` iff `hits` are sites of `text` that stand in order
and apart, and no other site starts outside of them. -/
theorem eq_sites_iff {site : Site α} (hfits : site.Fits) (text : Text) (hits : List (Hit α)) :
    sites site text = hits ↔ LeftmostFrom site text 0 hits := by
  constructor
  · rintro rfl
    exact leftmostFrom_sites hfits text
  · exact (leftmostFrom_sites hfits text).unique

/-! ### Texts with their sites replaced -/

/-- A relation `R` that holds between the text of each site and its replacement, and is kept when
pieces are put together, holds between `text` and `text` with its sites replaced. -/
theorem substitute_rel {site : Site α} {replacement : α → Text → Text} {R : Text → Text → Prop}
    (nil : R [] []) (keep : ∀ c {a b}, R a b → R (c :: a) (c :: b))
    (hit : ∀ {before text value length a b}, site before text = some (value, length) → R a b →
      R (text.take length ++ a) (replacement value (text.take length) ++ b))
    (before : Option Char) (text : Text) :
    R text ((scanFrom site before 0 text).flatMap (Segment.replaced replacement)) := by
  induction before, text using scan_induction site with
  | nil before => exact nil
  | plain before c rest hno ih =>
    rw [scanFrom_plain hno, List.flatMap_cons]
    exact keep c ih
  | hit before text value length hne hsite ih =>
    rw [scanFrom_hit hne hsite, List.flatMap_cons]
    have h := hit hsite ih
    rwa [List.take_append_drop] at h

/-- `substitute site (fun _ text => text) text = text`. -/
theorem substitute_self (site : Site α) (text : Text) :
    substitute site (fun _ text => text) text = text := by
  have hkept : Segment.replaced (fun (_ : α) text => text) = Segment.text := by
    ext1 segment
    cases segment <;> rfl
  rw [substitute, hkept, flatMap_text_scan]

namespace Segment

/-- `segment.mapText f` is `segment` with `f text` in place of the text of its site. -/
def mapText (f : Text → Text) : Segment α → Segment α
  | plain c => plain c
  | hit value text => hit value (f text)

/-- Characters `plains` outside all sites are kept by a replacement. -/
theorem flatMap_replaced_map_plain (replacement : α → Text → Text) (plains : Text) :
    (plains.map plain).flatMap (replaced replacement) = plains := by
  rw [List.flatMap_map]
  exact List.flatMap_singleton' plains

/-- Characters `plains` in front of `segments` move the hits behind them by `plains.length`. -/
theorem hitsFrom_map_plain_append (plains : Text) (segments : List (Segment α)) (start : Nat) :
    hitsFrom start (plains.map plain ++ segments) = hitsFrom (start + plains.length) segments := by
  induction plains generalizing start with
  | nil => rfl
  | cons c plains ih =>
    rw [List.map_cons, List.cons_append, hitsFrom, ih, List.length_cons, Nat.add_assoc, Nat.add_comm 1]

theorem flatMap_replaced_nil_map_mapText (f : Text → Text) (segments : List (Segment α)) :
    (segments.map (mapText f)).flatMap (replaced fun _ _ => [])
      = segments.flatMap (replaced fun _ _ => []) := by
  rw [List.flatMap_map]
  congr 1
  funext segment
  cases segment <;> rfl

theorem length_hitsFrom_map_mapText (f : Text → Text) (segments : List (Segment α))
    (start start' : Nat) :
    (hitsFrom start' (segments.map (mapText f))).length = (hitsFrom start segments).length := by
  induction segments generalizing start start' with
  | nil => rfl
  | cons segment segments ih =>
    rw [List.map_cons]
    cases segment with
    | plain c => exact ih (start + 1) (start' + 1)
    | hit value text =>
      rw [mapText, hitsFrom, hitsFrom, List.length_cons, List.length_cons]
      exact congrArg (· + 1) (ih _ _)

/-- `hit.growth f` is how much longer the text of `hit` gets when `f` rewrites it. -/
def growth (f : Text → Text) (hit : Hit α) : Int :=
  (f hit.text).length - hit.text.length

/-- If the `k`-th hit of `segments` is `site`, then the `k`-th hit of the rewritten segments has the
text `f site.text` and is moved by the growth of the first `k` hits. -/
theorem getElem?_hitsFrom_map_mapText (f : Text → Text) (start' : Nat)
    {segments : List (Segment α)} {start k : Nat} {site : Hit α}
    (h : (hitsFrom start segments)[k]? = some site) :
    ∃ site', (hitsFrom start' (segments.map (mapText f)))[k]? = some site'
      ∧ site'.text = f site.text
      ∧ (site'.start : Int) - start'
          = site.start - start + (((hitsFrom start segments).take k).map (growth f)).sum := by
  induction segments generalizing start start' k with
  | nil => cases h
  | cons segment segments ih =>
    rw [List.map_cons]
    cases segment with
    | plain c =>
      rw [hitsFrom] at h ⊢
      obtain ⟨site', hsite', htext, hstart⟩ := ih (start' + 1) h
      refine ⟨site', hsite', htext, ?_⟩
      push_cast at hstart
      omega
    | hit value text =>
      rw [hitsFrom] at h ⊢
      rw [mapText, hitsFrom]
      cases k with
      | zero =>
        rw [List.getElem?_cons_zero, Option.some.injEq] at h
        subst h
        refine ⟨_, List.getElem?_cons_zero, rfl, ?_⟩
        rw [List.take_zero, List.map_nil, List.sum_nil]
        dsimp only
        omega
      | succ k =>
        rw [List.getElem?_cons_succ] at h ⊢
        obtain ⟨site', hsite', htext, hstart⟩ := ih (start' + (f text).length) h
        refine ⟨site', hsite', htext, ?_⟩
        rw [List.take_succ_cons, List.map_cons, List.sum_cons, growth]
        push_cast at hstart
        dsimp only
        omega

end Segment

/-! ### The text without its sites -/

/-- `text.outsideFrom covered start` are the characters of `text`, which begins at offset `start`,
whose offset is not `covered`. -/
def Text.outsideFrom (covered : Nat → Bool) (start : Nat) (text : Text) : Text :=
  ((text.zipIdx start).filter fun (_, i) => !covered i).map Prod.fst

/-- `text.outside covered` are the characters of `text` whose offset is not `covered`. -/
def Text.outside (covered : Nat → Bool) (text : Text) : Text :=
  text.outsideFrom covered 0

namespace Text

theorem outsideFrom_append (covered : Nat → Bool) (start : Nat) (a b : Text) :
    outsideFrom covered start (a ++ b)
      = outsideFrom covered start a ++ outsideFrom covered (start + a.length) b := by
  rw [outsideFrom, List.zipIdx_append, List.filter_append, List.map_append]
  rfl

theorem outsideFrom_eq_nil {covered : Nat → Bool} {start : Nat} {text : Text}
    (h : ∀ i, start ≤ i → i < start + text.length → covered i) :
    outsideFrom covered start text = [] := by
  rw [outsideFrom, List.map_eq_nil_iff, List.filter_eq_nil_iff]
  rintro ⟨c, i⟩ hmem
  have hi := List.mem_zipIdx hmem
  have hcovered := h i hi.1 hi.2.1
  simpa using hcovered

theorem outsideFrom_congr {covered covered' : Nat → Bool} {start : Nat} {text : Text}
    (h : ∀ i, start ≤ i → covered i = covered' i) :
    outsideFrom covered start text = outsideFrom covered' start text := by
  rw [outsideFrom, outsideFrom]
  congr 1
  refine List.filter_congr fun p hmem => ?_
  have hcovered := h p.2 (List.le_snd_of_mem_zipIdx hmem)
  exact congrArg Bool.not hcovered

end Text

namespace Segment

theorem start_le_of_mem_hitsFrom {segments : List (Segment α)} {start : Nat} {hit : Hit α}
    (h : hit ∈ hitsFrom start segments) : start ≤ hit.start := by
  induction segments generalizing start with
  | nil => rw [hitsFrom] at h; cases h
  | cons segment segments ih =>
    cases segment with
    | plain c =>
      rw [hitsFrom] at h
      have := ih h
      omega
    | hit value text =>
      rw [hitsFrom, List.mem_cons] at h
      rcases h with rfl | h
      · exact Nat.le_refl _
      · have := ih h
        omega

/-- No hit of segments that begin at `start` covers an offset `i < start`. -/
theorem not_covered_of_lt {segments : List (Segment α)} {start i : Nat} (h : i < start) :
    (hitsFrom start segments).any (·.covers i) = false := by
  rw [List.any_eq_false]
  intro hit hmem hcovers
  have hstart := start_le_of_mem_hitsFrom hmem
  have := (hit.covers_iff i).mp hcovers
  omega

theorem flatMap_replaced_nil (segments : List (Segment α)) (start : Nat) :
    segments.flatMap (replaced fun _ _ => [])
      = Text.outsideFrom (fun i => (hitsFrom start segments).any (·.covers i)) start
          (segments.flatMap text) := by
  induction segments generalizing start with
  | nil => rfl
  | cons segment segments ih =>
    rw [List.flatMap_cons, List.flatMap_cons, Text.outsideFrom_append, ih (start + segment.text.length)]
    cases segment with
    | plain c =>
      rw [hitsFrom]
      congr 1
      rw [Text.outsideFrom]
      simp [text, replaced, not_covered_of_lt]
    | hit value word =>
      rw [hitsFrom]
      have hhit : Text.outsideFrom
          (fun i => (⟨start, value, word⟩ :: hitsFrom (start + word.length) segments).any
            (·.covers i)) start word = [] := by
        refine Text.outsideFrom_eq_nil fun i hle hlt => ?_
        rw [List.any_cons, Bool.or_eq_true, Hit.covers_iff]
        exact Or.inl ⟨hle, hlt⟩
      rw [text, hhit, replaced, List.nil_append, List.nil_append]
      refine Text.outsideFrom_congr fun i hle => ?_
      have hfirst : Hit.covers ⟨start, value, word⟩ i = false := by
        rw [Bool.eq_false_iff, Ne, Hit.covers_iff, Hit.stop]
        dsimp only
        omega
      rw [List.any_cons, hfirst, Bool.false_or]

end Segment

/-- `text` with its sites deleted consists of the characters of `text` that no hit covers. -/
theorem substitute_nil_eq_outside (site : Site α) (text : Text) :
    substitute site (fun _ _ => []) text
      = text.outside fun i => (sites site text).any (·.covers i) := by
  have h := Segment.flatMap_replaced_nil (scan site text) 0
  rw [flatMap_text_scan] at h
  exact h

end CommentSpell
