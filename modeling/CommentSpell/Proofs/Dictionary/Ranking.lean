import CommentSpell.Dictionary.Loading
import CommentSpell.Proofs.Sorting
import CommentSpell.Proofs.Text.Lowercase
import Mathlib.Data.Finset.Dedup

/-!
# The ranking of suggestions

What a search finds for a word is a set, and suggestions are listed from it in whatever order the set is
gone through (`Enumerates`).  The list does not depend on that order: of two different texts one always
outranks the other (`ranksBefore_iff`), and a list in strict order is known from its members
(`IsRanking.unique`).

Of the search nothing else is used than that it finds the word itself or words of the table.  The word
itself is a case variant of the word and is left out, so all that is left are words of the table, which the
dictionary accepts (`RankedDictionary.suggestions_ranked`).
-/

namespace CommentSpell

/-- `Enumerates found? candidates` iff `candidates` goes through what a search found, each text once;
a search without an answer found nothing. -/
structure Enumerates (found? : Option (Finset Text)) (candidates : List Text) : Prop where
  nodup : candidates.Nodup
  mem_iff (text : Text) : text ∈ candidates ↔ ∃ found ∈ found?, text ∈ found

theorem exists_enumerates (found? : Option (Finset Text)) : ∃ candidates, Enumerates found? candidates := by
  cases found? with
  | none => exact ⟨[], List.nodup_nil, fun text => by simp⟩
  | some found => exact ⟨found.toList, found.nodup_toList, fun text => by simp⟩

namespace WordTable

/-- `table.Outranks a b` iff `a` stands before `b` in a ranking: it is more frequent, or as frequent
and smaller in the order of texts. -/
def Outranks (table : WordTable) (a b : Text) : Prop :=
  table.frequency b < table.frequency a ∨ table.frequency a = table.frequency b ∧ a < b

/-- `table.IsRanking word found? ranking` iff `ranking` ranks what a search found for `word`: it holds
all of that but case variants of `word`, and each of its texts outranks all that follow it. -/
structure IsRanking (table : WordTable) (word : Text) (found? : Option (Finset Text))
    (ranking : List Text) : Prop where
  ordered : ranking.Pairwise table.Outranks
  mem_iff (text : Text) :
    text ∈ ranking ↔ (∃ found ∈ found?, text ∈ found) ∧ Text.lower text ≠ Text.lower word

/-- `table.InLowerCase` iff the words of `table` are in lower case. -/
def InLowerCase (table : WordTable) : Prop :=
  ∀ word ∈ table.words, Text.lower word = word

variable {table : WordTable} {a b c word : Text} {found? : Option (Finset Text)}

/-! ### The order of suggestions -/

theorem ranksBefore_iff : table.ranksBefore a b ↔ a = b ∨ table.Outranks a b := by
  have hle : a ≤ b ↔ a < b ∨ a = b := Std.le_iff_lt_or_eq
  unfold ranksBefore Outranks
  rw [Bool.or_eq_true, Bool.and_eq_true, decide_eq_true_eq, decide_eq_true_eq, decide_eq_true_eq, hle]
  constructor
  · rintro (hmore | ⟨hsame, hless | rfl⟩)
    · exact Or.inr (Or.inl hmore)
    · exact Or.inr (Or.inr ⟨hsame, hless⟩)
    · exact Or.inl rfl
  · rintro (rfl | hmore | ⟨hsame, hless⟩)
    · exact Or.inr ⟨rfl, Or.inr rfl⟩
    · exact Or.inl hmore
    · exact Or.inr ⟨hsame, Or.inl hless⟩

theorem Outranks.irrefl (a : Text) : ¬ table.Outranks a a := by
  rintro (hmore | ⟨-, hless⟩)
  · exact Nat.lt_irrefl _ hmore
  · exact List.lt_irrefl a hless

theorem Outranks.trans (hab : table.Outranks a b) (hbc : table.Outranks b c) : table.Outranks a c := by
  rcases hab with hab | ⟨hab, hless⟩
  · rcases hbc with hbc | ⟨hbc, -⟩
    · exact Or.inl (Nat.lt_trans hbc hab)
    · exact Or.inl (hbc ▸ hab)
  · rcases hbc with hbc | ⟨hbc, hless'⟩
    · exact Or.inl (hab ▸ hbc)
    · exact Or.inr ⟨hab.trans hbc, List.lt_trans hless hless'⟩

/-- Of two different texts `a` and `b`, one outranks the other. -/
theorem outranks_total (a b : Text) : a = b ∨ table.Outranks a b ∨ table.Outranks b a := by
  rcases Nat.lt_trichotomy (table.frequency a) (table.frequency b) with hless | hsame | hmore
  · exact Or.inr (Or.inr (Or.inl hless))
  · rcases Std.lt_trichotomy a b with hlt | rfl | hgt
    · exact Or.inr (Or.inl (Or.inr ⟨hsame, hlt⟩))
    · exact Or.inl rfl
    · exact Or.inr (Or.inr (Or.inr ⟨hsame.symm, hgt⟩))
  · exact Or.inr (Or.inl (Or.inl hmore))

theorem ranksBefore_total (table : WordTable) (a b : Text) : table.ranksBefore a b ∨ table.ranksBefore b a := by
  rw [ranksBefore_iff, ranksBefore_iff]
  rcases table.outranks_total a b with rfl | hab | hba
  · exact Or.inl (Or.inl rfl)
  · exact Or.inl (Or.inr hab)
  · exact Or.inr (Or.inr hba)

theorem ranksBefore_trans (a b c : Text) (hab : table.ranksBefore a b) (hbc : table.ranksBefore b c) :
    table.ranksBefore a c := by
  rw [ranksBefore_iff] at hab hbc ⊢
  rcases hab with rfl | hab
  · exact hbc
  · rcases hbc with rfl | hbc
    · exact Or.inr hab
    · exact Or.inr (hab.trans hbc)

/-! ### Rankings -/

theorem IsRanking.nodup {ranking : List Text} (h : table.IsRanking word found? ranking) :
    ranking.Nodup :=
  h.ordered.imp fun hab => by
    rintro rfl
    exact Outranks.irrefl _ hab

/-- There is one ranking of what a search found for `word`: `ranking = ranking'`. -/
theorem IsRanking.unique {ranking ranking' : List Text} (h : table.IsRanking word found? ranking)
    (h' : table.IsRanking word found? ranking') : ranking = ranking' := by
  have : Std.Irrefl table.Outranks := ⟨Outranks.irrefl⟩
  have : Std.Antisymm table.Outranks := ⟨fun a b hab hba => absurd (hab.trans hba) (Outranks.irrefl a)⟩
  exact h.ordered.eq_of_mem_iff h'.ordered fun text => by rw [h.mem_iff, h'.mem_iff]

/-- `table.rank none word candidates` is the ranking of what was found for `word`, in whatever order
`candidates` goes through it. -/
theorem isRanking_rank (word : Text) {candidates : List Text} (h : Enumerates found? candidates) :
    table.IsRanking word found? (table.rank none word candidates) := by
  rw [rank, capped]
  have hperm := sortBy_perm table.ranksBefore
    (candidates.filter fun candidate => Text.lower candidate != Text.lower word)
  refine ⟨?_, fun text => ?_⟩
  · -- no text stands twice in the list, so the order in which it is sorted is strict
    have hsorted := pairwise_sortBy table.ranksBefore_total ranksBefore_trans
      (candidates.filter fun candidate => Text.lower candidate != Text.lower word)
    have hnodup := hperm.nodup_iff.mpr (h.nodup.filter _)
    exact hsorted.imp₂ (fun a b hab hne => (ranksBefore_iff.mp hab).resolve_left hne) hnodup
  · rw [hperm.mem_iff, List.mem_filter, h.mem_iff, bne_iff_ne]

theorem rank_eq_capped (limit? : Option Int) (candidates : List Text) :
    table.rank limit? word candidates = capped limit? (table.rank none word candidates) := rfl

/-- `table.rank (some limit) word candidates` are the first `limit` of all suggestions for `word`. -/
theorem rank_some (limit : Nat) (candidates : List Text) :
    table.rank (some limit) word candidates
      = (table.rank none word candidates).take
        (min limit (table.rank none word candidates).length) := by
  have hlimit : ¬ (limit : Int) < 0 := Int.not_lt.mpr (Int.natCast_nonneg limit)
  rw [rank_eq_capped, capped, if_neg hlimit, Int.toNat_natCast, List.take_eq_take_iff]
  omega

/-- The texts of a `ranking` are words of `table`, if the search finds no others but `word` itself. -/
theorem IsRanking.mem_words {ranking : List Text} (h : table.IsRanking word found? ranking)
    (hfound : ∀ found ∈ found?, ∀ text ∈ found, text = word ∨ text ∈ table.words) {text : Text}
    (htext : text ∈ ranking) : text ∈ table.words := by
  obtain ⟨⟨found, hmem, htext⟩, hvariant⟩ := (h.mem_iff text).mp htext
  refine (hfound found hmem text htext).resolve_left ?_
  -- the word itself is one of its case variants
  rintro rfl
  exact hvariant rfl

/-! ### Tables in lower case -/

/-- `table.contains word` for each `word` of a `table` in lower case. -/
theorem InLowerCase.contains_of_mem (h : table.InLowerCase) (hword : word ∈ table.words) :
    table.contains word := by
  rw [contains, decide_eq_true_eq, h word hword]
  exact hword

theorem inLowerCase_empty : (∅ : WordTable).InLowerCase :=
  List.forall_mem_nil _

/-- `table.load words` is in lower case if `table` is. -/
theorem InLowerCase.load (h : table.InLowerCase) (words : List Text) : (table.load words).InLowerCase := by
  intro word hword
  rcases List.mem_append.mp hword with hword | hword
  · exact h word hword
  · obtain ⟨loaded, -, rfl⟩ := List.mem_map.mp hword
    exact Text.lower_lower loaded

/-! ### The search of the table -/

theorem nodup_eraseDups {α : Type} [BEq α] [LawfulBEq α] (l : List α) : l.eraseDups.Nodup := by
  cases l with
  | nil => exact List.nodup_nil
  | cons a l =>
    rw [List.eraseDups_cons, List.nodup_cons]
    refine ⟨fun hmem => ?_, nodup_eraseDups (l.filter fun b => !b == a)⟩
    have hother := (List.mem_filter.mp (List.mem_eraseDups.mp hmem)).2
    simp at hother
termination_by l.length
decreasing_by exact Nat.lt_succ_of_le (List.length_filter_le _ l)

theorem near_sublist (table : WordTable) (text : Text) : (table.near text).Sublist table.spellings := by
  unfold near
  split
  · exact List.filter_sublist
  · exact List.nil_sublist _

theorem far_sublist (table : WordTable) (text : Text) : (table.far text).Sublist table.spellings := by
  unfold far
  split
  · exact List.filter_sublist
  · exact List.nil_sublist _

/-- `table.candidates reach word` are `word` alone, or different words of `table`. -/
theorem candidates_cases (table : WordTable) (reach : Reach) (word : Text) :
    table.candidates reach word = [word] ∨ (table.candidates reach word).Sublist table.spellings := by
  unfold candidates
  dsimp only
  split
  · exact Or.inl rfl
  · refine Or.inr ?_
    split
    · exact List.nil_sublist _
    · exact table.far_sublist _
    · exact table.near_sublist _

theorem nodup_candidates (table : WordTable) (reach : Reach) (word : Text) :
    (table.candidates reach word).Nodup := by
  rcases table.candidates_cases reach word with hsame | hsublist
  · rw [hsame]
    exact List.nodup_singleton word
  · have hspellings : table.spellings.Nodup := (nodup_eraseDups table.words).filter _
    exact hsublist.nodup hspellings

theorem eq_or_mem_words_of_mem_candidates {reach : Reach} {text : Text}
    (h : text ∈ table.candidates reach word) : text = word ∨ text ∈ table.words := by
  rcases table.candidates_cases reach word with hsame | hsublist
  · rw [hsame] at h
    exact Or.inl (List.mem_singleton.mp h)
  · exact Or.inr (List.mem_eraseDups.mp (List.mem_filter.mp (hsublist.subset h)).1)

/-- `table.search reach word` is what the search of `table` finds for `word`; a search that finds
nothing has no answer. -/
def search (table : WordTable) (reach : Reach) (word : Text) : Option (Finset Text) :=
  match table.candidates reach word with
  | [] => none
  | candidates => some candidates.toFinset

theorem enumerates_candidates (table : WordTable) (reach : Reach) (word : Text) :
    Enumerates (table.search reach word) (table.candidates reach word) := by
  refine ⟨table.nodup_candidates reach word, fun text => ?_⟩
  unfold search
  split
  · rename_i hnone
    simp [hnone]
  · simp

theorem eq_or_mem_words_of_mem_search {reach : Reach} {found : Finset Text}
    (h : found ∈ table.search reach word) {text : Text} (htext : text ∈ found) :
    text = word ∨ text ∈ table.words :=
  eq_or_mem_words_of_mem_candidates
    (((table.enumerates_candidates reach word).mem_iff text).mpr ⟨found, h, htext⟩)

end WordTable

/-! ### Suggestions -/

theorem mem_of_mem_capped {α : Type} {limit? : Option Int} {l : List α} {a : α} (h : a ∈ capped limit? l) :
    a ∈ l := by
  unfold capped at h
  split at h
  · exact h
  · split at h
    · exact List.mem_of_mem_take h
    · exact List.mem_of_mem_take h

namespace RankedDictionary

variable {dictionary : RankedDictionary} {word : Text}

/-- `dictionary.suggest word` is the ranking of what its own search finds, up to its limit. -/
theorem suggest_eq_capped {ranking : List Text}
    (h : dictionary.table.IsRanking word (dictionary.table.search dictionary.reach word) ranking) :
    dictionary.suggest word = capped dictionary.maxSuggestions ranking := by
  have hcandidates := dictionary.table.enumerates_candidates dictionary.reach word
  rw [suggest, WordTable.rank_eq_capped, (WordTable.isRanking_rank word hcandidates).unique h]

/-- **Suggestions are a well-defined ranking.** Let `search` find, for each word, the word itself or
words of the table, and let the table be in lower case.  Then there is one `ranking` of what is found
for `word`: without duplicates, in strict order, with all that is found but case variants of `word`,
and with accepted words only.  `rank none word candidates` is `ranking` for every order `candidates` of
what is found, and `rank (some limit) word candidates` are its first `limit` texts.  If `search` is
that of the table, `dictionary.suggest word` is `ranking` up to the limit of `dictionary`. -/
theorem suggestions_ranked (hlower : dictionary.table.InLowerCase)
    {search : Text → Option (Finset Text)}
    (hsearch : ∀ word, ∀ found ∈ search word, ∀ text ∈ found,
      text = word ∨ text ∈ dictionary.table.words) (word : Text) :
    ∃ ranking : List Text,
      ranking.Nodup ∧ dictionary.table.IsRanking word (search word) ranking
        ∧ (∀ text ∈ ranking, dictionary.check text)
        ∧ (∀ candidates, Enumerates (search word) candidates →
          dictionary.table.rank none word candidates = ranking
            ∧ ∀ limit : Nat, dictionary.table.rank (some limit) word candidates
              = ranking.take (min limit ranking.length))
        ∧ (search word = dictionary.table.search dictionary.reach word →
          dictionary.suggest word = capped dictionary.maxSuggestions ranking) := by
  obtain ⟨candidates, henumerates⟩ := exists_enumerates (search word)
  have hranking := dictionary.table.isRanking_rank word henumerates
  refine ⟨_, hranking.nodup, hranking, fun text htext => ?_, fun candidates' h => ?_, fun hown => ?_⟩
  · exact hlower.contains_of_mem (hranking.mem_words (hsearch word) htext)
  · have hsame := (WordTable.isRanking_rank word h).unique hranking
    exact ⟨hsame, fun limit => hsame ▸ WordTable.rank_some limit candidates'⟩
  · exact suggest_eq_capped (hown ▸ hranking)

/-- Two words near to another, the one that was loaded twice first. -/
theorem suggestions_ranked_frequent :
    let dictionary : RankedDictionary :=
      { table := (∅ : WordTable).load ["set".toList, "Test".toList, "test".toList]
        reach := .two, locale := none, maxSuggestions := some 1 }
    let search := dictionary.table.search dictionary.reach
    dictionary.table.InLowerCase
      ∧ (∀ word, ∀ found ∈ search word, ∀ text ∈ found, text = word ∨ text ∈ dictionary.table.words)
      ∧ dictionary.table.IsRanking "tset".toList (search "tset".toList) ["test".toList, "set".toList]
      ∧ (∀ text ∈ ["test".toList, "set".toList], dictionary.check text)
      ∧ dictionary.suggest "tset".toList = ["test".toList] := by
  intro dictionary search
  have hlower : dictionary.table.InLowerCase := WordTable.inLowerCase_empty.load _
  have hsearch : ∀ word, ∀ found ∈ search word, ∀ text ∈ found,
      text = word ∨ text ∈ dictionary.table.words :=
    fun word found hfound text => WordTable.eq_or_mem_words_of_mem_search hfound
  obtain ⟨ranking, -, hranking, haccepted, hlist, hown⟩ :=
    suggestions_ranked hlower hsearch "tset".toList
  obtain ⟨hlist, -⟩ := hlist _ (dictionary.table.enumerates_candidates dictionary.reach "tset".toList)
  have hwords : ["test".toList, "set".toList] = ranking := Eq.trans (by decide +kernel) hlist
  rw [hwords]
  exact ⟨hlower, hsearch, hranking, haccepted, (hown rfl).trans (hwords ▸ by decide +kernel)⟩

/-! ### Dictionaries that were loaded -/

/-- A `text` that a dictionary in lower case suggests for `word` is accepted by it, and is no case
variant of `word`. -/
theorem check_of_mem_suggest (h : dictionary.table.InLowerCase) {text : Text}
    (htext : text ∈ dictionary.suggest word) :
    dictionary.check text ∧ Text.lower text ≠ Text.lower word := by
  have hranking := dictionary.table.isRanking_rank word
    (dictionary.table.enumerates_candidates dictionary.reach word)
  rw [suggest_eq_capped hranking] at htext
  have hmem := mem_of_mem_capped htext
  refine ⟨h.contains_of_mem (hranking.mem_words (fun found hfound text => ?_) hmem), ?_⟩
  · exact WordTable.eq_or_mem_words_of_mem_search hfound
  · exact ((hranking.mem_iff text).mp hmem).2

theorem exists_of_bind_eq_ok {ε α β : Type} {x : Except ε α} {f : α → Except ε β} {b : β}
    (h : x >>= f = .ok b) : ∃ a, x = .ok a ∧ f a = .ok b := by
  cases x with
  | error failure => cases h
  | ok a => exact ⟨a, rfl, h⟩

/-- A dictionary that `host.loadRanked` gives is in lower case. -/
theorem inLowerCase_of_loadRanked {host : Host} {source : DictionarySource} {reach : Reach}
    {maxSuggestions : Option Int}
    (h : host.loadRanked source reach maxSuggestions = .ok dictionary) :
    dictionary.table.InLowerCase := by
  cases source with
  | files affix words locale =>
    obtain ⟨affixText, -, h⟩ := exists_of_bind_eq_ok h
    obtain ⟨content, -, h⟩ := exists_of_bind_eq_ok h
    split at h
    · cases h
    · obtain ⟨-, -, h⟩ := exists_of_bind_eq_ok h
      obtain rfl := Except.ok.inj h
      exact WordTable.inLowerCase_empty.load _
  | language language =>
    obtain ⟨-, -, h⟩ := exists_of_bind_eq_ok h
    split at h
    · split at h
      · cases h
      · split at h
        · obtain rfl := Except.ok.inj h
          exact WordTable.inLowerCase_empty
        · cases h
    · obtain rfl := Except.ok.inj h
      exact WordTable.inLowerCase_empty

/-- A dictionary in lower case stays so when words are added. -/
theorem inLowerCase_foldl_addWords (h : dictionary.table.InLowerCase) (additions : List (List Text)) :
    (additions.foldl addWords dictionary).table.InLowerCase := by
  induction additions generalizing dictionary with
  | nil => exact h
  | cons words additions ih =>
    have hadded : (dictionary.addWords words).table.InLowerCase := h.load words
    exact ih hadded

/-- **What a loaded dictionary suggests it accepts**: whatever it was loaded from and whatever
`additions` were made to it, it accepts each `text` that it suggests for `word`, and `text` is no case
variant of `word`. -/
theorem check_of_mem_suggest_of_loadRanked {host : Host} {source : DictionarySource} {reach : Reach}
    {maxSuggestions : Option Int}
    (h : host.loadRanked source reach maxSuggestions = .ok dictionary) (additions : List (List Text))
    {text : Text} (htext : text ∈ (additions.foldl addWords dictionary).suggest word) :
    (additions.foldl addWords dictionary).check text ∧ Text.lower text ≠ Text.lower word :=
  check_of_mem_suggest (inLowerCase_foldl_addWords (inLowerCase_of_loadRanked h) additions) htext

end RankedDictionary

end CommentSpell
