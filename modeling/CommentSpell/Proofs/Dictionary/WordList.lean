import CommentSpell.Dictionary.WordList
import CommentSpell.Proofs.Text.Lines

/-!
# Word lists written and read

A `Listing` is a word list as it is written: rows that are entries, blank or notes, with white space around
them and any line end between two of them, and perhaps a count in front.  Reading its text gives the words
of its entries (`parse_text`), because each row is a line whose word is known (`Row.word?_text`) and an empty
line that is lost between two line ends had no word.

Whatever the content is that is read, the words are fit to be words of entries
(`isWord_of_word?_eq_some`).
-/

namespace CommentSpell.WordList

/-! ### Lists as they are written -/

/-- `IsSolid text` iff `text` has no white space. -/
def IsSolid (text : Text) : Prop :=
  ∀ c ∈ text, Text.isBlank c = false

instance (text : Text) : Decidable (IsSolid text) :=
  List.decidableBAll (Text.isBlank · = false) text

/-- `IsPadding text` iff `text` is white space that ends no line. -/
def IsPadding (text : Text) : Prop :=
  ∀ c ∈ text, Text.isBlank c ∧ Text.isLineSeparator c = false

instance (text : Text) : Decidable (IsPadding text) :=
  List.decidableBAll (fun c => Text.isBlank c ∧ Text.isLineSeparator c = false) text

/-- `IsWord text` iff `text` is fit for the word of an entry. -/
structure IsWord (text : Text) : Prop where
  ne_nil : text ≠ []
  isSolid : IsSolid text
  slash_not_mem : '/' ∉ text

instance (text : Text) : Decidable (IsWord text) :=
  decidable_of_iff (text ≠ [] ∧ IsSolid text ∧ '/' ∉ text)
    ⟨fun h => ⟨h.1, h.2.1, h.2.2⟩, fun h => ⟨h.1, h.2, h.3⟩⟩

/-- White space that ends no line. -/
abbrev Padding := { text : Text // IsPadding text }

/-- A text on one line. -/
abbrev Unbroken := { text : Text // text.IsUnbroken }

/-- What stands between two rows. -/
abbrev LineEnd := { text : Text // text.IsLineEnd }

/-- An entry: a `word`, perhaps with `flags`, perhaps with `remarks`. -/
structure Entry where
  word : Text
  flags? : Option { text : Text // IsSolid text } := none
  remarks? : Option Unbroken := none
  isWord : IsWord word := by decide
  head_ne_numberSign : word.head? ≠ some '#' := by decide

/-- `entry.flagText` are the flags of `entry`, behind a slash. -/
def Entry.flagText (entry : Entry) : Text :=
  match entry.flags? with
  | none => []
  | some flags => '/' :: flags

/-- `entry.remarkText` are the remarks of `entry`, behind a space. -/
def Entry.remarkText (entry : Entry) : Text :=
  match entry.remarks? with
  | none => []
  | some remarks => ' ' :: remarks

/-- A row of a list: an entry, nothing but white space, or a note behind a number sign. -/
inductive Row where
  | entry (before : Padding) (item : Entry) (after : Padding)
  | blank (padding : Padding)
  | note (before : Padding) (said : Unbroken)

namespace Row

/-- `row.text` is `row` as it is written. -/
def text : Row → Text
  | .entry before item after => before ++ (item.word ++ item.flagText ++ (item.remarkText ++ after))
  | .blank padding => padding
  | .note before said => before ++ ('#' :: said)

/-- `row.word?` is the word of the entry of `row`, if it has one. -/
def word? : Row → Option Text
  | .entry _ item _ => some item.word
  | .blank _ => none
  | .note _ _ => none

end Row

/-- The first line of a list: the number of entries, or a row that cannot be taken for a number. -/
inductive Opening where
  | count (before : Padding) (digits : { text : Text // Text.isDigits text }) (after : Padding)
  | row (first : Row) (not_isDigits : Text.isDigits (Text.trim first.text) = false)

namespace Opening

/-- `opening.text` is the first line as it is written. -/
def text : Opening → Text
  | .count before digits after => before ++ (digits ++ after)
  | .row first _ => first.text

/-- `opening.word?` is the word of the first line, if it is an entry. -/
def word? : Opening → Option Text
  | .count _ _ _ => none
  | .row first _ => first.word?

end Opening

/-- A word list as it is written: an `opening`, and further `rows` with the line ends before them.  If
a line end stands last, the last row is blank. -/
structure Listing where
  opening : Opening
  rows : List (LineEnd × Row)

/-- `rowsText rows` are `rows` as they are written, with the line ends before them. -/
def rowsText (rows : List (LineEnd × Row)) : Text :=
  rows.flatMap fun row => row.1 ++ row.2.text

namespace Listing

/-- `listing.text` is `listing` as it is written. -/
def text (listing : Listing) : Text :=
  listing.opening.text ++ rowsText listing.rows

/-- `listing.words` are the words of the entries of `listing`, in their order and with repetitions. -/
def words (listing : Listing) : List Text :=
  listing.opening.word?.toList ++ (listing.rows.map Prod.snd).filterMap Row.word?

end Listing

/-! ### The word of a line -/

/-- `word? line` is read off the first field of `line`. -/
theorem word?_eq (line : Text) :
    word? line =
      let field := (line.dropWhile Text.isBlank).takeWhile (!Text.isBlank ·)
      if field.head? = some '#' then none
      else if (field.takeWhile (· ≠ '/')).isEmpty then none else some (field.takeWhile (· ≠ '/')) := by
  obtain ⟨blanks, hdrop, hblanks⟩ := Text.exists_dropWhile_eq_trim_append line
  have hfield : (line.dropWhile Text.isBlank).takeWhile (!Text.isBlank ·)
      = (Text.trim line).takeWhile (!Text.isBlank ·) := by
    rw [hdrop]
    exact Text.takeWhile_append_of_forall_not (fun c hc => by simp [hblanks c hc]) _
  rw [hfield, word?]
  cases htrim : Text.trim line with
  | nil => rfl
  | cons c rest =>
    -- a trimmed text does not begin with white space
    have hc : Text.isBlank c = false := by
      have hnot := List.head?_dropWhile_not Text.isBlank line
      rw [hdrop, htrim] at hnot
      simpa using hnot
    simp [hc]

/-- The first field of `before ++ (field ++ after)` is `field`, if `before` is white space, and so is
the first character of `after`. -/
theorem takeWhile_dropWhile_eq {before field after : Text} (hbefore : ∀ c ∈ before, Text.isBlank c)
    (hfield : IsSolid field) (hne : field ≠ []) (hafter : ∀ c ∈ after.head?, Text.isBlank c) :
    ((before ++ (field ++ after)).dropWhile Text.isBlank).takeWhile (!Text.isBlank ·) = field := by
  have hhead : ∀ c ∈ (field ++ after).head?, Text.isBlank c = false := by
    intro c hc
    rw [List.head?_append_of_ne_nil _ hne] at hc
    exact hfield c (List.mem_of_mem_head? hc)
  rw [Text.dropWhile_append_eq_right hbefore hhead]
  exact Text.takeWhile_append_eq_left (fun c hc => by simp [hfield c hc])
    (fun c hc => by simp [hafter c hc])

theorem IsPadding.isBlank {text : Text} (h : IsPadding text) : ∀ c ∈ text, Text.isBlank c :=
  fun c hc => (h c hc).1

namespace Entry

variable (entry : Entry)

theorem isSolid_word_append_flagText : IsSolid (entry.word ++ entry.flagText) := by
  refine List.forall_mem_append.mpr ⟨entry.isWord.isSolid, ?_⟩
  unfold flagText
  split
  · exact List.forall_mem_nil _
  · rename_i flags _
    exact List.forall_mem_cons.mpr ⟨by decide, flags.2⟩

theorem takeWhile_word_append_flagText :
    (entry.word ++ entry.flagText).takeWhile (· ≠ '/') = entry.word := by
  refine Text.takeWhile_append_eq_left (fun c hc => decide_eq_true ?_) fun c hc => ?_
  · rintro rfl
    exact entry.isWord.slash_not_mem hc
  · unfold flagText at hc
    split at hc
    · cases hc
    · obtain rfl := Option.some.inj hc
      decide

theorem isBlank_of_mem_head?_remarkText {after : Padding} {c : Char}
    (hc : c ∈ (entry.remarkText ++ after).head?) : Text.isBlank c := by
  unfold remarkText at hc
  split at hc
  · exact after.2.isBlank c (List.mem_of_mem_head? hc)
  · obtain rfl := Option.some.inj hc
    decide

end Entry

/-- `word? row.text = row.word?`: each row is read as it was written. -/
theorem Row.word?_text (row : Row) : WordList.word? row.text = row.word? := by
  cases row with
  | entry before item after =>
    have hword := item.isWord.ne_nil
    have hne : item.word ++ item.flagText ≠ [] := fun h => hword (List.append_eq_nil_iff.mp h).1
    have hhead : (item.word ++ item.flagText).head? ≠ some '#' := by
      rw [List.head?_append_of_ne_nil _ hword]
      exact item.head_ne_numberSign
    rw [Row.text, word?_eq, takeWhile_dropWhile_eq before.2.isBlank item.isSolid_word_append_flagText hne
      fun c => item.isBlank_of_mem_head?_remarkText]
    dsimp only
    rw [if_neg hhead, item.takeWhile_word_append_flagText, if_neg (by simpa using hword), Row.word?]
  | blank padding =>
    have hnone : padding.1.dropWhile Text.isBlank = [] := List.dropWhile_eq_nil_iff.mpr padding.2.isBlank
    rw [Row.text, word?_eq, hnone]
    rfl
  | note before said =>
    have hsign : Text.isBlank '#' = false := by decide
    have hhead : ∀ c ∈ ('#' :: said.1).head?, Text.isBlank c = false := by
      rintro c ⟨⟩
      exact hsign
    rw [Row.text, word?_eq, Text.dropWhile_append_eq_right before.2.isBlank hhead]
    simp [hsign, Row.word?]

/-! ### Rows are lines -/

theorem IsPadding.isUnbroken {text : Text} (h : IsPadding text) : text.IsUnbroken :=
  fun c hc => (h c hc).2

theorem IsSolid.isUnbroken {text : Text} (h : IsSolid text) : text.IsUnbroken := by
  intro c hc
  by_contra hseparator
  have hblank := Text.isBlank_of_isLineSeparator (Bool.not_eq_false _ ▸ hseparator)
  rw [h c hc] at hblank
  cases hblank

theorem Entry.isUnbroken_remarkText (entry : Entry) : entry.remarkText.IsUnbroken := by
  unfold remarkText
  split
  · exact List.forall_mem_nil _
  · rename_i remarks _
    exact List.forall_mem_cons.mpr ⟨by decide, remarks.2⟩

/-- `row.text` has no line separator. -/
theorem Row.isUnbroken_text (row : Row) : row.text.IsUnbroken := by
  cases row with
  | entry before item after =>
    refine List.forall_mem_append.mpr ⟨before.2.isUnbroken, List.forall_mem_append.mpr ⟨?_, ?_⟩⟩
    · exact item.isSolid_word_append_flagText.isUnbroken
    · exact List.forall_mem_append.mpr ⟨item.isUnbroken_remarkText, after.2.isUnbroken⟩
  | blank padding => exact padding.2.isUnbroken
  | note before said =>
    exact List.forall_mem_append.mpr
      ⟨before.2.isUnbroken, List.forall_mem_cons.mpr ⟨by decide, said.2⟩⟩

/-- `line`, with a line end behind it, is read apart from `rest`. -/
theorem exists_lines_eq_cons {line : Text} (hline : line.IsUnbroken) (lineEnd : LineEnd)
    (rest : Text) :
    ∃ later, Text.lines (line ++ (lineEnd ++ rest)) = line :: later
      ∧ later.filterMap word? = (Text.lines rest).filterMap word? := by
  obtain ⟨later, hlines, hlater | hlater⟩ := Text.exists_lines_append hline lineEnd.2 rest
  · exact ⟨later, hlines, by rw [hlater]⟩
  · exact ⟨later, hlines, by rw [hlater]; rfl⟩

theorem rowsText_cons (lineEnd : LineEnd) (row : Row) (rows : List (LineEnd × Row)) :
    rowsText ((lineEnd, row) :: rows) = lineEnd ++ (row.text ++ rowsText rows) := by
  rw [rowsText, List.flatMap_cons, List.append_assoc]
  rfl

/-- `line` and `rows` behind it are cut into `line` and what is read as `rows`, unless there is
nothing at all. -/
theorem exists_lines_rowsText {line : Text} (hline : line.IsUnbroken)
    (rows : List (LineEnd × Row)) :
    ∃ later, later.filterMap word? = (rows.map Prod.snd).filterMap Row.word?
      ∧ (Text.lines (line ++ rowsText rows) = line :: later ∨ line = [] ∧ rows = []) := by
  -- behind the line end of a row the row itself is the line in front of those that follow
  induction rows generalizing line with
  | nil =>
    refine ⟨[], rfl, ?_⟩
    by_cases hempty : line = []
    · exact Or.inr ⟨hempty, rfl⟩
    · rw [rowsText, List.flatMap_nil, List.append_nil]
      exact Or.inl (Text.lines_eq_singleton hline hempty)
  | cons row rows ih =>
    obtain ⟨lineEnd, row⟩ := row
    obtain ⟨later, hlater, hrow⟩ := ih row.isUnbroken_text
    obtain ⟨following, hlines, hfollowing⟩ :=
      exists_lines_eq_cons hline lineEnd (row.text ++ rowsText rows)
    refine ⟨following, ?_, Or.inl (by rw [rowsText_cons, hlines])⟩
    rw [hfollowing, List.map_cons, List.filterMap_cons, ← row.word?_text, ← hlater]
    rcases hrow with hrow | ⟨hempty, rfl⟩
    · rw [hrow, List.filterMap_cons]
    · -- a line end at the very end opens no line, and the blank row behind it has no word
      rw [hempty]
      exact hlater.symm

/-! ### Reading -/

theorem parse_of_lines_eq_cons {content line : Text} {later : List Text}
    (h : Text.lines content = line :: later) :
    parse content
      = (if Text.isDigits (Text.trim line) then [] else (word? line).toList) ++ later.filterMap word? := by
  rw [parse, h, dropCount]
  split
  · rfl
  · rw [List.filterMap_cons]
    cases word? line <;> rfl

theorem isSolid_of_isDigits {text : Text} (h : Text.isDigits text) : IsSolid text := fun c hc =>
  Text.isBlank_eq_false_of_isDigit ((Text.isDigits_iff.mp h).2 c hc)

theorem Opening.isUnbroken_text (opening : Opening) : opening.text.IsUnbroken := by
  cases opening with
  | count before digits after =>
    refine List.forall_mem_append.mpr ⟨before.2.isUnbroken, List.forall_mem_append.mpr ⟨?_, ?_⟩⟩
    · exact (isSolid_of_isDigits digits.2).isUnbroken
    · exact after.2.isUnbroken
  | row first _ => exact first.isUnbroken_text

/-- Of `opening.text` the word is read, unless it is the number of entries. -/
theorem Opening.toList_word?_text (opening : Opening) :
    (if Text.isDigits (Text.trim opening.text) then [] else (WordList.word? opening.text).toList)
      = opening.word?.toList := by
  cases opening with
  | count before digits after =>
    have htrim : Text.trim (before ++ (digits ++ after)) = digits :=
      Text.trim_append before.2.isBlank after.2.isBlank (Text.isDigits_iff.mp digits.2).1
        (isSolid_of_isDigits digits.2)
    rw [Opening.text, htrim, if_pos digits.2]
    rfl
  | row first not_isDigits =>
    rw [Opening.text, not_isDigits, first.word?_text]
    rfl

/-- `parse listing.text = listing.words`. -/
theorem parse_text (listing : Listing) : parse listing.text = listing.words := by
  obtain ⟨later, hlater, hlines | ⟨hempty, hrows⟩⟩ :=
    exists_lines_rowsText listing.opening.isUnbroken_text listing.rows
  · rw [Listing.text, parse_of_lines_eq_cons hlines, listing.opening.toList_word?_text, hlater,
      Listing.words]
  · rw [Listing.text, Listing.words, ← listing.opening.toList_word?_text, hempty, hrows]
    rfl

/-- A `word` that `word? line` reads is fit for an entry. -/
theorem isWord_of_word?_eq_some {line word : Text} (h : word? line = some word) : IsWord word := by
  rw [word?_eq] at h
  dsimp only at h
  split at h
  · cases h
  split at h
  · cases h
  rename_i hne
  obtain rfl := Option.some.inj h
  refine ⟨fun hnil => hne (by rw [hnil]; rfl), fun c hc => ?_, fun hslash => ?_⟩
  · have hfield := List.mem_takeWhile_imp ((List.takeWhile_prefix _).subset hc)
    rwa [Bool.not_eq_true'] at hfield
  · have hplain := List.mem_takeWhile_imp hslash
    exact absurd rfl (of_decide_eq_true hplain)

/-- **Word lists parse back.** `parse listing.text = listing.words`: the words of the entries are read
in their order and with repetitions, whatever flags, remarks, white space, line ends, blank rows and
notes there are, with the number of entries in front or without it.  And every `word ∈ parse content`,
whatever `content` is, is not empty and has no white space and no slash. -/
theorem parse_reads_back :
    (∀ listing : Listing, parse listing.text = listing.words)
      ∧ ∀ content : Text, ∀ word ∈ parse content, IsWord word := by
  refine ⟨parse_text, fun content word hword => ?_⟩
  obtain ⟨line, -, hline⟩ := List.mem_filterMap.mp hword
  exact isWord_of_word?_eq_some hline

/-- A list with a count, an indented entry with flags and remarks, a note, an empty row that is lost
between a carriage return and a line feed, and an entry that is repeated without a line end behind it. -/
theorem parse_reads_back_numbered :
    let listing : Listing :=
      { opening := .count ⟨[], by decide⟩ ⟨['2'], by decide⟩ ⟨[' '], by decide⟩
        rows :=
          [(⟨['\r', '\n'], Or.inl rfl⟩,
              .entry ⟨['\t'], by decide⟩
                { word := "tea".toList
                  flags? := some ⟨"M/S".toList, by decide⟩
                  remarks? := some ⟨"po: noun".toList, by decide⟩ } ⟨[' '], by decide⟩),
            (⟨['\x0b'], Or.inr ⟨_, by decide, rfl⟩⟩, .note ⟨[' '], by decide⟩ ⟨"tea/".toList, by decide⟩),
            (⟨['\r'], Or.inr ⟨_, by decide, rfl⟩⟩, .blank ⟨[], by decide⟩),
            (⟨['\n'], Or.inr ⟨_, by decide, rfl⟩⟩,
              .entry ⟨[], by decide⟩ { word := "tea".toList } ⟨[], by decide⟩)] }
    listing.text = "2 \r\n\ttea/M/S po: noun \x0b #tea/\r\ntea".toList
      ∧ parse listing.text = ["tea".toList, "tea".toList]
      ∧ "tea".toList ∈ parse listing.text ∧ IsWord "tea".toList := by
  intro listing
  have hwords : parse listing.text = ["tea".toList, "tea".toList] :=
    (parse_reads_back.1 listing).trans (by decide)
  have hmem : "tea".toList ∈ parse listing.text := by
    rw [hwords]
    decide
  exact ⟨by decide, hwords, hmem, parse_reads_back.2 _ _ hmem⟩

end CommentSpell.WordList
