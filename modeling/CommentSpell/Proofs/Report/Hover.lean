import CommentSpell.Report.Hover
import CommentSpell.Proofs.Text.Basic
import Mathlib.Data.List.Infix
import Mathlib.Data.List.TakeWhile

/-!
# Reading messages back

A message joins its suggestions by a comma and a space, and reading it cuts at the leftmost comma and
space first.  If no suggestion holds a comma and a space, each cut is at a place where two suggestions
were joined, whatever else they begin or end with (`commaItems_join`).  So suggestions that are not
blank either are read back as they were, and no others are, since what is read from a message is never
blank and never holds the separator (`suggestions_message_iff`).
-/

namespace CommentSpell

namespace Text

/-- `commaItems (c :: rest)` puts `c` in front of the first item of `rest`, if no separator begins at
`c`. -/
theorem commaItems_cons {c : Char} {rest : Text} (h : ¬ [',', ' '] <+: c :: rest) :
    commaItems (c :: rest) = (commaItems rest).modifyHead (c :: ·) := by
  rw [commaItems]
  rintro following rfl rfl
  exact h ⟨following, rfl⟩

/-- `commaItems item = [item]` if `item` holds no separator. -/
theorem commaItems_of_not_infix {item : Text} (h : ¬ [',', ' '] <:+: item) :
    commaItems item = [item] := by
  induction item with
  | nil => rfl
  | cons c item ih =>
    have hno : ¬ [',', ' '] <+: c :: item := fun hprefix => h hprefix.isInfix
    rw [commaItems_cons hno, ih fun hpart => h (List.infix_cons hpart)]
    rfl

/-- `commaItems (item ++ [',', ' '] ++ rest) = item :: commaItems rest` if `item` holds no separator. -/
theorem commaItems_append_separator {item : Text} (h : ¬ [',', ' '] <:+: item) (rest : Text) :
    commaItems (item ++ [',', ' '] ++ rest) = item :: commaItems rest := by
  induction item with
  | nil => rfl
  | cons c item ih =>
    have hno : ¬ [',', ' '] <+: c :: (item ++ [',', ' '] ++ rest) := by
      intro hprefix
      obtain ⟨rfl, hspace⟩ := List.cons_prefix_cons.mp hprefix
      cases item with
      | nil => exact absurd (List.cons_prefix_cons.mp hspace).1 (by decide)
      | cons d item =>
        obtain ⟨rfl, -⟩ := List.cons_prefix_cons.mp hspace
        exact h ⟨[], item, rfl⟩
    rw [List.cons_append, List.cons_append, commaItems_cons hno,
      ih fun hpart => h (List.infix_cons hpart)]
    rfl

/-- `commaItems (join [',', ' '] items) = items` if there are any `items` and none of them holds a
separator. -/
theorem commaItems_join {items : List Text} (hne : items ≠ [])
    (h : ∀ item ∈ items, ¬ [',', ' '] <:+: item) : commaItems (join [',', ' '] items) = items := by
  induction items with
  | nil => exact absurd rfl hne
  | cons item items ih =>
    obtain ⟨hitem, hitems⟩ := List.forall_mem_cons.mp h
    cases items with
    | nil => exact commaItems_of_not_infix hitem
    | cons next items =>
      rw [join, commaItems_append_separator hitem, ih (List.cons_ne_nil next items) hitems]

theorem exists_commaItems_eq_cons (text : Text) :
    ∃ first later, commaItems text = first :: later ∧ first <+: text := by
  fun_induction commaItems text with
  | case1 => exact ⟨[], [], rfl, List.nil_prefix⟩
  | case2 rest ih => exact ⟨[], _, rfl, List.nil_prefix⟩
  | case3 c rest hno ih =>
    obtain ⟨first, later, hitems, hbegins⟩ := ih
    exact ⟨c :: first, later, by rw [hitems, List.modifyHead_cons],
      List.cons_prefix_cons.mpr ⟨rfl, hbegins⟩⟩

/-- No item of `commaItems text` holds a separator. -/
theorem not_infix_of_mem_commaItems {text item : Text} (h : item ∈ commaItems text) :
    ¬ [',', ' '] <:+: item := by
  fun_induction commaItems text generalizing item with
  | case1 =>
    rw [List.mem_singleton.mp h]
    decide
  | case2 rest ih =>
    rcases List.mem_cons.mp h with rfl | h
    · decide
    · exact ih h
  | case3 c rest hno ih =>
    obtain ⟨first, later, hitems, hbegins⟩ := exists_commaItems_eq_cons rest
    rw [hitems] at ih h
    rcases List.mem_cons.mp h with rfl | h
    · rw [List.infix_cons_iff, not_or]
      refine ⟨fun hseparator => ?_, ih List.mem_cons_self⟩
      -- the first item begins the rest, so a separator in front of it would be one of the text
      obtain ⟨rfl, hspace⟩ := List.cons_prefix_cons.mp hseparator
      obtain ⟨following, rfl⟩ := hspace.trans hbegins
      exact hno following rfl rfl
    · exact ih (List.mem_cons_of_mem first h)

/-- `trim text = []` iff all characters of `text` are white space. -/
theorem trim_eq_nil_iff {text : Text} : trim text = [] ↔ ∀ c ∈ text, isBlank c := by
  unfold trim trimBy
  rw [List.reverse_eq_nil_iff, List.dropWhile_eq_nil_iff]
  constructor
  · intro h c hc
    rw [← List.takeWhile_append_dropWhile (p := isBlank) (l := text), List.mem_append] at hc
    rcases hc with hc | hc
    · exact List.mem_takeWhile_imp hc
    · exact h c (List.mem_reverse.mpr hc)
  · intro h c hc
    exact h c ((List.dropWhile_sublist isBlank).subset (List.mem_reverse.mp hc))

end Text

namespace Hover

theorem isSpelling_message (suggested : List Text) : isSpelling (message suggested) := by
  rw [isSpelling, Bool.or_eq_true, Text.startsWith_iff, Text.startsWith_iff, message]
  split
  · exact .inr (List.prefix_refl noSuggestions)
  · exact .inl (List.prefix_append heading _)

/-- `suggestions (message suggested)` are the items of the joined list `suggested` that are not blank. -/
theorem suggestions_message_eq_filter {suggested : List Text} (hne : suggested ≠ []) :
    suggestions (message suggested)
      = (Text.commaItems (Text.join [',', ' '] suggested)).filter
          fun item => !(Text.trim item).isEmpty := by
  have hafter : Text.after? heading (heading ++ Text.join [',', ' '] suggested)
      = some (Text.join [',', ' '] suggested) := Text.after?_eq_some_iff.mpr rfl
  rw [message, if_neg (by rwa [List.isEmpty_iff]), suggestions, hafter]

/-- `suggestions (message suggested) = suggested` if none of `suggested` is blank or holds a
separator. -/
theorem suggestions_message {suggested : List Text}
    (h : ∀ item ∈ suggested, Text.trim item ≠ [] ∧ ¬ [',', ' '] <:+: item) :
    suggestions (message suggested) = suggested := by
  by_cases hne : suggested = []
  · subst hne
    rfl
  · rw [suggestions_message_eq_filter hne, Text.commaItems_join hne fun item hmem => (h item hmem).2,
      List.filter_eq_self]
    intro item hmem
    rw [Bool.not_eq_true', List.isEmpty_eq_false_iff]
    exact (h item hmem).1

/-- An item of `suggestions message` is not blank and holds no separator. -/
theorem trim_ne_nil_and_not_infix_of_mem_suggestions {message item : Text}
    (h : item ∈ suggestions message) : Text.trim item ≠ [] ∧ ¬ [',', ' '] <:+: item := by
  unfold suggestions at h
  split at h
  · obtain ⟨hitem, hblank⟩ := List.mem_filter.mp h
    rw [Bool.not_eq_true', List.isEmpty_eq_false_iff] at hblank
    exact ⟨hblank, Text.not_infix_of_mem_commaItems hitem⟩
  · cases h

/-- `suggestions (message suggested) = suggested` iff none of `suggested` is blank or holds a
separator. -/
theorem suggestions_message_iff {suggested : List Text} :
    suggestions (message suggested) = suggested
      ↔ ∀ item ∈ suggested, Text.trim item ≠ [] ∧ ¬ [',', ' '] <:+: item := by
  refine ⟨fun h item hmem => ?_, suggestions_message⟩
  rw [← h] at hmem
  exact trim_ne_nil_and_not_infix_of_mem_suggestions hmem

end Hover

end CommentSpell
