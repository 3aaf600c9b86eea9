import CommentSpell.Proofs.Source.Outline

/-!
# Writing a word inside a comment

A word without delimiters of comments is written in place of a part of one comment, behind its opener
and, in a block comment, before its closer.  Whatever stood there, the comment ends where its end has
moved to: the word closes nothing, and a line comment has no other end than its line.  The code
before the comment opens no new one either, as the word adds no closer.  So all other comments stay,
and the code stays (`strip_splice`).
-/

namespace CommentSpell.Comment

variable {word : Text}

/-! ### Closers around a word -/

/-- If a `*/` begins at `c`, just before `front ++ word ++ back`, then it begins there with `old` in
place of `word`, which has no delimiters. -/
theorem closer_prefix_of_splice (hne : word ≠ []) (hword : ∀ c ∈ word, isDelimiter c = false)
    {c : Char} {front old back : Text} (h : ['*', '/'] <+: c :: (front ++ word ++ back)) :
    ['*', '/'] <+: c :: (front ++ old ++ back) := by
  obtain ⟨rfl, hslash⟩ := List.cons_prefix_cons.mp h
  cases front with
  | nil =>
    obtain ⟨d, word, rfl⟩ := List.exists_cons_of_ne_nil hne
    have hd : '/' = d := (List.cons_prefix_cons.mp hslash).1
    have hdelimiter := hword d List.mem_cons_self
    rw [← hd] at hdelimiter
    cases hdelimiter
  | cons d front =>
    have hd : '/' = d := (List.cons_prefix_cons.mp hslash).1
    exact List.cons_prefix_cons.mpr ⟨rfl, List.cons_prefix_cons.mpr ⟨hd, List.nil_prefix⟩⟩

/-- The nearest `*/` of `word ++ back` is that of `back`, moved by `word.length`, if `word` has no
delimiters. -/
theorem closerEnd?_word_append (hword : ∀ c ∈ word, isDelimiter c = false) (back : Text) :
    closerEnd? (word ++ back) = (closerEnd? back).map (· + word.length) := by
  induction word with
  | nil => simp
  | cons c word ih =>
    obtain ⟨hc, hrest⟩ := List.forall_mem_cons.mp hword
    have hno : ¬ ['*', '/'] <+: c :: (word ++ back) := by
      intro hprefix
      rw [← (List.cons_prefix_cons.mp hprefix).1] at hc
      cases hc
    rw [List.cons_append, closerEnd?_cons, if_neg hno, ih hrest, Option.map_map]
    rfl

/-- If `old ++ back` has no `*/`, neither has `back`. -/
theorem closerEnd?_eq_none_of_append {old back : Text} (h : closerEnd? (old ++ back) = none) :
    closerEnd? back = none := by
  induction old with
  | nil => exact h
  | cons c old ih =>
    rw [List.cons_append, closerEnd?_cons] at h
    split at h
    · cases h
    · exact ih (Option.map_eq_none_iff.mp h)

/-- If the nearest `*/` of `old ++ back` ends it, the nearest one of `back` ends `back`, which has it
whole. -/
theorem closerEnd?_of_append {old back : Text} (hback : 2 ≤ back.length)
    (h : closerEnd? (old ++ back) = some (old ++ back).length) :
    closerEnd? back = some back.length := by
  induction old with
  | nil => exact h
  | cons c old ih =>
    rw [List.cons_append, closerEnd?_cons] at h
    split at h
    · rw [Option.some.injEq, List.length_cons, List.length_append] at h
      omega
    · obtain ⟨n, hn, hlength⟩ := Option.map_eq_some_iff.mp h
      rw [List.length_cons, Nat.add_right_cancel_iff] at hlength
      exact ih (hlength ▸ hn)

/-- `word` makes no `*/`: if `front ++ old ++ back` has none, neither has `front ++ word ++ back`. -/
theorem closerEnd?_splice_eq_none (hne : word ≠ []) (hword : ∀ c ∈ word, isDelimiter c = false)
    {front old back : Text} (h : closerEnd? (front ++ old ++ back) = none) :
    closerEnd? (front ++ word ++ back) = none := by
  induction front with
  | nil =>
    rw [List.nil_append, closerEnd?_word_append hword]
    rw [List.nil_append] at h
    rw [closerEnd?_eq_none_of_append h]
    rfl
  | cons c front ih =>
    rw [List.cons_append, List.cons_append, closerEnd?_cons] at h ⊢
    split at h
    · cases h
    · rename_i hno
      rw [if_neg fun hprefix => hno (closer_prefix_of_splice hne hword hprefix),
        ih (Option.map_eq_none_iff.mp h)]
      rfl

/-- If the nearest `*/` ends `front ++ old ++ back` and lies in `back`, then it ends
`front ++ word ++ back`. -/
theorem closerEnd?_splice (hne : word ≠ []) (hword : ∀ c ∈ word, isDelimiter c = false)
    {front old back : Text} (hback : 2 ≤ back.length)
    (h : closerEnd? (front ++ old ++ back) = some (front ++ old ++ back).length) :
    closerEnd? (front ++ word ++ back) = some (front ++ word ++ back).length := by
  induction front with
  | nil =>
    rw [List.nil_append] at h
    rw [List.nil_append, closerEnd?_word_append hword, closerEnd?_of_append hback h,
      Option.map_some, List.length_append, Nat.add_comm]
  | cons c front ih =>
    rw [List.cons_append, List.cons_append, closerEnd?_cons] at h ⊢
    split at h
    · -- the closer is not at the start, as it stands in what is kept at the end
      rw [Option.some.injEq, List.length_cons, List.length_append] at h
      omega
    · rename_i hno
      obtain ⟨n, hn, hlength⟩ := Option.map_eq_some_iff.mp h
      rw [List.length_cons, Nat.add_right_cancel_iff] at hlength
      rw [if_neg fun hprefix => hno (closer_prefix_of_splice hne hword hprefix),
        ih (hlength ▸ hn), List.length_cons]
      rfl

/-! ### Comments around a word -/

/-- If no comment begins at `front ++ old ++ back`, none begins at `front ++ word ++ back`, where
`front` has two characters or more. -/
theorem length?_splice_eq_none (hne : word ≠ []) (hword : ∀ c ∈ word, isDelimiter c = false)
    {front old back : Text} (hfront : 2 ≤ front.length)
    (h : length? (front ++ old ++ back) = none) : length? (front ++ word ++ back) = none := by
  obtain ⟨c, d, front, rfl⟩ : ∃ c d front', front = c :: d :: front' := by
    match front, hfront with
    | c :: d :: front, _ => exact ⟨c, d, front, rfl⟩
  by_cases hopener : c = '/' ∧ (d = '/' ∨ d = '*')
  · rcases hopener with ⟨rfl, rfl | rfl⟩
    · cases h
    · have hclosed := closerEnd?_splice_eq_none hne hword (Option.map_eq_none_iff.mp h)
      exact Option.map_eq_none_iff.mpr hclosed
  · exact length?_eq_none_of_not_opener hopener _

/-- A comment `text` begins with `//` or with `/*`. -/
theorem exists_eq_opener {text rest : Text} (h : length? (text ++ rest) = some text.length) :
    (∃ body, text = '/' :: '/' :: body) ∨ ∃ body, text = '/' :: '*' :: body := by
  have htwo : 0 + 2 ≤ text.length := by
    rw [Nat.zero_add]
    exact two_le_length? h
  rcases length?_eq_some_iff.mp h with hline | hblock
  · obtain ⟨body, hbody⟩ := (Text.readsAt_append_iff htwo).mp hline.opens
    exact Or.inl ⟨body, hbody.symm⟩
  · obtain ⟨body, hbody⟩ := (Text.readsAt_append_iff htwo).mp hblock.opens
    exact Or.inr ⟨body, hbody.symm⟩

/-- Whether `text` is the comment at the start of `text ++ rest` depends on `rest` only by its first
character. -/
theorem length?_append_congr {text rest rest' : Text} (hhead : rest.head? = rest'.head?)
    (h : length? (text ++ rest) = some text.length) :
    length? (text ++ rest') = some text.length := by
  rcases exists_eq_opener h with ⟨body, rfl⟩ | ⟨body, rfl⟩
  · rw [length?_line_append_iff] at h ⊢
    rwa [← hhead]
  · rw [length?_block_append_iff] at h ⊢
    exact h

/-- `front ++ old ++ back` and `front ++ new ++ back` begin with one character, if `front` is not
empty. -/
theorem head?_splice {front old new back : Text} (hfront : front ≠ []) :
    (front ++ old ++ back).head? = (front ++ new ++ back).head? := by
  obtain ⟨c, front, rfl⟩ := List.exists_cons_of_ne_nil hfront
  rfl

/-- If `front ++ old ++ back` is a comment, then `front ++ word ++ back` is one, where `front` has the
opener and, in a block comment, `back` the closer. -/
theorem length?_splice (hne : word ≠ []) (hword : ∀ c ∈ word, isDelimiter c = false)
    {front old back rest : Text} (hfront : 2 ≤ front.length)
    (hback : ¬ ['/', '/'] <+: front → 2 ≤ back.length)
    (h : length? (front ++ old ++ back ++ rest) = some (front ++ old ++ back).length) :
    length? (front ++ word ++ back ++ rest) = some (front ++ word ++ back).length := by
  obtain ⟨c, d, front, rfl⟩ : ∃ c d front', front = c :: d :: front' := by
    match front, hfront with
    | c :: d :: front, _ => exact ⟨c, d, front, rfl⟩
  rcases exists_eq_opener h with ⟨body, hbody⟩ | ⟨body, hbody⟩
  · obtain ⟨rfl, htail⟩ := List.cons.inj hbody
    obtain ⟨rfl, rfl⟩ := List.cons.inj htail
    obtain ⟨hline, hrest⟩ := length?_line_append_iff.mp h
    refine length?_line_append_iff.mpr ⟨fun c hc => ?_, hrest⟩
    -- neither what is kept nor the word has a line break
    rcases List.mem_append.mp hc with hc | hc
    · rcases List.mem_append.mp hc with hc | hc
      · exact hline c (List.mem_append_left _ (List.mem_append_left _ hc))
      · rw [Bool.eq_false_iff]
        intro hbreak
        have hdelimiter := hword c hc
        rw [isDelimiter_of_isLineBreak hbreak] at hdelimiter
        cases hdelimiter
    · exact hline c (List.mem_append_right _ hc)
  · obtain ⟨rfl, htail⟩ := List.cons.inj hbody
    obtain ⟨rfl, rfl⟩ := List.cons.inj htail
    have hclosed := length?_block_append_iff.mp h
    refine length?_block_append_iff.mpr (closerEnd?_splice hne hword (hback ?_) hclosed)
    intro hprefix
    have hstar := (List.cons_prefix_cons.mp (List.cons_prefix_cons.mp hprefix).2).1
    cases hstar

/-! ### Texts around a word -/

theorem strip_cons {c : Char} {rest : Text} (h : length? (c :: rest) = none) :
    strip (c :: rest) = c :: strip rest := by
  rw [strip, substitute, scan_cons h]
  rfl

theorem strip_append {text rest : Text} (h : length? (text ++ rest) = some text.length) :
    strip (text ++ rest) = strip rest := by
  rw [strip, substitute, scan_append h]
  rfl

/-- If `a ++ b = c ++ d` and `a` is not longer than `c`, then `c = a ++ kept` and `b = kept ++ d`. -/
theorem exists_eq_append_of_append_eq {a b c d : Text} (h : a ++ b = c ++ d)
    (hle : a.length ≤ c.length) : ∃ kept, c = a ++ kept ∧ b = kept ++ d := by
  have hprefix : a <+: c :=
    List.prefix_of_prefix_length_le (h ▸ List.prefix_append a b) (List.prefix_append c d) hle
  obtain ⟨kept, rfl⟩ := hprefix
  rw [List.append_assoc] at h
  exact ⟨kept, rfl, List.append_cancel_left h⟩

/-- A character `c` of the code stays in the code when `word` replaces `old` behind a `front` that is
not empty. -/
theorem strip_splice_code (hne : word ≠ []) (hword : ∀ c ∈ word, isDelimiter c = false) {c : Char}
    {front old back : Text} (hfront : front ≠ [])
    (hnone : length? (c :: (front ++ old ++ back)) = none) :
    strip (c :: (front ++ word ++ back)) = c :: strip (front ++ word ++ back) := by
  have htwo : 2 ≤ (c :: front).length := by
    have := List.length_pos_iff.mpr hfront
    rw [List.length_cons]
    omega
  exact strip_cons (length?_splice_eq_none hne hword htwo hnone)

/-- A comment `text` stays one when `word` replaces `old` behind a `front` that is not empty. -/
theorem strip_splice_behind {text front old back : Text} (hfront : front ≠ [])
    (hlength : length? (text ++ (front ++ old ++ back)) = some text.length) (word : Text) :
    strip (text ++ (front ++ word ++ back)) = strip (front ++ word ++ back) :=
  strip_append (length?_append_congr (head?_splice hfront) hlength)

/-- A comment `front ++ old ++ kept` at the start of a text is dropped whole when `word` replaces
`old` inside it. -/
theorem strip_splice_within (hne : word ≠ []) (hword : ∀ c ∈ word, isDelimiter c = false)
    {front old kept rest : Text} (hfront : 2 ≤ front.length)
    (hclose : ¬ ['/', '/'] <+: front ++ old ++ kept → 2 ≤ kept.length)
    (hlength : length? (front ++ old ++ kept ++ rest) = some (front ++ old ++ kept).length) :
    strip (front ++ word ++ (kept ++ rest)) = strip rest := by
  have hback : ¬ ['/', '/'] <+: front → 2 ≤ kept.length := by
    intro hblock
    apply hclose
    intro hline
    rw [List.append_assoc] at hline
    exact hblock (List.prefix_of_prefix_length_le hline (List.prefix_append _ _) hfront)
  rw [← List.append_assoc, strip_append (length?_splice hne hword hfront hback hlength)]

/-- The code of `source = front ++ old ++ back` stays when `word` replaces `old`, if `old` lies inside
a comment that is a hit of the scan from `base` on. -/
theorem strip_splice_of_mem_hitsFrom (hne : word ≠ [])
    (hword : ∀ c ∈ word, isDelimiter c = false) (source : Text) :
    ∀ (front old back : Text) (base : Nat) (hit : Hit Unit),
      source = front ++ old ++ back →
      hit ∈ Segment.hitsFrom base (scan site source) →
      hit.start + 2 ≤ base + front.length →
      base + (front ++ old).length ≤ hit.stop →
      (¬ ['/', '/'] <+: hit.text → base + (front ++ old).length + 2 ≤ hit.stop) →
      strip (front ++ word ++ back) = strip source := by
  induction source using comment_induction with
  | nil =>
    intro front old back base hit hsource hmem
    cases hmem
  | code c rest hnone ih =>
    intro front old back base hit hsource hmem hstart hstop hclose
    rw [scan_cons hnone, Segment.hitsFrom] at hmem
    have hbase := Segment.start_le_of_mem_hitsFrom hmem
    -- the comment begins behind the character, so the word is written behind the next two
    cases front with
    | nil =>
      rw [List.length_nil] at hstart
      omega
    | cons d front =>
      obtain ⟨rfl, hrest⟩ := List.cons.inj hsource
      have hrest : rest = front ++ old ++ back := hrest
      subst hrest
      rw [List.cons_append, List.length_cons] at hstop hclose
      rw [List.length_cons] at hstart
      have hfront : front ≠ [] := by
        refine List.ne_nil_of_length_pos ?_
        omega
      have htail : strip (front ++ word ++ back) = strip (front ++ old ++ back) := by
        refine ih front old back (base + 1) hit rfl hmem (by omega) (by omega) fun hblock => ?_
        have := hclose hblock
        omega
      rw [strip_cons hnone, ← htail]
      exact strip_splice_code hne hword hfront hnone
  | comment text rest hlength ih =>
    intro front old back base hit hsource hmem hstart hstop hclose
    rw [scan_append hlength, Segment.hitsFrom] at hmem
    rw [strip_append hlength]
    rcases List.mem_cons.mp hmem with rfl | hmem
    · -- the word is written in this comment
      rw [Hit.stop] at hstop hclose
      dsimp only at hstart hstop hclose
      obtain ⟨kept, rfl, rfl⟩ := exists_eq_append_of_append_eq hsource.symm (by omega)
      have hlengths : (front ++ old ++ kept).length = (front ++ old).length + kept.length :=
        List.length_append
      refine strip_splice_within hne hword (by omega) (fun hblock => ?_) hlength
      have := hclose hblock
      omega
    · -- the word is written in a later comment
      have hbase := Segment.start_le_of_mem_hitsFrom hmem
      rw [List.append_assoc] at hsource
      obtain ⟨front, rfl, hrest⟩ := exists_eq_append_of_append_eq hsource (by omega)
      rw [← List.append_assoc] at hrest
      subst hrest
      rw [List.append_assoc, List.length_append] at hstop hclose
      rw [List.length_append] at hstart
      have hfront : front ≠ [] := by
        refine List.ne_nil_of_length_pos ?_
        omega
      have htail : strip (front ++ word ++ back) = strip (front ++ old ++ back) := by
        refine ih front old back (base + text.length) hit rfl hmem (by omega) (by omega)
          fun hblock => ?_
        have := hclose hblock
        omega
      rw [List.append_assoc text, List.append_assoc text, strip_splice_behind hfront hlength, htail]

/-- **Code stays when a word is written inside a comment**: `strip` of `source` with `word` in place
of `span` is `strip source`, if `word` has no delimiters and `span` lies in `comment`, behind its
opener and, in a block comment, before its closer. -/
theorem strip_splice {source : Text} {comment : Comment} (hcomment : comment ∈ extract source)
    (hne : word ≠ []) (hword : ∀ c ∈ word, isDelimiter c = false) {span : Span}
    (hstart : comment.start + 2 ≤ span.start) (hstop : span.stop ≤ comment.stop)
    (hclose : comment.kind = .block → span.stop + 2 ≤ comment.stop) :
    strip (source.take span.start ++ word ++ source.drop span.stop) = strip source := by
  have hspan := span.start_le_stop
  have hend := (areCommentsOf_extract source).stop_le comment hcomment
  have hstop' : span.start + (span.stop - span.start) = span.stop := Nat.add_sub_cancel' hspan
  have hfront : source.take span.stop
      = source.take span.start ++ (source.drop span.start).take (span.stop - span.start) := by
    rw [← hstop', List.take_add, Nat.add_sub_cancel_left]
  have hsource : source = source.take span.start
      ++ (source.drop span.start).take (span.stop - span.start) ++ source.drop span.stop := by
    rw [← hfront, List.take_append_drop]
  have hhit : comment.toHit ∈ Segment.hitsFrom 0 (scan site source) := by
    rw [extract_eq_map] at hcomment
    obtain ⟨hit, hmem, rfl⟩ := List.mem_map.mp hcomment
    exact hmem
  have hlength : (source.take span.stop).length = span.stop := List.length_take_of_le (by omega)
  refine strip_splice_of_mem_hitsFrom hne hword source _ _ _ 0 comment.toHit hsource hhit ?_ ?_ ?_
  · rw [List.length_take_of_le (by omega), Nat.zero_add]
    exact hstart
  · rw [← hfront, hlength, Nat.zero_add]
    exact hstop
  · intro hblock
    rw [← hfront, hlength, Nat.zero_add]
    refine hclose ?_
    exact if_neg fun hline => hblock (Text.startsWith_iff.mp hline)

end CommentSpell.Comment
