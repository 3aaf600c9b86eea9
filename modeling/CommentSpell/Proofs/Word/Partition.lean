import CommentSpell.Proofs.Word.Token

/-!
# The tokens partition the text

Cutting a text gives pieces that hold all its characters but the separators (`flatten_pieces`), and where
two texts meet the last piece of the one and the first piece of the other become one piece
(`exists_pieces_append`).  If a separator stands between them nothing is joined (`pieces_append_cons`).

What this says of tokens is `tokenize_partition`: the tokens one after the other are the characters of the
text other than commas, white space and periods; tokens end at separators and nowhere else.
-/

namespace CommentSpell

/-! ### Pieces -/

namespace Text

variable {p : Char → Bool}

/-- `pieces p text` are, one after the other, the characters of `text` without `p`. -/
theorem flatten_pieces (p : Char → Bool) (text : Text) :
    (pieces p text).flatten = text.filter (!p ·) := by
  induction text with
  | nil => rfl
  | cons c text ih =>
    rw [pieces]
    by_cases hc : p c
    · rw [if_pos hc, List.flatten_cons, List.nil_append, ih, List.filter_cons_of_neg (by simp [hc])]
    · obtain ⟨first, later, hpieces⟩ := exists_pieces_eq_cons p text
      rw [if_neg hc, List.filter_cons_of_pos (by simp [hc]), ← ih, hpieces, List.modifyHead_cons,
        List.flatten_cons, List.flatten_cons, List.cons_append]

/-- `pieces p (x ++ y)` are those of `x` and of `y`, with the last piece of `x` and the first one of
`y` joined. -/
theorem exists_pieces_append (p : Char → Bool) (x y : Text) :
    ∃ before last first after, pieces p x = before ++ [last] ∧ pieces p y = first :: after
      ∧ pieces p (x ++ y) = before ++ (last ++ first) :: after := by
  induction x with
  | nil =>
    obtain ⟨first, after, hpieces⟩ := exists_pieces_eq_cons p y
    exact ⟨[], [], first, after, rfl, hpieces, hpieces⟩
  | cons c x ih =>
    obtain ⟨before, last, first, after, hx, hy, happend⟩ := ih
    rw [List.cons_append, pieces, pieces, hx, happend]
    -- what is put in front of the first piece is put in front of `last` if nothing stands before it
    by_cases hc : p c
    · rw [if_pos hc, if_pos hc]
      exact ⟨[] :: before, last, first, after, rfl, hy, rfl⟩
    · rw [if_neg hc, if_neg hc]
      cases before with
      | nil => exact ⟨[], c :: last, first, after, rfl, hy, rfl⟩
      | cons piece before => exact ⟨(c :: piece) :: before, last, first, after, rfl, hy, rfl⟩

/-- `pieces p (x ++ c :: y) = pieces p x ++ pieces p y` if `c` is a separator. -/
theorem pieces_append_cons {c : Char} (hc : p c) (x y : Text) :
    pieces p (x ++ c :: y) = pieces p x ++ pieces p y := by
  obtain ⟨before, last, first, after, hx, hy, happend⟩ := exists_pieces_append p x (c :: y)
  rw [pieces, if_pos hc] at hy
  obtain ⟨rfl, rfl⟩ := List.cons.inj hy
  rw [happend, hx, List.append_nil, List.append_assoc, List.singleton_append]

end Text

/-! ### Tokens of words -/

/-- `tokensOf words` are `words` without their periods, less those of which nothing is left. -/
def tokensOf (words : List Text) : List Text :=
  (words.map undotted).filter (· ≠ [])

theorem tokensOf_append (words words' : List Text) :
    tokensOf (words ++ words') = tokensOf words ++ tokensOf words' := by
  rw [tokensOf, List.map_append, List.filter_append, tokensOf, tokensOf]

theorem tokensOf_cons_of_ne_nil {word : Text} (h : undotted word ≠ []) (words : List Text) :
    tokensOf (word :: words) = undotted word :: tokensOf words := by
  rw [tokensOf, List.map_cons, List.filter_cons_of_pos (by simpa using h), tokensOf]

/-- `tokensOf words` are, one after the other, the characters of `words` but the periods. -/
theorem flatten_tokensOf (words : List Text) : (tokensOf words).flatten = undotted words.flatten := by
  rw [tokensOf, List.flatten_filter_ne_nil, undotted, List.filter_flatten]
  rfl

theorem undotted_append (word word' : Text) :
    undotted (word ++ word') = undotted word ++ undotted word' :=
  List.filter_append word word'

/-- The pieces of `text` between separators hold, periods aside, its token characters. -/
theorem undotted_flatten_pieces (text : Text) :
    undotted (Text.pieces isSeparator text).flatten = text.filter isTokenChar := by
  rw [Text.flatten_pieces, undotted, List.filter_filter]
  refine List.filter_congr fun c _ => ?_
  rw [isTokenChar, Bool.and_comm, bne, beq_eq_decide, decide_not]

/-! ### Tokens of a text -/

/-- `tokenize text` are, one after the other, the characters of `text` but commas, white space and
periods. -/
theorem flatten_tokenize (text : Text) : (tokenize text).flatten = text.filter isTokenChar := by
  rw [← undotted_flatten_pieces, ← flatten_tokensOf]
  rfl

/-- `tokenize (x ++ c :: y) = tokenize x ++ tokenize y` if `c` is a separator. -/
theorem tokenize_append_cons {c : Char} (hc : isSeparator c) (x y : Text) :
    tokenize (x ++ c :: y) = tokenize x ++ tokenize y := by
  rw [tokenize_eq, Text.pieces_append_cons hc]
  exact tokensOf_append _ _

/-- `tokenize (separators ++ text) = tokenize text`. -/
theorem tokenize_separators_append {separators : Text} (h : ∀ c ∈ separators, isSeparator c)
    (text : Text) : tokenize (separators ++ text) = tokenize text := by
  induction separators with
  | nil => rfl
  | cons c separators ih =>
    obtain ⟨hc, hseparators⟩ := List.forall_mem_cons.mp h
    calc tokenize (c :: separators ++ text)
        = tokenize [] ++ tokenize (separators ++ text) := tokenize_append_cons hc [] _
      _ = tokenize text := ih hseparators

/-- `tokenize (x ++ separators ++ y) = tokenize x ++ tokenize y` if there are any `separators`. -/
theorem tokenize_append_separators {separators : Text} (hne : separators ≠ [])
    (h : ∀ c ∈ separators, isSeparator c) (x y : Text) :
    tokenize (x ++ separators ++ y) = tokenize x ++ tokenize y := by
  cases separators with
  | nil => exact absurd rfl hne
  | cons c separators =>
    obtain ⟨hc, hseparators⟩ := List.forall_mem_cons.mp h
    rw [List.append_assoc, List.cons_append, tokenize_append_cons hc,
      tokenize_separators_append hseparators]

/-- A `stretch` of the text `x ++ (stretch ++ y)` that has no separators, and more than periods, is in
one token: `front ++ undotted stretch ++ back`, where `front` ends the token characters of `x` and
`back` begins those of `y`. -/
theorem exists_token_of_stretch {stretch : Text} (h : ∀ c ∈ stretch, isSeparator c = false)
    (hne : undotted stretch ≠ []) (x y : Text) :
    ∃ before front back after,
      tokenize (x ++ (stretch ++ y)) = before ++ (front ++ undotted stretch ++ back) :: after
        ∧ before.flatten ++ front = x.filter isTokenChar
        ∧ back ++ after.flatten = y.filter isTokenChar := by
  obtain ⟨before, last, first, after, hx, hrest, happend⟩ :=
    Text.exists_pieces_append isSeparator x (stretch ++ y)
  obtain ⟨begin, later, hy⟩ := Text.exists_pieces_eq_cons isSeparator y
  -- the first piece behind `x` begins with the whole stretch
  rw [Text.pieces_append_of_not_isSeparator h, hy, List.modifyHead_cons] at hrest
  obtain ⟨rfl, rfl⟩ := List.cons.inj hrest
  have hword : undotted (last ++ (stretch ++ begin))
      = undotted last ++ undotted stretch ++ undotted begin := by
    rw [undotted_append, undotted_append, List.append_assoc]
  have htoken : undotted (last ++ (stretch ++ begin)) ≠ [] := by
    rw [hword]
    simp [hne]
  refine ⟨tokensOf before, undotted last, undotted begin, tokensOf later, ?_, ?_, ?_⟩
  · calc tokenize (x ++ (stretch ++ y))
        = tokensOf (before ++ (last ++ (stretch ++ begin)) :: later) := congrArg tokensOf happend
      _ = tokensOf before ++ (undotted last ++ undotted stretch ++ undotted begin) :: tokensOf later := by
          rw [tokensOf_append, tokensOf_cons_of_ne_nil htoken, hword]
  · rw [flatten_tokensOf, ← undotted_append, ← undotted_flatten_pieces, hx, List.flatten_append,
      List.flatten_singleton]
  · rw [flatten_tokensOf, ← undotted_append, ← undotted_flatten_pieces, hy, List.flatten_cons]

/-- **The tokens partition the text.** `tokenize text` are, one after the other, the characters of
`text` but commas, white space and periods, and no token is empty.  `separators` between `x` and `y`
part the tokens of `x` from those of `y`.  Two characters `c` and `d` other than periods, with no
separator between them, are in the same token, with `undotted between` between them; that token takes
`front` of `x` and `back` of `y`, and the tokens `before` and `after` it have the rest. -/
theorem tokenize_partition :
    (∀ text : Text, (tokenize text).flatten = text.filter isTokenChar ∧ ∀ token ∈ tokenize text, token ≠ [])
    ∧ (∀ x separators y : Text, separators ≠ [] → (∀ c ∈ separators, isSeparator c) →
      tokenize (x ++ separators ++ y) = tokenize x ++ tokenize y)
    ∧ ∀ (x : Text) (c : Char) (between : Text) (d : Char) (y : Text),
      (∀ e ∈ c :: (between ++ [d]), isSeparator e = false) → c ≠ '.' → d ≠ '.' →
      ∃ before front back after,
        tokenize (x ++ c :: (between ++ d :: y))
            = before ++ (front ++ c :: (undotted between ++ d :: back)) :: after
          ∧ before.flatten ++ front = x.filter isTokenChar
          ∧ back ++ after.flatten = y.filter isTokenChar := by
  refine ⟨fun text => ⟨flatten_tokenize text, fun _ => ne_nil_of_mem_tokenize⟩,
    fun x separators y hne hseparators => tokenize_append_separators hne hseparators x y, ?_⟩
  intro x c between d y hstretch hc hd
  have hundotted : undotted (c :: (between ++ [d])) = c :: (undotted between ++ [d]) := by
    simp [undotted, hc, hd]
  have hne : undotted (c :: (between ++ [d])) ≠ [] := by
    rw [hundotted]
    exact List.cons_ne_nil _ _
  obtain ⟨before, front, back, after, htokens, hbefore, hafter⟩ :=
    exists_token_of_stretch hstretch hne x y
  refine ⟨before, front, back, after, ?_, hbefore, hafter⟩
  simpa [hundotted] using htokens

/-- The two characters around the period of `e.g.`, between a token that ends at a comma and one more. -/
theorem tokenize_partition_dotted :
    (∀ c ∈ [',', ' '], isSeparator c)
      ∧ tokenize (['s', 'e', 'e'] ++ [',', ' '] ++ ['e', '.', 'g', '.'])
        = tokenize ['s', 'e', 'e'] ++ tokenize ['e', '.', 'g', '.']
      ∧ (∀ e ∈ ['e', '.', 'g'], isSeparator e = false)
      ∧ ∃ before front back after,
        tokenize (['s', 'e', 'e', ',', ' '] ++ 'e' :: (['.'] ++ 'g' :: ['.', ' ', 'a']))
            = before ++ (front ++ 'e' :: (undotted ['.'] ++ 'g' :: back)) :: after
          ∧ before.flatten ++ front = ['s', 'e', 'e']
          ∧ back ++ after.flatten = ['a'] := by
  have hseparators : ∀ c ∈ [',', ' '], isSeparator c := List.all_eq_true.mp (by decide)
  have hstretch : ∀ e ∈ ['e', '.', 'g'], isSeparator e = false := by
    rintro e (_ | ⟨_, _ | ⟨_, _ | ⟨_, ⟨⟩⟩⟩⟩) <;> rfl
  exact ⟨hseparators, tokenize_partition.2.1 _ _ _ (List.cons_ne_nil _ _) hseparators, hstretch,
    tokenize_partition.2.2 ['s', 'e', 'e', ',', ' '] 'e' ['.'] 'g' ['.', ' ', 'a'] hstretch (by decide)
      (by decide)⟩

end CommentSpell
