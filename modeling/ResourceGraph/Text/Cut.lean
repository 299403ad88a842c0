/-! # Cutting text

Text is cut as a list of characters.

* `pieces` — all pieces between separators; `join` puts them back together (`join_pieces`), and
  pieces without separators are found again (`pieces_join`).
* `afterLast` — what follows the last separator.
* `before?` — what precedes the first occurrence of a word.
* `dropEnd?` — what is left when a word is taken off the end.
-/

namespace ResourceGraph.Text

/-! ## Pieces between separators -/

/-- The pieces between the separators, blank ones included; text without a separator is one
    piece. -/
def pieces (separator : Char) : List Char → List (List Char)
  | [] => [[]]
  | c :: cs =>
    if c = separator then [] :: pieces separator cs
    else match pieces separator cs with
      | [] => [[c]]
      | piece :: rest => (c :: piece) :: rest

def join (separator : Char) : List (List Char) → List Char
  | [] => []
  | [piece] => piece
  | piece :: next :: rest => piece ++ separator :: join separator (next :: rest)

theorem join_eq_intercalate (separator : Char) (texts : List (List Char)) :
    join separator texts = [separator].intercalate texts := by
  induction texts with
  | nil => rfl
  | cons piece rest ih =>
    cases rest with
    | nil => simp [join]
    | cons next more =>
      rw [join, ih, List.intercalate_cons_cons, List.append_assoc, List.singleton_append]

theorem pieces_ne_nil (separator : Char) (cs : List Char) : pieces separator cs ≠ [] := by
  cases cs with
  | nil => simp [pieces]
  | cons c cs =>
    simp only [pieces]
    split
    · simp
    · split <;> simp

theorem join_pieces (separator : Char) (cs : List Char) :
    join separator (pieces separator cs) = cs := by
  induction cs with
  | nil => rfl
  | cons c cs ih =>
    cases h_rest : pieces separator cs with
    | nil => exact absurd h_rest (pieces_ne_nil separator cs)
    | cons piece rest =>
      rw [h_rest] at ih
      by_cases h : c = separator
      · simp [pieces, h, h_rest, join, ih]
      · cases rest with
        | nil => simp_all [pieces, join]
        | cons next rest => simp_all [pieces, join]

/-- No piece holds the separator. -/
theorem separator_not_mem_piece {separator : Char} {cs piece : List Char}
    (member : piece ∈ pieces separator cs) : separator ∉ piece := by
  induction cs generalizing piece with
  | nil => simp_all [pieces]
  | cons c cs ih =>
    by_cases h : c = separator
    · simp only [pieces, h, if_true, List.mem_cons] at member
      rcases member with rfl | member
      · simp
      · exact ih member
    · simp only [pieces, h, if_false] at member
      cases h_rest : pieces separator cs with
      | nil => exact absurd h_rest (pieces_ne_nil separator cs)
      | cons first rest =>
        rw [h_rest] at member ih
        rcases List.mem_cons.1 member with rfl | member
        · simp [Ne.symm h, ih List.mem_cons_self]
        · exact ih (List.mem_cons_of_mem _ member)

/-- Text without a separator is one piece. -/
theorem pieces_of_not_mem {separator : Char} {cs : List Char} (h_none : separator ∉ cs) :
    pieces separator cs = [cs] := by
  induction cs with
  | nil => rfl
  | cons c rest ih =>
    rw [List.mem_cons, not_or] at h_none
    rw [pieces, if_neg (Ne.symm h_none.1), ih h_none.2]

theorem pieces_append (separator : Char) (before after : List Char) :
    pieces separator (before ++ separator :: after) =
      pieces separator before ++ pieces separator after := by
  induction before with
  | nil => simp [pieces]
  | cons c rest ih =>
    by_cases h : c = separator
    · simp [pieces, h, ih]
    · cases h_rest : pieces separator rest with
      | nil => exact absurd h_rest (pieces_ne_nil separator rest)
      | cons piece more => simp [pieces, h, ih, h_rest]

/-- The text before the first separator is the first piece. -/
theorem pieces_append_cons {separator : Char} {before : List Char} (h_none : separator ∉ before)
    (after : List Char) :
    pieces separator (before ++ separator :: after) = before :: pieces separator after := by
  rw [pieces_append, pieces_of_not_mem h_none, List.singleton_append]

/-- Pieces without the separator are found again once they are joined. -/
theorem pieces_join {separator : Char} {texts : List (List Char)} (h_some : texts ≠ [])
    (h_none : ∀ piece ∈ texts, separator ∉ piece) :
    pieces separator (join separator texts) = texts := by
  induction texts with
  | nil => exact absurd rfl h_some
  | cons piece rest ih =>
    rw [List.forall_mem_cons] at h_none
    cases rest with
    | nil => exact pieces_of_not_mem h_none.1
    | cons next more =>
      rw [join, pieces_append_cons h_none.1, ih (List.cons_ne_nil next more) h_none.2]

/-- A first piece with more pieces behind it stands before a separator. -/
theorem pieces_eq_cons_iff {separator : Char} {cs first : List Char} {more : List (List Char)}
    (h_more : more ≠ []) :
    pieces separator cs = first :: more ↔
      separator ∉ first ∧ ∃ rest, cs = first ++ separator :: rest ∧ pieces separator rest = more := by
  constructor
  · intro h_pieces
    have h_none : separator ∉ first :=
      separator_not_mem_piece (h_pieces ▸ List.mem_cons_self : first ∈ pieces separator cs)
    have h_join := join_pieces separator cs
    rw [h_pieces] at h_join
    cases more with
    | nil => exact absurd rfl h_more
    | cons next rest =>
      rw [join] at h_join
      rw [← h_join, pieces_append_cons h_none, List.cons.injEq] at h_pieces
      exact ⟨h_none, _, h_join.symm, h_pieces.2⟩
  · rintro ⟨h_none, rest, rfl, rfl⟩
    exact pieces_append_cons h_none rest

/-- Joined pieces end in the last of them. -/
theorem join_of_getLast? (separator : Char) {texts : List (List Char)} {last : List Char}
    (h_last : texts.getLast? = some last) :
    join separator texts = last ∨ ∃ front, join separator texts = front ++ separator :: last := by
  induction texts with
  | nil => simp at h_last
  | cons piece rest ih =>
    cases rest with
    | nil => simp_all [join]
    | cons next rest =>
      rw [List.getLast?_cons_cons] at h_last
      rcases ih h_last with h_rest | ⟨front, h_rest⟩
      · exact Or.inr ⟨piece, by rw [join, h_rest]⟩
      · exact Or.inr ⟨piece ++ separator :: front, by simp [join, h_rest]⟩

/-- The text after the last separator is the last piece. -/
theorem getLast?_pieces_eq_some_iff {separator : Char} {cs last : List Char} :
    (pieces separator cs).getLast? = some last ↔
      separator ∉ last ∧ (cs = last ∨ ∃ front, cs = front ++ separator :: last) := by
  constructor
  · intro h_last
    have h_join := join_of_getLast? separator h_last
    rw [join_pieces] at h_join
    exact ⟨separator_not_mem_piece (List.mem_of_getLast? h_last), h_join⟩
  · rintro ⟨h_none, rfl | ⟨front, rfl⟩⟩
    · rw [pieces_of_not_mem h_none]
      rfl
    · rw [pieces_append, pieces_of_not_mem h_none, List.getLast?_concat]

/-! ## The last segment -/

/-- The text after the last separator, all of it if there is none. -/
def afterLast (separates : Char → Bool) (cs : List Char) : List Char :=
  (cs.reverse.takeWhile fun c => !separates c).reverse

/-- Text before a separator does not matter. -/
theorem afterLast_append {separates : Char → Bool} {c : Char} (h_separator : separates c = true)
    (before after : List Char) :
    afterLast separates (before ++ c :: after) = afterLast separates after := by
  simp only [afterLast, List.reverse_append, List.reverse_cons, List.append_assoc,
    List.singleton_append]
  congr 1
  induction after.reverse with
  | nil => simp [h_separator]
  | cons d ds ih =>
    simp only [List.cons_append, List.takeWhile_cons, ih]

/-- Text without a separator is its own last segment. -/
theorem afterLast_of_none {separates : Char → Bool} {cs : List Char}
    (none_separates : ∀ c ∈ cs, separates c = false) : afterLast separates cs = cs := by
  have h_all : ∀ ds : List Char, (∀ c ∈ ds, separates c = false) →
      ds.takeWhile (fun c => !separates c) = ds := by
    intro ds none_here
    induction ds with
    | nil => rfl
    | cons d ds ih =>
      have h_tail := ih fun c h_mem => none_here c (List.mem_cons_of_mem _ h_mem)
      simp [none_here d List.mem_cons_self, h_tail]
  rw [afterLast, h_all _ fun c h_mem => none_separates c (List.mem_reverse.1 h_mem),
    List.reverse_reverse]

/-! ## Words inside a text -/

/-- The text before the first occurrence of `word`. -/
def before? (word : List Char) : List Char → Option (List Char)
  | [] => if word.isEmpty then some [] else none
  | c :: cs =>
    if word.isPrefixOf (c :: cs) then some [] else (before? word cs).map (c :: ·)

def holds (word cs : List Char) : Bool := (before? word cs).isSome

/-- The first occurrence is an occurrence, and there is none before it. -/
theorem before?_eq_some_iff {word cs base : List Char} :
    before? word cs = some base ↔
      base ++ word <+: cs ∧ ∀ front, front ++ word <+: cs → base.length ≤ front.length := by
  induction cs generalizing base with
  | nil =>
    rw [before?, List.prefix_nil, List.append_eq_nil_iff]
    by_cases h_word : word = []
    · simp [h_word, eq_comm]
    · simp [h_word]
  | cons c cs ih =>
    by_cases h_here : word <+: c :: cs
    · rw [before?, if_pos (List.isPrefixOf_iff_prefix.2 h_here), Option.some.injEq]
      constructor
      · rintro rfl
        exact ⟨h_here, fun _ _ => Nat.zero_le _⟩
      · rintro ⟨-, h_first⟩
        exact (List.eq_nil_of_length_eq_zero (Nat.le_zero.1 (h_first [] h_here))).symm
    · rw [before?, if_neg fun h => h_here (List.isPrefixOf_iff_prefix.1 h)]
      have h_later : ∀ front, front ++ word <+: c :: cs ↔
          ∃ rest, front = c :: rest ∧ rest ++ word <+: cs := by
        intro front
        cases front with
        | nil => simpa using h_here
        | cons d rest =>
          rw [List.cons_append, List.cons_prefix_cons]
          constructor
          · rintro ⟨rfl, h_rest⟩
            exact ⟨rest, rfl, h_rest⟩
          · rintro ⟨_, same, h_rest⟩
            cases same
            exact ⟨rfl, h_rest⟩
      simp only [Option.map_eq_some_iff, ih, h_later]
      constructor
      · rintro ⟨found, ⟨h_found, h_first⟩, rfl⟩
        refine ⟨⟨found, rfl, h_found⟩, ?_⟩
        rintro _ ⟨rest, rfl, h_rest⟩
        exact Nat.succ_le_succ (h_first rest h_rest)
      · rintro ⟨⟨found, rfl, h_found⟩, h_first⟩
        refine ⟨found, ⟨h_found, fun front h_front => ?_⟩, rfl⟩
        exact Nat.le_of_succ_le_succ (h_first (c :: front) ⟨front, rfl, h_front⟩)

/-- The text without `word` at its end. -/
def dropEnd? (word cs : List Char) : Option (List Char) :=
  if word.isSuffixOf cs then some (cs.take (cs.length - word.length)) else none

theorem dropEnd?_eq_some_iff {word cs rest : List Char} :
    dropEnd? word cs = some rest ↔ cs = rest ++ word := by
  unfold dropEnd?
  constructor
  · intro dropped
    split at dropped
    · rename_i h_suffix
      obtain ⟨start, rfl⟩ := List.isSuffixOf_iff_suffix.1 h_suffix
      simp only [Option.some.injEq] at dropped
      subst dropped
      simp
    · simp at dropped
  · rintro rfl
    have h_suffix : word.isSuffixOf (rest ++ word) = true :=
      List.isSuffixOf_iff_suffix.2 ⟨rest, rfl⟩
    simp [h_suffix]

end ResourceGraph.Text
