/-! # Blank characters

The characters that leave no ink are those with the White_Space property and the four separators
that control characters stand for.  `trim` takes them off both ends of a text, and two lemmas
describe it: the text is the trimmed text between blanks (`exists_margins`), and blanks around a
text do not matter (`trim_append`).
-/

namespace ResourceGraph.Text

/-- The code points of the blank characters, in increasing order. -/
def blankCodes : List Nat :=
  [0x09, 0x0a, 0x0b, 0x0c, 0x0d, 0x1c, 0x1d, 0x1e, 0x1f, 0x20, 0x85, 0xa0, 0x1680,
   0x2000, 0x2001, 0x2002, 0x2003, 0x2004, 0x2005, 0x2006, 0x2007, 0x2008, 0x2009, 0x200a,
   0x2028, 0x2029, 0x202f, 0x205f, 0x3000]

def isBlank (c : Char) : Bool := blankCodes.contains c.toNat

/-- Text without blanks at either end. -/
def trim (cs : List Char) : List Char :=
  ((cs.dropWhile isBlank).reverse.dropWhile isBlank).reverse

/-- Text that neither starts nor ends with a blank is left alone. -/
theorem trim_eq_self {cs : List Char} (h_first : ∀ c ∈ cs.head?, isBlank c = false)
    (h_last : ∀ c ∈ cs.getLast?, isBlank c = false) : trim cs = cs := by
  have h_front : cs.dropWhile isBlank = cs := by
    cases cs with
    | nil => rfl
    | cons c cs => simp [h_first c (by simp)]
  have h_back : cs.reverse.dropWhile isBlank = cs.reverse := by
    cases h_rev : cs.reverse with
    | nil => rfl
    | cons c rest =>
      have h_mem : c ∈ cs.getLast? := by
        rw [← List.head?_reverse, h_rev]; simp
      simp [h_last c h_mem]
  rw [trim, h_front, h_back, List.reverse_reverse]

/-! ## Margins -/

theorem dropWhile_blank {cs : List Char} (blank : ∀ c ∈ cs, isBlank c = true) :
    cs.dropWhile isBlank = [] := by
  have h_end : (cs ++ []).dropWhile isBlank = [] := List.dropWhile_append_of_pos blank
  rwa [List.append_nil] at h_end

theorem not_isBlank_of_head?_dropWhile {cs : List Char} {c : Char}
    (h_head : (cs.dropWhile isBlank).head? = some c) : isBlank c = false := by
  have h_not := List.head?_dropWhile_not isBlank cs
  rwa [h_head] at h_not

/-- Text is what is left of it with blanks on both sides. -/
theorem exists_margins (cs : List Char) :
    ∃ front back, cs = front ++ trim cs ++ back ∧ (∀ c ∈ front, isBlank c = true) ∧
      ∀ c ∈ back, isBlank c = true := by
  have h_rest : (cs.dropWhile isBlank).reverse.takeWhile isBlank ++
      (cs.dropWhile isBlank).reverse.dropWhile isBlank = (cs.dropWhile isBlank).reverse :=
    List.takeWhile_append_dropWhile
  refine ⟨cs.takeWhile isBlank, ((cs.dropWhile isBlank).reverse.takeWhile isBlank).reverse,
    ?_, ?_, ?_⟩
  · rw [trim, List.append_assoc, ← List.reverse_append, h_rest, List.reverse_reverse,
      List.takeWhile_append_dropWhile]
  · exact List.all_eq_true.1 List.all_takeWhile
  · intro c h_c
    exact List.all_eq_true.1 List.all_takeWhile c (List.mem_reverse.1 h_c)

/-- Blanks around a text do not matter. -/
theorem trim_append {front back : List Char} (h_front : ∀ c ∈ front, isBlank c = true)
    (h_back : ∀ c ∈ back, isBlank c = true) (cs : List Char) :
    trim (front ++ cs ++ back) = trim cs := by
  have h_reverse : ∀ c ∈ back.reverse, isBlank c = true := by simpa using h_back
  rw [trim, List.append_assoc, List.dropWhile_append_of_pos h_front, List.dropWhile_append]
  split
  next h_empty => rw [trim, List.isEmpty_iff.1 h_empty, dropWhile_blank h_back]
  next => rw [List.reverse_append, List.dropWhile_append_of_pos h_reverse, trim]

theorem trim_eq_nil_iff {cs : List Char} : trim cs = [] ↔ ∀ c ∈ cs, isBlank c = true := by
  constructor
  · intro h_empty c h_c
    obtain ⟨front, back, h_cs, h_front, h_back⟩ := exists_margins cs
    rw [h_cs, h_empty, List.append_nil, List.mem_append] at h_c
    exact h_c.elim (h_front c) (h_back c)
  · intro blank
    have h_trim : trim (cs ++ [] ++ []) = trim [] := trim_append blank (by simp) []
    rwa [List.append_nil, List.append_nil] at h_trim

/-- What is left of a text starts with no blank. -/
theorem not_isBlank_of_head?_trim {cs : List Char} :
    ∀ c ∈ (trim cs).head?, isBlank c = false := by
  intro c h_head
  have h_prefix : trim cs <+: cs.dropWhile isBlank := by
    rw [← List.reverse_suffix, trim, List.reverse_reverse]
    exact List.dropWhile_suffix isBlank
  obtain ⟨rest, h_rest⟩ := h_prefix
  have h_first : (cs.dropWhile isBlank).head? = some c := by
    rw [← h_rest, List.head?_append, h_head]
    rfl
  exact not_isBlank_of_head?_dropWhile h_first

theorem not_isBlank_of_getLast?_trim {cs : List Char} :
    ∀ c ∈ (trim cs).getLast?, isBlank c = false := by
  intro c h_last
  rw [trim, List.getLast?_reverse] at h_last
  exact not_isBlank_of_head?_dropWhile h_last

end ResourceGraph.Text
