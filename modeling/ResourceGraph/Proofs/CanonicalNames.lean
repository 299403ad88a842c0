import Mathlib.Data.List.Infix
import ResourceGraph.Proofs.TableNames

/-! # Canonical names

Deriving the canonical name of a table twice gives the same name as deriving it once, provided
that the suffix does not overlap itself.

The ingredient is `Unbordered.prefix_of_before`: two occurrences of a word that has no border,
that is no other word at both its ends, do not overlap.  So the text up to the word stays the same
whatever follows the word (`upTo_append`).  A border, on the other hand, makes some name unstable,
and `deriveName_stable` has both directions.
-/

namespace ResourceGraph

namespace Text

variable {word cs front base rest : List Char}

/-! ## Words that do not overlap themselves -/

/-- A word without a border: only the empty word and the word itself both begin and end it. -/
def Unbordered (word : List Char) : Prop :=
  ∀ border, border <+: word → border <:+ word → border = [] ∨ border = word

instance (word : List Char) : Decidable (Unbordered word) :=
  decidable_of_iff (∀ border ∈ word.inits, border <:+ word → border = [] ∨ border = word)
    (by simp only [List.mem_inits, Unbordered])

/-- In front of an unbordered word that stands in a text, another occurrence ends before it. -/
theorem Unbordered.prefix_of_before (unbordered : Unbordered word)
    (occurs : front ++ word <+: base ++ word ++ rest) (before : front.length < base.length) :
    front ++ word <+: base := by
  have h_base : base <+: base ++ word ++ rest := by simp
  obtain ⟨gap, rfl⟩ := List.prefix_of_prefix_length_le
    ((List.prefix_append front word).trans occurs) h_base (by omega)
  rw [List.prefix_append_right_inj]
  simp only [List.append_assoc, List.prefix_append_right_inj] at occurs
  by_cases h_fits : word.length ≤ gap.length
  · exact List.prefix_of_prefix_length_le occurs (List.prefix_append _ _) h_fits
  -- otherwise the two occurrences share a word, which begins the one and ends the other
  · have h_gap : gap <+: word :=
      List.prefix_of_prefix_length_le (List.prefix_append _ _) occurs (by omega)
    obtain ⟨border, h_word⟩ := h_gap
    have h_length : word.length = gap.length + border.length := by simp [← h_word]
    have h_starts : border <+: word ++ rest := by
      rwa [← List.prefix_append_right_inj gap, h_word]
    have h_begins : border <+: word :=
      List.prefix_of_prefix_length_le h_starts (List.prefix_append word rest) (by omega)
    rcases unbordered border h_begins ⟨gap, h_word⟩ with rfl | rfl
    · simp only [List.length_nil] at h_length
      omega
    · simp only [List.length_append] at before
      omega

/-! ## Text up to a word -/

/-- The text up to the first occurrence of a word, all of it if there is none. -/
def upTo (word cs : List Char) : List Char := (before? word cs).getD cs

theorem exists_before? (occurs : front ++ word <+: cs) : ∃ base, before? word cs = some base := by
  induction front generalizing cs with
  | nil =>
    cases cs with
    | nil => exact ⟨[], by simp_all [before?]⟩
    | cons c cs => exact ⟨[], by simp_all [before?]⟩
  | cons d front ih =>
    obtain ⟨more, rfl⟩ := occurs
    by_cases h_here : word.isPrefixOf (d :: (front ++ word ++ more)) = true
    · exact ⟨[], by simpa [before?] using h_here⟩
    · obtain ⟨base, h_base⟩ := ih (List.prefix_append (front ++ word) more)
      exact ⟨d :: base, by simp_all [before?]⟩

theorem upTo_prefix_self (word cs : List Char) : upTo word cs <+: cs := by
  unfold upTo
  cases h_found : before? word cs with
  | none => simp
  | some base => exact (List.prefix_append base word).trans (before?_eq_some_iff.1 h_found).1

/-- No occurrence of the word starts earlier. -/
theorem length_upTo_le (occurs : front ++ word <+: cs) : (upTo word cs).length ≤ front.length := by
  obtain ⟨base, h_base⟩ := exists_before? occurs
  simpa [upTo, h_base] using (before?_eq_some_iff.1 h_base).2 front occurs

theorem length_upTo_le_of_append (unbordered : Unbordered word)
    (occurs : front ++ word <+: upTo word cs ++ word ++ rest) :
    (upTo word cs).length ≤ front.length := by
  by_contra h_before
  have h_inside := unbordered.prefix_of_before occurs (by omega)
  exact h_before (length_upTo_le (h_inside.trans (upTo_prefix_self word cs)))

/-- What follows an unbordered word does not matter to the text up to it. -/
theorem upTo_append (unbordered : Unbordered word) (cs rest : List Char) :
    upTo word (cs ++ word ++ rest) = upTo word cs := by
  have h_found : before? word (cs ++ word ++ rest) = some (upTo word cs) := by
    rw [before?_eq_some_iff]
    constructor
    · unfold upTo
      cases h_base : before? word cs with
      | none => simp
      | some base =>
        have h_occurs := (before?_eq_some_iff.1 h_base).1
        exact h_occurs.trans (by simp)
    · intro front occurs
      by_cases h_before : front.length < cs.length
      · exact length_upTo_le (unbordered.prefix_of_before occurs h_before)
      · have h_length := (upTo_prefix_self word cs).length_le
        omega
  rw [upTo, h_found, Option.getD_some]

end Text

namespace Table

variable {suffix : String}

/-! ## Derived names -/

theorem toList_deriveName (name suffix : String) :
    (deriveName name suffix).toList = Text.upTo suffix.toList name.toList ++ suffix.toList := by
  unfold deriveName Text.upTo
  split <;> simp_all

/-- A name derived by an unbordered suffix is canonical. -/
theorem isCanonical_deriveName (unbordered : Text.Unbordered suffix.toList) (name : String) :
    IsCanonical suffix (deriveName name suffix) := by
  refine ⟨Text.upTo suffix.toList name.toList, toList_deriveName name suffix, ?_⟩
  intro front occurs
  have h_occurs : front ++ suffix.toList <+:
      Text.upTo suffix.toList name.toList ++ suffix.toList ++ [] := by
    simpa [toList_deriveName] using occurs
  exact Text.length_upTo_le_of_append unbordered h_occurs

/-- A border of the suffix spoils the name that is the rest of the suffix in front of it: the suffix
    put after that name starts over one border too early. -/
theorem unbordered_of_stable
    (stable : ∀ name, deriveName (deriveName name suffix) suffix = deriveName name suffix) :
    Text.Unbordered suffix.toList := by
  intro border h_begins h_ends
  obtain ⟨gap, h_gap⟩ := h_ends
  by_cases h_empty : border = []
  · exact Or.inl h_empty
  · have h_short : gap.length < suffix.toList.length := by
      simp [← h_gap, List.length_pos_iff.2 h_empty]
    have h_free : Text.upTo suffix.toList gap = gap := by
      unfold Text.upTo
      cases h_found : Text.before? suffix.toList gap with
      | none => rfl
      | some base =>
        have h_length := (Text.before?_eq_some_iff.1 h_found).1.length_le
        rw [List.length_append] at h_length
        omega
    obtain ⟨base, h_name, h_first⟩ := deriveName_eq_self_iff.1 (stable (String.ofList gap))
    rw [toList_deriveName, String.toList_ofList, h_free] at h_name h_first
    have h_base : gap = base := List.append_cancel_right h_name
    -- the suffix begins where the name begins, for its end there is the border that begins it
    have h_start : suffix.toList <+: gap ++ suffix.toList := by
      obtain ⟨more, h_more⟩ := h_begins
      refine ⟨more, ?_⟩
      conv => lhs; rw [← h_gap]
      rw [List.append_assoc, h_more]
    have h_nothing := h_first [] h_start
    rw [← h_base, List.length_nil, Nat.le_zero, List.length_eq_zero_iff] at h_nothing
    subst h_nothing
    exact Or.inr h_gap

/-- Canonical names are stable exactly for unbordered suffixes, of which the standard one is one.
    With such a suffix whatever follows its first occurrence is dropped, and a canonical name holds
    the suffix at its end and nowhere else. -/
theorem deriveName_stable :
    Text.Unbordered defaultSuffix.toList ∧
      ∀ suffix : String,
        ((∀ name, deriveName (deriveName name suffix) suffix = deriveName name suffix) ↔
          Text.Unbordered suffix.toList) ∧
        (Text.Unbordered suffix.toList → ∀ name noise,
          deriveName (name ++ suffix ++ noise) suffix = deriveName name suffix ∧
            (∃ base, deriveName name suffix = base ++ suffix) ∧
            ∃! front, ∃ rest, deriveName name suffix = front ++ suffix ++ rest) := by
  refine ⟨by decide, fun suffix => ⟨⟨unbordered_of_stable, ?_⟩, ?_⟩⟩
  · intro unbordered name
    exact deriveName_eq_self_iff.2 (isCanonical_deriveName unbordered name)
  · intro unbordered name noise
    have h_ends : deriveName name suffix =
        String.ofList (Text.upTo suffix.toList name.toList) ++ suffix := by
      apply String.toList_injective
      simp [toList_deriveName]
    refine ⟨?_, ⟨_, h_ends⟩, String.ofList (Text.upTo suffix.toList name.toList), ⟨"", ?_⟩, ?_⟩
    · apply String.toList_injective
      simp only [toList_deriveName, String.toList_append, Text.upTo_append unbordered]
    · simpa using h_ends
    · rintro front ⟨rest, h_name⟩
      have h_chars : Text.upTo suffix.toList name.toList ++ suffix.toList =
          front.toList ++ suffix.toList ++ rest.toList := by
        simp only [← toList_deriveName, h_name, String.toList_append]
      have h_occurs : front.toList ++ suffix.toList <+:
          Text.upTo suffix.toList name.toList ++ suffix.toList ++ [] := by
        simp [h_chars]
      have h_late := Text.length_upTo_le_of_append unbordered h_occurs
      have h_length := congrArg List.length h_chars
      simp only [List.length_append] at h_length
      have h_front := List.append_inj (h_chars.trans (List.append_assoc _ _ _)) (by omega)
      rw [h_front.1, String.ofList_toList]

theorem deriveName_stable_noise :
    Text.Unbordered "Table".toList ∧ deriveName "PostTable8A2F" "Table" = "PostTable" ∧
      deriveName "PostTable8A2F" "Table" = deriveName "Post" "Table" ∧
      ∃! front, ∃ rest, deriveName "Post" "Table" = front ++ "Table" ++ rest := by
  have h_post := (deriveName_stable.2 "Table").2 (by decide) "Post" "8A2F"
  exact ⟨by decide, by decide, h_post.1, h_post.2.2⟩

end Table

end ResourceGraph
