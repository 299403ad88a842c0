import Mathlib.Data.List.Forall2
import ResourceGraph.Proofs.Spelling

/-! # References spelled twice

Which values spell a reference at all, and which of them spell the same one.

Only an attribute can be spelled in two ways, as dotted text or as a list (`Reference.Respells`).
`Spells.eq_iff` says that two values spell the same reference if they are equal or two notations
of one attribute, and in no other case.  A reference may also contain a whole value, so there is a
second answer, `Spells.sameData_iff`, for values that are equal as data only, whatever the order of
members and the notation of numbers (`Value.SameData`).
-/

namespace ResourceGraph

/-! ## Values with the same data -/

/-- Two values hold the same data: as scalars they make the same key, as arrays they agree item by
    item, and as objects they hold the same data under every name. -/
inductive Value.SameData : Value → Value → Prop where
  | scalar {v w : Value} {key : Scalar} (h_left : v.scalar? = .ok key)
      (h_right : w.scalar? = .ok key) : SameData v w
  | array {items others : List Value} (each : List.Forall₂ SameData items others) :
      SameData (.array items) (.array others)
  | object {members others : List (String × Value)}
      (each : ∀ name, Option.Rel SameData (OrderedMap.lookup name members)
        (OrderedMap.lookup name others)) :
      SameData (.object members) (.object others)

namespace Value

variable {v w : Value}

theorem SameData.refl : ∀ v : Value, SameData v v
  | .null | .bool _ | .integer _ | .decimal _ | .string _ => .scalar rfl rfl
  | .array items => .array (List.forall₂_same.2 fun item _ => refl item)
  | .object members => .object fun name => by
    cases h_held : OrderedMap.lookup name members with
    | none => exact .none
    | some held => exact .some (refl held)
termination_by v => sizeOf v
decreasing_by
  · have h_item := List.sizeOf_lt_of_mem ‹_›
    simp only [Value.array.sizeOf_spec]
    omega
  · have h_member := List.sizeOf_lt_of_mem (OrderedMap.mem_of_lookup h_held)
    simp only [Value.object.sizeOf_spec, Prod.mk.sizeOf_spec] at h_member ⊢
    omega

theorem sameData_string_iff {s : String} : SameData (.string s) w ↔ w = .string s := by
  constructor
  · intro same
    cases same with
    | scalar h_left h_right =>
      cases h_left
      cases w <;> simp_all [scalar?]
  · rintro rfl
    exact .refl _

theorem sameData_pair_iff {s t : String} :
    SameData (.array [.string s, .string t]) w ↔ w = .array [.string s, .string t] := by
  constructor
  · intro same
    cases same with
    | scalar h_left _ => cases h_left
    | array each =>
      obtain ⟨first, rest, h_first, h_rest, rfl⟩ := List.forall₂_cons_left_iff.1 each
      obtain ⟨second, more, h_second, h_more, rfl⟩ := List.forall₂_cons_left_iff.1 h_rest
      rw [List.forall₂_nil_left_iff.1 h_more, sameData_string_iff.1 h_first,
        sameData_string_iff.1 h_second]
  · rintro rfl
    exact .refl _

theorem sameData_singleton_iff {name other : String} :
    SameData (.object [(name, v)]) (.object [(other, w)]) ↔ name = other ∧ SameData v w := by
  constructor
  · intro same
    cases same with
    | scalar h_left _ => cases h_left
    | object each =>
      have h_name := each name
      by_cases same : other = name
      · simp only [OrderedMap.lookup, same, if_true] at h_name
        cases h_name with
        | some h_held => exact ⟨same.symm, h_held⟩
      · simp only [OrderedMap.lookup, same, if_true, if_false] at h_name
        cases h_name
  · rintro ⟨rfl, same⟩
    refine .object fun key => ?_
    simp only [OrderedMap.lookup]
    split
    · exact .some same
    · exact .none

end Value

namespace Reference

/-- Two references are the same up to the data of a payload. -/
inductive SameData : Reference → Reference → Prop where
  | same (reference : Reference) : SameData reference reference
  | payload (function : TextFunction) {v w : Value} (same : v.SameData w) :
      SameData (.interpolated function v) (.interpolated function w)

/-! ## Spellings -/

/-- A value spells a reference: text, the name of a resource, an attribute as a pair or as text with a
    dot in it, or one of the text functions with any payload. -/
inductive IsSpelling : Value → Prop where
  | literal (s : String) : IsSpelling (.string s)
  | named (resource : String) : IsSpelling (.object [("Ref", .string resource)])
  | pair (resource member : String) :
      IsSpelling (.object [("Fn::GetAtt", .array [.string resource, .string member])])
  | dotted {s : String} (has_dot : '.' ∈ s.toList) :
      IsSpelling (.object [("Fn::GetAtt", .string s)])
  | interpolated (function : TextFunction) (payload : Value) :
      IsSpelling (.object [(function.name, payload)])

/-- Two notations of one attribute: a resource without dots and its member as a pair, and as text with
    a dot between them. -/
inductive Respells : Value → Value → Prop where
  | joined (resource member : String) (no_dot : '.' ∉ resource.toList) :
      Respells (.object [("Fn::GetAtt", .array [.string resource, .string member])])
        (.object [("Fn::GetAtt", .string (resource ++ "." ++ member))])
  | parted (resource member : String) (no_dot : '.' ∉ resource.toList) :
      Respells (.object [("Fn::GetAtt", .string (resource ++ "." ++ member))])
        (.object [("Fn::GetAtt", .array [.string resource, .string member])])

variable {v w : Value} {r s : Reference}

theorem exists_spells_iff : (∃ reference, Spells v reference) ↔ IsSpelling v := by
  constructor
  · rintro ⟨reference, spells⟩
    cases spells with
    | literal s => exact .literal s
    | named resource => exact .named resource
    | pair resource member => exact .pair resource member
    | dotted resource member _ => exact .dotted (by simp)
    | interpolated function payload => exact .interpolated function payload
  · intro spelling
    cases spelling with
    | literal s => exact ⟨_, .literal s⟩
    | named resource => exact ⟨_, .named resource⟩
    | pair resource member => exact ⟨_, .pair resource member⟩
    | @dotted s has_dot =>
      obtain ⟨resource, member, h_text, no_dot⟩ := List.eq_append_cons_of_mem has_dot
      have h_joined : s = String.ofList resource ++ "." ++ String.ofList member := by
        simp [← String.toList_inj, h_text]
      rw [h_joined]
      exact ⟨_, .dotted _ _ (by simpa using no_dot)⟩
    | interpolated function payload => exact ⟨_, .interpolated function payload⟩

theorem Spells.unique (h_left : Spells v r) (h_right : Spells v s) : r = s := by
  have h_read := ofGiven_of_spells h_right
  rw [ofGiven_of_spells h_left] at h_read
  exact Except.ok.inj h_read

theorem kind_blame (v : Value) : (blame v).kind = .invalidTemplate := by
  unfold blame
  split <;> rfl

/-! ## Equal values -/

/-- One reference has one spelling, but for the two notations of an attribute. -/
theorem Spells.eq_or_respells (h_left : Spells v r) (h_right : Spells w r) :
    v = w ∨ Respells v w := by
  cases h_left with
  | literal _ | named _ | interpolated _ _ =>
    cases h_right
    exact Or.inl rfl
  | pair resource member =>
    cases h_right with
    | pair _ _ => exact Or.inl rfl
    | dotted _ _ no_dot => exact Or.inr (.joined resource member no_dot)
  | dotted resource member no_dot =>
    cases h_right with
    | pair _ _ => exact Or.inr (.parted resource member no_dot)
    | dotted _ _ _ => exact Or.inl rfl

theorem Respells.exists_spells (respells : Respells v w) : ∃ r, Spells v r ∧ Spells w r := by
  cases respells with
  | joined resource member no_dot =>
    exact ⟨_, .pair resource member, .dotted resource member no_dot⟩
  | parted resource member no_dot =>
    exact ⟨_, .dotted resource member no_dot, .pair resource member⟩

theorem Respells.eq_of_spells (respells : Respells v w) (h_left : Spells v r)
    (h_right : Spells w s) : r = s := by
  obtain ⟨both, h_first, h_second⟩ := respells.exists_spells
  rw [h_left.unique h_first, h_right.unique h_second]

theorem Spells.eq_iff (h_left : Spells v r) (h_right : Spells w s) :
    r = s ↔ v = w ∨ Respells v w := by
  constructor
  · rintro rfl
    exact h_left.eq_or_respells h_right
  · rintro (rfl | respells)
    · exact h_left.unique h_right
    · exact respells.eq_of_spells h_left h_right

/-! ## Values with the same data -/

theorem Spells.exists_payload {name : String} {payload : Value} (spells : Spells w s)
    (same : Value.SameData (.object [(name, payload)]) w) :
    ∃ other, w = .object [(name, other)] ∧ payload.SameData other := by
  cases spells with
  | literal _ =>
    cases same with
    | scalar h_left _ => cases h_left
  | named _ | pair _ _ | dotted _ _ _ | interpolated _ _ =>
    obtain ⟨rfl, h_payload⟩ := Value.sameData_singleton_iff.1 same
    exact ⟨_, rfl, h_payload⟩

/-- The data decides what is spelled: text and pairs of texts are only equal to themselves. -/
theorem Spells.sameData_of_sameData (h_left : Spells v r) (h_right : Spells w s)
    (same : v.SameData w) : r.SameData s := by
  have of_eq : v = w → r.SameData s := by
    rintro rfl
    rw [h_left.unique h_right]
    exact .same s
  cases h_left with
  | literal _ => exact of_eq (Value.sameData_string_iff.1 same).symm
  | named _ | dotted _ _ _ =>
    obtain ⟨payload, rfl, h_payload⟩ := h_right.exists_payload same
    exact of_eq (by rw [Value.sameData_string_iff.1 h_payload])
  | pair _ _ =>
    obtain ⟨payload, rfl, h_payload⟩ := h_right.exists_payload same
    exact of_eq (by rw [Value.sameData_pair_iff.1 h_payload])
  | interpolated function _ =>
    obtain ⟨payload, rfl, h_payload⟩ := h_right.exists_payload same
    rw [h_right.unique (.interpolated function payload)]
    exact .payload function h_payload

theorem Spells.sameData_iff (h_left : Spells v r) (h_right : Spells w s) :
    r.SameData s ↔ v.SameData w ∨ Respells v w := by
  constructor
  · intro same
    cases same with
    | same _ =>
      rcases h_left.eq_or_respells h_right with rfl | respells
      · exact Or.inl (.refl v)
      · exact Or.inr respells
    | payload function same =>
      cases h_left
      cases h_right
      exact Or.inl (Value.sameData_singleton_iff.2 ⟨rfl, same⟩)
  · rintro (same | respells)
    · exact h_left.sameData_of_sameData h_right same
    · rw [respells.eq_of_spells h_left h_right]
      exact .same s

/-- Null spells nothing, the values of the grammar spell what they say, and any other value is an
    invalid template.  Two values spell the same reference if and only if they are equal or two
    notations of one attribute, whether equality is of notation or of data; and every reference has a
    spelling. -/
theorem ofValue_distinguishes (v w : Value) :
    (ofValue v = .ok none ↔ v = .null) ∧
      ((∃ r, ofValue v = .ok (some r)) ↔ IsSpelling v) ∧
      (∀ r, ofValue v = .ok (some r) ↔ Spells v r) ∧
      (∀ cause, ofValue v = .error cause ↔ v ≠ .null ∧ ¬ IsSpelling v ∧ cause = blame v) ∧
      (blame v).kind = .invalidTemplate ∧
      (∀ r s, ofValue v = .ok (some r) → ofValue w = .ok (some s) →
        (r = s ↔ v = w ∨ Respells v w) ∧ (r.SameData s ↔ v.SameData w ∨ Respells v w)) ∧
      ∀ r, ∃ spelling, ofValue spelling = .ok (some r) := by
  refine ⟨ofValue_eq_ok_none_iff, ?_, fun _ => ofValue_eq_ok_some_iff, ?_, kind_blame v, ?_, ?_⟩
  · simp only [ofValue_eq_ok_some_iff, exists_spells_iff]
  · intro cause
    rw [ofValue_eq_error_iff, ← exists_spells_iff, not_exists]
  · intro r s h_left h_right
    rw [ofValue_eq_ok_some_iff] at h_left h_right
    exact ⟨h_left.eq_iff h_right, h_left.sameData_iff h_right⟩
  · exact fun r => ⟨r.toValue, ofValue_toValue r⟩

/-- The output of a nested stack is written in two ways; a dotted name of a resource in only one. -/
theorem nestedOutput_distinguished :
    let pair := Value.object [("Fn::GetAtt", .array [.string "Blog", .string "Outputs.Arn"])]
    let dotted := Value.object [("Fn::GetAtt", .string "Blog.Outputs.Arn")]
    let other := Value.object [("Fn::GetAtt", .array [.string "Blog.Outputs", .string "Arn"])]
    ofValue pair = .ok (some (.attributeOf "Blog" "Outputs.Arn")) ∧
      ofValue dotted = .ok (some (.attributeOf "Blog" "Outputs.Arn")) ∧
      ofValue other = .ok (some (.attributeOf "Blog.Outputs" "Arn")) ∧
      Respells pair dotted ∧ ¬ Respells other dotted := by
  intro pair dotted other
  have h_pair : ofValue pair = .ok (some (.attributeOf "Blog" "Outputs.Arn")) := rfl
  have h_dotted : ofValue dotted = .ok (some (.attributeOf "Blog" "Outputs.Arn")) := rfl
  have h_other : ofValue other = .ok (some (.attributeOf "Blog.Outputs" "Arn")) := rfl
  obtain ⟨-, -, -, -, -, h_same, -⟩ := ofValue_distinguishes pair dotted
  obtain ⟨-, -, -, -, -, h_apart, -⟩ := ofValue_distinguishes other dotted
  have h_notation : pair ≠ dotted := by simp [pair, dotted]
  have h_distinct : attributeOf "Blog.Outputs" "Arn" ≠ attributeOf "Blog" "Outputs.Arn" := by simp
  refine ⟨h_pair, h_dotted, h_other, ?_, ?_⟩
  · exact ((h_same _ _ h_pair h_dotted).1.1 rfl).resolve_left h_notation
  · exact fun respells => h_distinct ((h_apart _ _ h_other h_dotted).1.2 (Or.inr respells))

end Reference

end ResourceGraph
