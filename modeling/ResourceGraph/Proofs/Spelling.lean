import ResourceGraph.Reference

/-! # The spelling of references

`Reference.Spells` is the grammar of references, and the values read as references are those of
the grammar (`ofGiven_eq_ok_iff`).  For all other values `ofValue_eq_error_iff` says what they are
blamed for.  In both, dotted text is cut at its first dot (`splitDot_eq_some_iff`).
-/

namespace ResourceGraph

namespace Reference

/-! ## The grammar -/

/-- A value spells a reference: literal text, a name, an attribute in one of two notations, or one of
    the text functions with any payload. -/
inductive Spells : Value → Reference → Prop where
  | literal (s : String) : Spells (.string s) (.literal s)
  | named (resource : String) : Spells (.object [("Ref", .string resource)]) (.named resource)
  | pair (resource member : String) :
      Spells (.object [("Fn::GetAtt", .array [.string resource, .string member])])
        (.attributeOf resource member)
  | dotted (resource member : String) (no_dot : '.' ∉ resource.toList) :
      Spells (.object [("Fn::GetAtt", .string (resource ++ "." ++ member))])
        (.attributeOf resource member)
  | interpolated (function : TextFunction) (payload : Value) :
      Spells (.object [(function.name, payload)]) (.interpolated function payload)

variable {v payload : Value} {reference : Reference} {cause : Cause}

theorem splitDot_eq_some_iff {s resource member : String} :
    splitDot s = some (resource, member) ↔
      s = resource ++ "." ++ member ∧ '.' ∉ resource.toList := by
  unfold splitDot
  constructor
  · intro found
    split at found
    next first second more h_pieces =>
      simp only [Option.some.injEq, Prod.mk.injEq] at found
      obtain ⟨rfl, rfl⟩ := found
      have h_first : first ∈ Text.pieces '.' s.toList := by simp [h_pieces]
      have h_joined := Text.join_pieces '.' s.toList
      rw [h_pieces, Text.join] at h_joined
      refine ⟨?_, by simpa using Text.separator_not_mem_piece h_first⟩
      simp [← String.toList_inj, ← h_joined]
    next => cases found
  · rintro ⟨rfl, no_dot⟩
    have h_text : (resource ++ "." ++ member).toList = resource.toList ++ '.' :: member.toList := by
      simp
    rw [h_text, Text.pieces_append_cons no_dot]
    have h_joined := Text.join_pieces '.' member.toList
    cases h_pieces : Text.pieces '.' member.toList with
    | nil => exact absurd h_pieces (Text.pieces_ne_nil '.' _)
    | cons second more =>
      rw [h_pieces] at h_joined
      simp [h_joined]

theorem spells_of_ofAttributePayload (found : ofAttributePayload payload = .ok reference) :
    Spells (.object [("Fn::GetAtt", payload)]) reference := by
  unfold ofAttributePayload at found
  split at found
  next s =>
    split at found
    next resource member h_split =>
      cases found
      obtain ⟨rfl, no_dot⟩ := splitDot_eq_some_iff.1 h_split
      exact .dotted resource member no_dot
    next => cases found
  next resource member => cases found; exact .pair resource member
  next => cases found

theorem ofGiven_of_spells (spells : Spells v reference) : ofGiven v = .ok reference := by
  cases spells with
  | literal s => rfl
  | named resource => rfl
  | pair resource member => rfl
  | dotted resource member no_dot =>
    show ofAttributePayload (.string (resource ++ "." ++ member)) = _
    rw [ofAttributePayload, splitDot_eq_some_iff.2 ⟨rfl, no_dot⟩]
  | interpolated function payload => cases function <;> rfl

theorem spells_of_ofGiven (found : ofGiven v = .ok reference) : Spells v reference := by
  unfold ofGiven at found
  split at found
  next s => cases found; exact .literal s
  next name payload =>
    split at found
    next h_name =>
      subst h_name
      split at found
      next resource => cases found; exact .named resource
      next => cases found
    next =>
      split at found
      next h_name =>
        subst h_name
        exact spells_of_ofAttributePayload found
      next =>
        split at found
        next function h_function =>
          cases found
          obtain rfl := TextFunction.ofName?_eq_some_iff.1 h_function
          exact .interpolated function payload
        next => cases found
  next => cases found

/-- The values read as references are those of the grammar. -/
theorem ofGiven_eq_ok_iff : ofGiven v = .ok reference ↔ Spells v reference :=
  ⟨spells_of_ofGiven, ofGiven_of_spells⟩

/-! ## Values that spell nothing -/

/-- What a value is blamed for that should spell a reference. -/
def blame : Value → Cause
  | .object [("Fn::GetAtt", payload)] => .malformedAttributeLookup payload
  | v => .unrecognisedExpression v

theorem blame_of_no_lookup (no_lookup : ∀ payload, v ≠ .object [("Fn::GetAtt", payload)]) :
    blame v = .unrecognisedExpression v := by
  unfold blame
  split
  next payload => exact absurd rfl (no_lookup payload)
  next => rfl

theorem cause_of_ofAttributePayload (failed : ofAttributePayload payload = .error cause) :
    cause = .malformedAttributeLookup payload := by
  unfold ofAttributePayload at failed
  split at failed
  next =>
    split at failed
    next => cases failed
    next => cases failed; rfl
  next => cases failed
  next => cases failed; rfl

theorem eq_blame_of_ofGiven (failed : ofGiven v = .error cause) : cause = blame v := by
  unfold ofGiven at failed
  split at failed
  next => cases failed
  next name payload =>
    split at failed
    next h_name =>
      subst h_name
      split at failed
      next => cases failed
      next => cases failed; rfl
    next =>
      split at failed
      next h_name =>
        subst h_name
        exact cause_of_ofAttributePayload failed
      next h_name =>
        split at failed
        next => cases failed
        next =>
          cases failed
          simp [blame, h_name]
  next h_object =>
    cases failed
    unfold blame
    split
    next payload => exact absurd rfl (h_object _ _)
    next => rfl

theorem ofValue_of_given (h_given : v ≠ .null) : ofValue v = (ofGiven v).map some := by
  unfold ofValue
  split
  next => exact absurd rfl h_given
  next => cases ofGiven v <;> rfl

theorem ofValue_eq_ok_none_iff : ofValue v = .ok none ↔ v = .null := by
  by_cases h_null : v = .null
  · simp [h_null, ofValue]
  · rw [ofValue_of_given h_null]
    cases ofGiven v <;> simp [Except.map, h_null]

theorem ofValue_eq_ok_some_iff : ofValue v = .ok (some reference) ↔ Spells v reference := by
  rw [← ofGiven_eq_ok_iff]
  by_cases h_null : v = .null
  · simp [h_null, ofValue, ofGiven]
  · rw [ofValue_of_given h_null]
    cases ofGiven v <;> simp [Except.map]

/-- A value that is there and spells no reference is blamed, and no other one is. -/
theorem ofValue_eq_error_iff :
    ofValue v = .error cause ↔
      v ≠ .null ∧ (∀ reference, ¬ Spells v reference) ∧ cause = blame v := by
  by_cases h_null : v = .null
  · simp [h_null, ofValue]
  · rw [ofValue_of_given h_null]
    simp only [← ofGiven_eq_ok_iff]
    cases h_read : ofGiven v with
    | ok reference => simp [Except.map]
    | error cause => simp [Except.map, h_null, ← eq_blame_of_ofGiven h_read, eq_comm]

end Reference

end ResourceGraph
