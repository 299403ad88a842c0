import Mathlib.Data.List.Basic
import ResourceGraph.Expression

/-! # Carriers and segments

What is read off an expression for text without evaluating it.  `Value.Carries` follows the text
functions inwards to the text that carries the value, with one constructor for each of them, and
`Value.carrier?_eq_some_iff` proves the reader sound and complete for it by induction along that
way.  The last segment of a path is whatever stands behind its last separator, as long as no
separator stands in it (`Expression.lastSegment?_append`).
-/

namespace ResourceGraph

/-! ## Carriers -/

/-- The text that carries a value: the text itself, the format, or what carries the second choice or
    the last part. -/
inductive Value.Carries : Value → String → Prop where
  | text (s : String) : Carries (.string s) s
  | choice (condition first : Value) {otherwise : Value} {s : String}
      (carries : Carries otherwise s) :
      Carries (.object [("Fn::If", .array [condition, first, otherwise])]) s
  | format (s : String) : Carries (.object [("Fn::Sub", .string s)]) s
  | formatWith (s : String) (values : List Value) :
      Carries (.object [("Fn::Sub", .array (.string s :: values))]) s
  | join (separator : Value) (parts : List Value) {last : Value} {s : String}
      (carries : Carries last s) :
      Carries (.object [("Fn::Join", .array [separator, .array (parts ++ [last])])]) s

namespace Expression

theorem ofItems_eq_map (items : List Value) : ofItems items = items.map ofValue := by
  induction items with
  | nil => rfl
  | cons v rest ih => rw [ofItems, ih, List.map_cons]

theorem lastCarrier?_concat (parts : List Expression) (last : Expression) :
    lastCarrier? (parts ++ [last]) = carrier? last := by
  induction parts with
  | nil => rfl
  | cons e rest ih =>
    cases rest with
    | nil => rfl
    | cons next more => exact ih

end Expression

namespace Value

/-! ### Along the way to the carrier -/

/-- What holds of texts, of formats, of joined parts if it holds of the last one, of a choice if it
    holds of the second one, and of what is no expression for text, holds of every value. -/
theorem expressionInduction {P : Value → Prop} (text : ∀ s, P (.string s))
    (choice : ∀ condition first otherwise, P otherwise →
      P (.object [("Fn::If", .array [condition, first, otherwise])]))
    (format : ∀ s, P (.object [("Fn::Sub", .string s)]))
    (formatWith : ∀ s values, P (.object [("Fn::Sub", .array (.string s :: values))]))
    (joinNothing : ∀ separator, P (.object [("Fn::Join", .array [separator, .array []])]))
    (join : ∀ separator parts last, P last →
      P (.object [("Fn::Join", .array [separator, .array (parts ++ [last])])]))
    (other : ∀ v, Expression.ofValue v = .other → P v) : ∀ v, P v
  | .string s => text s
  | .object [(name, payload)] => by
    cases h_name : TextFunction.ofName? name with
    | none => exact other _ (by unfold Expression.ofValue; simp [h_name])
    | some f =>
      obtain rfl := TextFunction.ofName?_eq_some_iff.1 h_name
      cases f with
      | choose =>
        by_cases h_payload : ∃ condition first otherwise,
            payload = .array [condition, first, otherwise]
        · obtain ⟨condition, first, otherwise, rfl⟩ := h_payload
          exact choice condition first otherwise
            (expressionInduction text choice format formatWith joinNothing join other otherwise)
        · apply other
          unfold Expression.ofValue
          simp only [h_name]
          split <;> simp_all
      | substitute =>
        by_cases h_payload : ∃ s values,
            payload = .string s ∨ payload = .array (.string s :: values)
        · obtain ⟨s, values, rfl | rfl⟩ := h_payload
          · exact format s
          · exact formatWith s values
        · apply other
          unfold Expression.ofValue
          simp only [h_name]
          split <;> simp_all
      | join =>
        by_cases h_payload : ∃ separator parts, payload = .array [separator, .array parts]
        · obtain ⟨separator, parts, rfl⟩ := h_payload
          rcases List.eq_nil_or_concat' parts with rfl | ⟨earlier, last, rfl⟩
          · exact joinNothing separator
          · exact join separator earlier last
              (expressionInduction text choice format formatWith joinNothing join other last)
        · apply other
          unfold Expression.ofValue
          simp only [h_name]
          split <;> simp_all
  | .null | .bool _ | .integer _ | .decimal _ | .array _ => other _ rfl
  | .object [] | .object (_ :: _ :: _) => other _ rfl
termination_by v => sizeOf v
decreasing_by
  · subst_vars
    simp
    omega
  · have h_last : sizeOf last < sizeOf (earlier ++ [last]) :=
      List.sizeOf_lt_of_mem (List.mem_append_right _ List.mem_cons_self)
    subst_vars
    simp
    omega

@[simp] theorem carrier?_join (separator : Value) (parts : List Value) (last : Value) :
    (object [("Fn::Join", .array [separator, .array (parts ++ [last])])]).carrier? =
      last.carrier? := by
  show Expression.lastCarrier? (Expression.ofItems (parts ++ [last])) = _
  rw [Expression.ofItems_eq_map, List.map_append]
  exact Expression.lastCarrier?_concat _ _

theorem carrier?_of_other {v : Value} (h_other : Expression.ofValue v = .other) :
    v.carrier? = none := by
  simp [carrier?, h_other, Expression.carrier?]

theorem carrier?_of_carries {v : Value} {s : String} (carries : v.Carries s) :
    v.carrier? = some s := by
  induction carries with
  | text s => rfl
  | choice condition first _ ih => exact ih
  | format s => rfl
  | formatWith s values => rfl
  | join separator parts _ ih => simpa using ih

theorem carries_of_carrier? {v : Value} {s : String} (found : v.carrier? = some s) :
    v.Carries s := by
  induction v using expressionInduction with
  | text s' => cases found; exact .text _
  | choice condition first otherwise ih => exact .choice condition first (ih found)
  | format s' => cases found; exact .format _
  | formatWith s' values => cases found; exact .formatWith _ values
  | joinNothing separator => cases found
  | join separator parts last ih => exact .join separator parts (ih (by simpa using found))
  | other v h_other => simp [carrier?_of_other h_other] at found

/-- The carriers are what the nesting of text functions leads to. -/
theorem carrier?_eq_some_iff {v : Value} {s : String} : v.carrier? = some s ↔ v.Carries s :=
  ⟨carries_of_carrier?, carrier?_of_carries⟩

end Value

/-! ## Segments -/

namespace Expression

variable {directory s : String}

/-- What can stand between the separators of a path. -/
structure IsSegment (s : String) : Prop where
  nonempty : s ≠ ""
  no_colon : ':' ∉ s.toList
  no_slash : '/' ∉ s.toList

/-- What can stand before a segment. -/
def IsParent (directory : String) : Prop :=
  directory = "" ∨ ∃ path, directory = path ++ ":" ∨ directory = path ++ "/"

theorem IsSegment.not_endsSegment (segment : IsSegment s) :
    ∀ c ∈ s.toList, endsSegment c = false := by
  intro c member
  have h_colon : c ≠ ':' := fun same => segment.no_colon (same ▸ member)
  have h_slash : c ≠ '/' := fun same => segment.no_slash (same ▸ member)
  simp [endsSegment, h_colon, h_slash]

theorem IsSegment.of_append {rest : String} (segment : IsSegment (s ++ rest)) (nonempty : s ≠ "") :
    IsSegment s where
  nonempty := nonempty
  no_colon member := segment.no_colon (by simp [member])
  no_slash member := segment.no_slash (by simp [member])

theorem afterLast_of_isParent (parent : IsParent directory) (cs : List Char) :
    Text.afterLast endsSegment (directory.toList ++ cs) = Text.afterLast endsSegment cs := by
  rcases parent with rfl | ⟨path, rfl | rfl⟩
  · rfl
  · have h_colon : (path ++ ":").toList ++ cs = path.toList ++ ':' :: cs := by simp
    rw [h_colon, Text.afterLast_append rfl]
  · have h_slash : (path ++ "/").toList ++ cs = path.toList ++ '/' :: cs := by simp
    rw [h_slash, Text.afterLast_append rfl]

theorem lastSegment?_append (parent : IsParent directory) (segment : IsSegment s) :
    lastSegment? (directory ++ s) = some s := by
  unfold lastSegment?
  rw [String.toList_append, afterLast_of_isParent parent,
    Text.afterLast_of_none segment.not_endsSegment]
  cases h_s : s.toList with
  | nil => exact absurd (String.toList_inj.1 h_s) segment.nonempty
  | cons c cs => simp only [← h_s, String.ofList_toList]

end Expression

end ResourceGraph
