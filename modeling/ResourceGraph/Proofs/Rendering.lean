import Mathlib.Data.List.DropRight
import ResourceGraph.Proofs.Carriers

/-! # Rendered text

An expression for text can be rendered as a whole, or its carrier can be picked out of it.  The
two agree at the end: rendered text ends in the carrier.  That they have the same last segment
takes more, a separator in the carrier or right before it
(`Expression.lastSegment?_append_eq_iff`).

Expressions that lead nowhere (`Value.LeadsNowhere`) are the exception.  At some depth they join
no parts at all, so there is no carrier, and yet a text may be rendered.
-/

namespace ResourceGraph

/-! ## Last segments -/

namespace Text

variable {separates : Char → Bool} {cs : List Char}

/-- A separator at the end keeps text in front away. -/
theorem afterLast_append_of_mem (front : List Char) (h_some : ∃ c ∈ cs, separates c = true) :
    afterLast separates (front ++ cs) = afterLast separates cs := by
  obtain ⟨c, member, h_separator⟩ := h_some
  obtain ⟨before, after, rfl⟩ := List.append_of_mem member
  rw [← List.append_assoc, afterLast_append h_separator, afterLast_append h_separator]

theorem afterLast_append_of_none (front : List Char)
    (none_separates : ∀ c ∈ cs, separates c = false) :
    afterLast separates (front ++ cs) = afterLast separates front ++ cs := by
  unfold afterLast
  rw [List.reverse_append, List.takeWhile_append_of_pos, List.reverse_append, List.reverse_reverse]
  intro c member
  simp [none_separates c (List.mem_reverse.1 member)]

theorem afterLast_eq_nil_iff :
    afterLast separates cs = [] ↔
      cs = [] ∨ ∃ before c, cs = before ++ [c] ∧ separates c = true := by
  rcases List.eq_nil_or_concat' cs with rfl | ⟨before, c, rfl⟩
  · simp [afterLast]
  · simp [afterLast, List.takeWhile_cons]

/-- Text is cut in two behind its last separator. -/
theorem exists_append_afterLast (separates : Char → Bool) (cs : List Char) :
    ∃ front, cs = front ++ afterLast separates cs ∧ afterLast separates front = [] ∧
      ∀ c ∈ afterLast separates cs, separates c = false := by
  refine ⟨cs.rdropWhile fun c => !separates c, ?_, ?_, ?_⟩
  · exact (List.rdropWhile_append_rtakeWhile (p := fun c => !separates c)).symm
  · exact List.rtakeWhile_eq_nil_iff.2 (List.rdropWhile_last_not _ _)
  · intro c member
    simpa using List.mem_rtakeWhile_imp member

end Text

namespace Expression

variable {s t front : String}

theorem lastSegment?_eq_iff :
    lastSegment? s = lastSegment? t ↔
      Text.afterLast endsSegment s.toList = Text.afterLast endsSegment t.toList := by
  unfold lastSegment?
  split <;> split <;> simp_all [String.ofList_inj]

theorem exists_endsSegment_iff :
    (∃ c ∈ s.toList, endsSegment c = true) ↔ ':' ∈ s.toList ∨ '/' ∈ s.toList := by
  simp [endsSegment, and_or_left, exists_or]

theorem isParent_iff : IsParent front ↔ Text.afterLast endsSegment front.toList = [] := by
  rw [Text.afterLast_eq_nil_iff, IsParent, String.toList_eq_nil_iff]
  refine or_congr Iff.rfl ⟨?_, ?_⟩
  · rintro ⟨path, rfl | rfl⟩
    · exact ⟨path.toList, ':', by simp, rfl⟩
    · exact ⟨path.toList, '/', by simp, rfl⟩
  · rintro ⟨path, c, h_front, h_separator⟩
    refine ⟨String.ofList path, ?_⟩
    simp only [endsSegment, Bool.or_eq_true, beq_iff_eq] at h_separator
    simp only [← String.toList_inj, String.toList_append, String.toList_ofList, h_front]
    rcases h_separator with rfl | rfl <;> simp

/-- Text in front of a text does not change its last segment if and only if the text holds a
    separator, or starts behind one. -/
theorem lastSegment?_append_eq_iff :
    lastSegment? s = lastSegment? (front ++ s) ↔
      ':' ∈ s.toList ∨ '/' ∈ s.toList ∨ IsParent front := by
  rw [lastSegment?_eq_iff, String.toList_append, ← or_assoc, ← exists_endsSegment_iff]
  by_cases h_some : ∃ c ∈ s.toList, endsSegment c = true
  · simp only [Text.afterLast_append_of_mem _ h_some, h_some, true_or]
  · have h_none : ∀ c ∈ s.toList, endsSegment c = false := by simpa using h_some
    rw [Text.afterLast_append_of_none _ h_none, Text.afterLast_of_none h_none, isParent_iff]
    simp only [h_some, false_or]
    rw [eq_comm, List.append_left_eq_self]

theorem isSegment_ofList {cs : List Char} (h_some : cs ≠ [])
    (none_separates : ∀ c ∈ cs, endsSegment c = false) : IsSegment (String.ofList cs) where
  nonempty := by simpa [← String.toList_inj] using h_some
  no_colon member := by simpa [endsSegment] using none_separates ':' (by simpa using member)
  no_slash member := by simpa [endsSegment] using none_separates '/' (by simpa using member)

/-- The last segment of a text stands at its end, behind a separator unless it is all of it. -/
theorem lastSegment?_eq_some_iff :
    lastSegment? s = some t ↔
      ∃ directory, s = directory ++ t ∧ IsParent directory ∧ IsSegment t := by
  constructor
  · intro found
    obtain ⟨directory, h_text, h_parent, h_segment⟩ :=
      Text.exists_append_afterLast endsSegment s.toList
    unfold lastSegment? at found
    split at found
    next => cases found
    next c cs h_last =>
      cases found
      rw [h_last] at h_text h_segment
      refine ⟨String.ofList directory, ?_, ?_, isSegment_ofList (List.cons_ne_nil c cs) h_segment⟩
      · rw [← String.toList_inj, h_text, String.toList_append, String.toList_ofList,
          String.toList_ofList]
      · rw [isParent_iff, String.toList_ofList, h_parent]
  · rintro ⟨directory, rfl, parent, segment⟩
    exact lastSegment?_append parent segment

end Expression

/-- The last segment of a carrier. -/
theorem Value.carriedSegment?_eq_some_iff {v : Value} {segment : String} :
    v.carrier?.bind Expression.lastSegment? = some segment ↔
      ∃ directory, v.Carries (directory ++ segment) ∧ Expression.IsParent directory ∧
        Expression.IsSegment segment := by
  simp only [Option.bind_eq_some_iff, Value.carrier?_eq_some_iff,
    Expression.lastSegment?_eq_some_iff]
  constructor
  · rintro ⟨_, carries, directory, rfl, placed⟩
    exact ⟨directory, carries, placed⟩
  · rintro ⟨directory, carries, placed⟩
    exact ⟨_, carries, directory, rfl, placed⟩

/-! ## Rendering -/

/-- Following the second choices and the last parts leads to a join without parts. -/
inductive Value.LeadsNowhere : Value → Prop where
  | joinNothing (separator : Value) :
      LeadsNowhere (.object [("Fn::Join", .array [separator, .array []])])
  | choice (condition first : Value) {otherwise : Value} (rest : LeadsNowhere otherwise) :
      LeadsNowhere (.object [("Fn::If", .array [condition, first, otherwise])])
  | join (separator : Value) (parts : List Value) {last : Value} (rest : LeadsNowhere last) :
      LeadsNowhere (.object [("Fn::Join", .array [separator, .array (parts ++ [last])])])

namespace Value

variable {s : String}

theorem renderAll?_ofItems (parts : List Value) :
    Expression.renderAll? (Expression.ofItems parts) = parts.mapM render? := by
  induction parts with
  | nil => rfl
  | cons part rest ih =>
    have h_part : (Expression.ofValue part).render? = part.render? := rfl
    rw [Expression.ofItems, Expression.renderAll?, ih, List.mapM_cons, h_part]
    cases part.render? <;> cases rest.mapM render? <;> rfl

theorem render?_join_eq_some_iff {separator : Option String} {parts : List Expression} :
    (Expression.join separator parts).render? = some s ↔
      ∃ texts between, Expression.renderAll? parts = some texts ∧ separator = some between ∧
        between.intercalate texts = s := by
  rw [Expression.render?.eq_def]
  cases h_texts : Expression.renderAll? parts <;> cases separator <;> simp [h_texts]

/-- Joined parts are rendered to text that ends in the text of the last part. -/
theorem exists_render?_of_join {separator last : Value} {parts : List Value}
    (rendered : (object [("Fn::Join", .array [separator, .array (parts ++ [last])])]).render? =
      some s) :
    ∃ front text, last.render? = some text ∧ s = front ++ text := by
  obtain ⟨texts, between, h_texts, -, rfl⟩ := render?_join_eq_some_iff.1 rendered
  simp only [renderAll?_ofItems, List.mapM_append, List.mapM_cons, List.mapM_nil,
    Option.bind_eq_bind, Option.bind_eq_some_iff, Option.pure_def, Option.some.injEq] at h_texts
  obtain ⟨before, -, -, ⟨text, h_last, -, rfl, rfl⟩, rfl⟩ := h_texts
  by_cases h_empty : before = []
  · exact ⟨"", text, h_last, by simp [h_empty]⟩
  · refine ⟨between.intercalate before ++ between, text, h_last, ?_⟩
    rw [String.intercalate_append_of_ne_nil h_empty (List.cons_ne_nil _ _),
      String.intercalate_singleton]

/-- A format is rendered as it stands. -/
theorem render?_format {text : String} {bound : Bool}
    (rendered : (Expression.format text bound).render? = some s) : s = text := by
  rw [Expression.render?] at rendered
  split at rendered
  · cases rendered
  · exact (Option.some.inj rendered).symm

theorem leadsNowhere_or_endsIn_carrier {v : Value} (rendered : v.render? = some s) :
    (v.carrier? = none ∧ v.LeadsNowhere) ∨ ∃ front c, v.carrier? = some c ∧ s = front ++ c := by
  -- the way to the carrier is the same for both; only a join without parts has no way to go
  induction v using expressionInduction generalizing s with
  | text s' =>
    cases rendered
    exact Or.inr ⟨"", s', rfl, by simp⟩
  | choice condition first otherwise ih =>
    rcases ih rendered with ⟨h_none, nowhere⟩ | h_carrier
    · exact Or.inl ⟨h_none, .choice condition first nowhere⟩
    · exact Or.inr h_carrier
  | format s' => exact Or.inr ⟨"", s', rfl, by simpa using render?_format rendered⟩
  | formatWith s' values => exact Or.inr ⟨"", s', rfl, by simpa using render?_format rendered⟩
  | joinNothing separator => exact Or.inl ⟨rfl, .joinNothing separator⟩
  | join separator parts last ih =>
    obtain ⟨front, text, h_last, rfl⟩ := exists_render?_of_join rendered
    rcases ih h_last with ⟨h_none, nowhere⟩ | ⟨before, c, h_carrier, rfl⟩
    · exact Or.inl ⟨by simpa using h_none, .join separator parts nowhere⟩
    · exact Or.inr ⟨front ++ before, c, by simpa using h_carrier, by simp [String.append_assoc]⟩
  | other v h_other => simp [render?, h_other, Expression.render?] at rendered

/-- Rendered text ends in the carrier, unless there is none because a join without parts stands
    where it would be.  The two have the same last segment if and only if the carrier holds a
    separator, or starts behind one. -/
theorem render?_endsIn_carrier {v : Value} (rendered : v.render? = some s) :
    (v.carrier? = none ∧ v.LeadsNowhere) ∨
      ∃ front c, v.carrier? = some c ∧ s = front ++ c ∧
        (Expression.lastSegment? c = Expression.lastSegment? s ↔
          ':' ∈ c.toList ∨ '/' ∈ c.toList ∨ Expression.IsParent front) := by
  rcases leadsNowhere_or_endsIn_carrier rendered with nowhere | ⟨front, c, h_carrier, rfl⟩
  · exact Or.inl nowhere
  · exact Or.inr ⟨front, c, h_carrier, rfl, Expression.lastSegment?_append_eq_iff⟩

/-- An address whose last part depends on a condition and does not start a segment. -/
def dashedAddress : Value :=
  .object [("Fn::Join", .array [.string "-", .array [.string "arn:blog",
    .object [("Fn::If", .array [.string "Live", .string "live",
      .object [("Fn::Sub", .array [.string "post"])]])]]])]

theorem dashedAddress_segments :
    dashedAddress.render? = some "arn:blog-post" ∧ dashedAddress.carrier? = some "post" ∧
      Expression.lastSegment? "post" ≠ Expression.lastSegment? "arn:blog-post" := by
  have rendered : dashedAddress.render? = some "arn:blog-post" := by decide
  refine ⟨rendered, rfl, ?_⟩
  rcases render?_endsIn_carrier rendered with ⟨h_none, -⟩ | ⟨front, c, h_carrier, h_text, h_same⟩
  · cases h_none
  · cases h_carrier
    have h_front : front = "arn:blog-" := by
      apply String.append_left_inj "post" |>.1
      exact h_text.symm
    subst h_front
    rw [Ne, h_same, Expression.isParent_iff]
    decide

end Value

end ResourceGraph
