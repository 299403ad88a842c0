import ResourceGraph.Proofs.Spelling

/-! # Strict and lenient resolution

A reference that has to lead somewhere, and one that may lead nowhere.  `Reference.FailsBy` has
the reasons why a value is not resolved strictly: it spells no reference, or it looks up an
attribute of an unknown resource.  There are no others, and each of them is no name to lenient
resolution.  How the two modes go together, what they read of the resources and what is found
under a resolved name is stated in `lenient_refines_strict`.
-/

namespace ResourceGraph

namespace Reference

/-- Why a value is not resolved strictly. -/
inductive FailsBy (resources : ResourceMap) (stack : Option String) (v : Value) : Problem → Prop where
  /-- The value is there, but it is no expression for a reference. -/
  | unrecognised (given : v ≠ .null) (unspelled : ∀ reference, ¬ Spells v reference)
      (no_lookup : ∀ payload, v ≠ .object [("Fn::GetAtt", payload)]) :
      FailsBy resources stack v ⟨.unrecognisedExpression v, none, none⟩
  | malformed (payload : Value) (h_lookup : v = .object [("Fn::GetAtt", payload)])
      (unspelled : ∀ reference, ¬ Spells v reference) :
      FailsBy resources stack v ⟨.malformedAttributeLookup payload, none, none⟩
  | dangling (target member : String) (spells : Spells v (.attributeOf target member))
      (absent : target ∉ resources.keys) :
      FailsBy resources stack v ⟨.danglingLookup target member, stack, none⟩

variable {resources others : ResourceMap} {stack : Option String} {v : Value} {mode : Strictness}
  {reference : Reference} {name : Option String} {problem : Problem}

/-! ## References -/

theorem resolve_congr (same : ∀ key, key ∈ others.keys ↔ key ∈ resources.keys) :
    reference.resolve mode others stack = reference.resolve mode resources stack := by
  cases reference with
  | attributeOf target member =>
    simp only [resolve, OrderedMap.contains_iff_mem_keys, same]
  | literal _ | named _ | interpolated _ _ => rfl

/-- A reference is the same name in both modes, or an attribute of an unknown resource. -/
theorem resolve_cases (resources : ResourceMap) (stack : Option String) (reference : Reference) :
    (∃ name, ∀ mode, reference.resolve mode resources stack = .ok name) ∨
      ∃ target member, reference = .attributeOf target member ∧ target ∉ resources.keys ∧
        reference.resolve .lenient resources stack = .ok none ∧
        reference.resolve .strict resources stack =
          .error ⟨.danglingLookup target member, stack, none⟩ := by
  cases reference with
  | literal s => exact Or.inl ⟨some s, fun _ => rfl⟩
  | named resource => exact Or.inl ⟨some resource, fun _ => rfl⟩
  | interpolated function payload => exact Or.inl ⟨_, fun _ => rfl⟩
  | attributeOf target member =>
    by_cases h_known : target ∈ resources.keys
    · exact Or.inl ⟨some target, fun _ => by
        simp [resolve, OrderedMap.contains_iff_mem_keys, h_known]⟩
    · refine Or.inr ⟨target, member, rfl, h_known, ?_, ?_⟩ <;>
        simp [resolve, OrderedMap.contains_iff_mem_keys, h_known]

/-! ## Values -/

theorem resolveValue_of_spells (spells : Spells v reference) (mode : Strictness) :
    resolveValue mode resources stack v = reference.resolve mode resources stack := by
  simp [resolveValue, ofValue_eq_ok_some_iff.2 spells, resolveOption]

theorem failsBy_blame (h_given : v ≠ .null) (unspelled : ∀ reference, ¬ Spells v reference) :
    FailsBy resources stack v ⟨blame v, none, none⟩ := by
  by_cases h_lookup : ∃ payload, v = .object [("Fn::GetAtt", payload)]
  · obtain ⟨payload, rfl⟩ := h_lookup
    exact .malformed payload rfl unspelled
  · have no_lookup : ∀ payload, v ≠ .object [("Fn::GetAtt", payload)] := by simpa using h_lookup
    rw [blame_of_no_lookup no_lookup]
    exact .unrecognised h_given unspelled no_lookup

/-- A value is the same name in both modes, or no name and a problem. -/
theorem resolveValue_cases (resources : ResourceMap) (stack : Option String) (v : Value) :
    (∃ name, ∀ mode, resolveValue mode resources stack v = .ok name) ∨
      ∃ problem, FailsBy resources stack v problem ∧
        resolveValue .lenient resources stack v = .ok none ∧
        resolveValue .strict resources stack v = .error problem := by
  cases h_value : ofValue v with
  | ok found =>
    cases found with
    | none => exact Or.inl ⟨none, fun _ => by simp [resolveValue, h_value, resolveOption]⟩
    | some reference =>
      have spells := ofValue_eq_ok_some_iff.1 h_value
      simp only [resolveValue_of_spells spells]
      rcases resolve_cases resources stack reference with
        h_name | ⟨target, member, rfl, absent, h_lenient, h_strict⟩
      · exact Or.inl h_name
      · exact Or.inr ⟨_, .dangling target member spells absent, h_lenient, h_strict⟩
  | error cause =>
    obtain ⟨h_given, unspelled, rfl⟩ := ofValue_eq_error_iff.1 h_value
    exact Or.inr ⟨_, failsBy_blame h_given unspelled, by simp [resolveValue, h_value],
      by simp [resolveValue, h_value]⟩

/-- Reasons to fail decide the problem. -/
theorem resolveValue_strict_of_failsBy (fails : FailsBy resources stack v problem) :
    resolveValue .strict resources stack v = .error problem := by
  cases fails with
  | unrecognised given unspelled no_lookup =>
    have h_blame := (blame_of_no_lookup no_lookup).symm
    simp [resolveValue, ofValue_eq_error_iff.2 ⟨given, unspelled, h_blame⟩]
  | malformed payload h_lookup unspelled =>
    subst h_lookup
    have h_error : ofValue (.object [("Fn::GetAtt", payload)]) =
        .error (.malformedAttributeLookup payload) :=
      ofValue_eq_error_iff.2 ⟨nofun, unspelled, rfl⟩
    simp [resolveValue, h_error]
  | dangling target member spells absent =>
    rw [resolveValue_of_spells spells]
    simp [resolve, OrderedMap.contains_iff_mem_keys, absent]

theorem resolveValue_strict_eq_error_iff :
    resolveValue .strict resources stack v = .error problem ↔ FailsBy resources stack v problem := by
  refine ⟨?_, resolveValue_strict_of_failsBy⟩
  intro failed
  rcases resolveValue_cases resources stack v with ⟨name, h_name⟩ | ⟨other, fails, -, h_strict⟩
  · rw [h_name] at failed
    cases failed
  · rw [h_strict] at failed
    cases failed
    exact fails

theorem resolveValue_lenient_of_failsBy (fails : FailsBy resources stack v problem) :
    resolveValue .lenient resources stack v = .ok none := by
  rcases resolveValue_cases resources stack v with ⟨name, h_name⟩ | ⟨other, -, h_lenient, -⟩
  · have h_strict := resolveValue_strict_of_failsBy fails
    rw [h_name] at h_strict
    cases h_strict
  · exact h_lenient

theorem FailsBy.kind (fails : FailsBy resources stack v problem) :
    problem.cause.kind = .invalidTemplate ∨ problem.cause.kind = .danglingReference := by
  cases fails with
  | unrecognised _ _ _ => exact Or.inl rfl
  | malformed _ _ _ => exact Or.inl rfl
  | dangling _ _ _ _ => exact Or.inr rfl

theorem resolveValue_keys_congr (same : ∀ key, key ∈ others.keys ↔ key ∈ resources.keys) :
    resolveValue mode others stack v = resolveValue mode resources stack v := by
  unfold resolveValue resolveOption
  simp only [resolve_congr same]

/-- What is found under a name is the resource that the name has. -/
theorem exists_find (resolved : resolveValue mode resources stack v = .ok name) :
    ∃ found, find mode resources stack v = .ok found ∧
      ∀ key record, found = some (key, record) ↔
        name = some key ∧ resources.get? key = some record := by
  refine ⟨fetch resources name, by simp [find, resolved], ?_⟩
  intro key record
  cases name with
  | none => simp [fetch]
  | some held =>
    simp only [fetch, Option.bind_some, Option.map_eq_some_iff, Prod.mk.injEq, Option.some.injEq]
    constructor
    · rintro ⟨_, h_held, rfl, rfl⟩
      exact ⟨rfl, h_held⟩
    · rintro ⟨rfl, h_held⟩
      exact ⟨record, h_held, rfl, rfl⟩

/-- Lenient resolution always has an answer, the one of strict resolution if that has one.  Strict
    resolution fails by values that spell no reference and by unknown resources, and then the lenient
    answer is no name.  Both read nothing but the names of the resources, and what is found is the
    resource of the name. -/
theorem lenient_refines_strict (resources : ResourceMap) (stack : Option String) (v : Value) :
    (∃ name, resolveValue .lenient resources stack v = .ok name ∧
        ∀ found, resolveValue .strict resources stack v = .ok found → name = found) ∧
      (∀ problem, resolveValue .strict resources stack v = .error problem ↔
        FailsBy resources stack v problem) ∧
      (∀ problem, FailsBy resources stack v problem →
        (problem.cause.kind = .invalidTemplate ∨ problem.cause.kind = .danglingReference) ∧
          resolveValue .lenient resources stack v = .ok none) ∧
      (∀ mode others, (∀ key, key ∈ others.keys ↔ key ∈ resources.keys) →
        resolveValue mode others stack v = resolveValue mode resources stack v) ∧
      ∀ mode name, resolveValue mode resources stack v = .ok name →
        ∃ found, find mode resources stack v = .ok found ∧
          ∀ key record, found = some (key, record) ↔
            name = some key ∧ resources.get? key = some record := by
  refine ⟨?_, fun _ => resolveValue_strict_eq_error_iff, ?_, ?_, fun _ _ => exists_find⟩
  · rcases resolveValue_cases resources stack v with ⟨name, h_name⟩ | ⟨_, -, h_lenient, h_strict⟩
    · refine ⟨name, h_name .lenient, fun found h_found => ?_⟩
      rw [h_name] at h_found
      exact Except.ok.inj h_found
    · refine ⟨none, h_lenient, fun found h_found => ?_⟩
      rw [h_strict] at h_found
      cases h_found
  · exact fun _ fails => ⟨fails.kind, resolveValue_lenient_of_failsBy fails⟩
  · exact fun _ _ => resolveValue_keys_congr

/-- A stack of one resource. -/
def postReader (kind : String) : ResourceMap := .ofList [("PostReader", ⟨kind, [], []⟩)]

def lookUp (resource member : String) : Value :=
  .object [("Fn::GetAtt", .string (resource ++ "." ++ member))]

theorem lookUp_resolved :
    let resources := postReader Resource.functionKind
    let known := lookUp "PostReader" "FunctionId"
    let unknown := lookUp "PageReader" "FunctionId"
    resolveValue .strict resources (some "Blog") known = .ok (some "PostReader") ∧
      resolveValue .lenient resources (some "Blog") known = .ok (some "PostReader") ∧
      (∃ record, find .strict resources (some "Blog") known = .ok (some ("PostReader", record))) ∧
      resolveValue .strict (postReader Resource.lambdaKind) (some "Blog") known =
        .ok (some "PostReader") ∧
      resolveValue .strict resources (some "Blog") unknown =
        .error ⟨.danglingLookup "PageReader" "FunctionId", some "Blog", none⟩ ∧
      resolveValue .lenient resources (some "Blog") unknown = .ok none := by
  intro resources known unknown
  have h_strict : resolveValue .strict resources (some "Blog") known = .ok (some "PostReader") :=
    rfl
  obtain ⟨⟨name, h_lenient, h_same⟩, -, -, h_keys, h_find⟩ :=
    lenient_refines_strict resources (some "Blog") known
  obtain ⟨-, h_fails, h_none, -, -⟩ := lenient_refines_strict resources (some "Blog") unknown
  obtain ⟨found, h_found, h_record⟩ := h_find .strict _ h_strict
  have fails : FailsBy resources (some "Blog") unknown
      ⟨.danglingLookup "PageReader" "FunctionId", some "Blog", none⟩ :=
    .dangling "PageReader" "FunctionId" (.dotted _ _ (by decide)) (by decide)
  refine ⟨h_strict, ?_, ?_, ?_, (h_fails _).2 fails, (h_none _ fails).2⟩
  · rw [h_lenient, h_same _ h_strict]
  · refine ⟨⟨Resource.functionKind, [], []⟩, ?_⟩
    rw [h_found, (h_record "PostReader" _).2 ⟨rfl, rfl⟩]
  · rw [h_keys .strict (postReader Resource.lambdaKind) fun _ => Iff.rfl, h_strict]

end Reference

end ResourceGraph
