import ResourceGraph.DataSource
import ResourceGraph.Proofs.Resolution

/-! # The data source of a function

A function is bound by way of the data source that it names.  Two predicates tell functions with a
source from functions without one (`Binding.IsSource`, `Binding.LacksSource`), and `Binding.Makes`
has the bindings that a source can make, a constructor for each kind.  The readers of the three
kinds that have a target are inverted one by one; `ofFunction_eq_ok_iff` puts them together.
-/

namespace ResourceGraph

namespace Binding

/-! ## The data source of a function -/

/-- A function names a resource of the stack as its data source. -/
structure IsSource (resources : ResourceMap) (function : Resource) (name : String)
    (record : Resource) : Prop where
  resolved : Reference.resolveValue .lenient resources .none (function.property "DataSourceName") =
    .ok (some name)
  named : name ≠ ""
  found : resources.get? name = some record

/-- A function names no resource of the stack as its data source. -/
inductive LacksSource (resources : ResourceMap) (function : Resource) : Prop where
  | unresolved (resolved : Reference.resolveValue .lenient resources .none
      (function.property "DataSourceName") = .ok .none)
  | unnamed (resolved : Reference.resolveValue .lenient resources .none
      (function.property "DataSourceName") = .ok (some ""))
  | unknown (name : String) (resolved : Reference.resolveValue .lenient resources .none
      (function.property "DataSourceName") = .ok (some name)) (absent : name ∉ resources.keys)

variable {resources : ResourceMap} {stack : Option String} {owner name : String}
  {function record : Resource} {b : Binding}

theorem fetch_sourceName?_eq_some_iff :
    Reference.fetch resources (sourceName? resources function) = some (name, record) ↔
      IsSource resources function name record := by
  unfold sourceName?
  constructor
  · intro found
    simp only [Reference.fetch, Option.bind_eq_some_iff, Option.map_eq_some_iff] at found
    obtain ⟨name, h_name, record, h_found, h_pair⟩ := found
    cases h_pair
    split at h_name
    next resolved h_resolved =>
      obtain ⟨_, rfl, h_named⟩ := Option.bind_eq_some_iff.1 h_name
      obtain ⟨rfl, named⟩ := MappingTemplate.nonempty?_eq_some_iff.1 h_named
      exact ⟨h_resolved, named, h_found⟩
    next => cases h_name
  · rintro ⟨resolved, named, h_found⟩
    simp [resolved, MappingTemplate.nonempty?_eq_some_iff.2 ⟨rfl, named⟩, Reference.fetch, h_found]

theorem fetch_sourceName?_of_lacksSource (lacks : LacksSource resources function) :
    Reference.fetch resources (sourceName? resources function) = .none := by
  unfold sourceName?
  cases lacks with
  | unresolved resolved => simp [resolved, Reference.fetch]
  | unnamed resolved => simp [resolved, Reference.fetch, MappingTemplate.nonempty?]
  | unknown name resolved absent =>
    rw [Option.eq_none_iff_forall_not_mem]
    rintro ⟨found, record⟩ member
    have source := fetch_sourceName?_eq_some_iff.1 member
    have h_name := resolved.symm.trans source.resolved
    rw [Except.ok.injEq, Option.some.injEq] at h_name
    subst h_name
    have h_none := OrderedMap.get?_eq_none_iff.2 absent
    rw [source.found] at h_none
    cases h_none

/-- A function has a data source or lacks one. -/
theorem isSource_or_lacksSource (resources : ResourceMap) (function : Resource) :
    (∃ name record, IsSource resources function name record) ∨ LacksSource resources function := by
  have h_resolved : ∃ name, Reference.resolveValue .lenient resources .none
      (function.property "DataSourceName") = .ok name := by
    rcases Reference.resolveValue_cases resources .none (function.property "DataSourceName") with
      ⟨name, h_name⟩ | ⟨_, -, h_lenient, -⟩
    · exact ⟨name, h_name .lenient⟩
    · exact ⟨.none, h_lenient⟩
  obtain ⟨name, resolved⟩ := h_resolved
  cases name with
  | none => exact Or.inr (.unresolved resolved)
  | some name =>
    by_cases h_empty : name = ""
    · subst h_empty
      exact Or.inr (.unnamed resolved)
    · cases h_found : resources.get? name with
      | some record => exact Or.inl ⟨name, record, resolved, h_empty, h_found⟩
      | none => exact Or.inr (.unknown name resolved (OrderedMap.get?_eq_none_iff.1 h_found))

theorem IsSource.ofFunction_eq (source : IsSource resources function name record) :
    ofFunction resources stack owner function = ofSource resources stack owner name record := by
  rw [ofFunction, fetch_sourceName?_eq_some_iff.2 source]

theorem LacksSource.ofFunction_eq (lacks : LacksSource resources function) :
    ofFunction resources stack owner function = .ok .none := by
  rw [ofFunction, fetch_sourceName?_of_lacksSource lacks]

/-! ## The binding of a data source -/

/-- A data source makes the binding of its type: to the table that has its name, to the function
    that its address invokes, to its endpoint, or to nothing. -/
inductive Makes (resources : ResourceMap) (record : Resource) : Binding → Prop where
  | table {target : String}
      (type : record.property "Type" = .string DataSourceKind.dynamodb.name)
      (rendered : (record.property "Name").render? = some target) (named : target ≠ "") :
      Makes resources record (.dynamodb (some target))
  | function {address : Value} {target : String}
      (type : record.property "Type" = .string DataSourceKind.lambda.name)
      (given : (record.property "LambdaConfig").fieldIfGiven "LambdaFunctionArn" = .ok address)
      (invoked : lambdaName? resources address = some target) (named : target ≠ "") :
      Makes resources record (.lambda (some target))
  | endpoint {address : Value} {target : String}
      (type : record.property "Type" = .string DataSourceKind.http.name)
      (given : (record.property "HttpConfig").fieldIfGiven "Endpoint" = .ok address)
      (rendered : address.render? = some target) (named : target ≠ "") :
      Makes resources record (.http (some target))
  | nothing (type : record.property "Type" = .string DataSourceKind.none.name) :
      Makes resources record .none

theorem Makes.type (makes : Makes resources record b) :
    record.property "Type" = .string b.kind.name := by
  cases makes with
  | table type _ _ => exact type
  | function type _ _ _ => exact type
  | endpoint type _ _ _ => exact type
  | nothing type => exact type

theorem declaredKind?_eq_some_iff {kind : DataSourceKind} :
    declaredKind? record = some kind ↔ record.property "Type" = .string kind.name := by
  simp only [declaredKind?, Option.bind_eq_some_iff, Value.text?_eq_some_iff,
    DataSourceKind.ofName?_eq_some_iff]
  constructor
  · rintro ⟨_, h_type, rfl⟩
    exact h_type
  · intro h_type
    exact ⟨kind.name, h_type, rfl⟩

theorem bind_nonempty?_eq_some_iff {found : Option String} {target : String} :
    found.bind MappingTemplate.nonempty? = some target ↔ found = some target ∧ target ≠ "" := by
  simp only [Option.bind_eq_some_iff, MappingTemplate.nonempty?_eq_some_iff]
  constructor
  · rintro ⟨_, h_found, rfl, named⟩
    exact ⟨h_found, named⟩
  · rintro ⟨h_found, named⟩
    exact ⟨target, h_found, rfl, named⟩

theorem ofTable_eq_ok_iff :
    ofTable stack name record = .ok b ↔
      ∃ target, (record.property "Name").render? = some target ∧ target ≠ "" ∧
        b = .dynamodb (some target) := by
  simp only [← and_assoc, ← bind_nonempty?_eq_some_iff]
  unfold ofTable renderedText?
  split
  next target h_target => simp [h_target, eq_comm]
  next h_none => simp [h_none]

theorem ofLambda_eq_ok_iff :
    ofLambda resources stack owner name record = .ok b ↔
      ∃ address target,
        (record.property "LambdaConfig").fieldIfGiven "LambdaFunctionArn" = .ok address ∧
          lambdaName? resources address = some target ∧ target ≠ "" ∧
          b = .lambda (some target) := by
  simp only [exists_and_left, ← and_assoc (b := _ ≠ ""), ← bind_nonempty?_eq_some_iff]
  unfold ofLambda
  split
  next fault h_fault => simp [h_fault]
  next address h_address =>
    split
    next target h_target => simp [h_address, h_target, eq_comm]
    next h_none => simp [h_address, h_none]

theorem ofHttp_eq_ok_iff :
    ofHttp stack name record = .ok b ↔
      ∃ address target, (record.property "HttpConfig").fieldIfGiven "Endpoint" = .ok address ∧
        address.render? = some target ∧ target ≠ "" ∧ b = .http (some target) := by
  simp only [exists_and_left, ← and_assoc (b := _ ≠ ""), ← bind_nonempty?_eq_some_iff]
  unfold ofHttp renderedText?
  split
  next fault h_fault => simp [h_fault]
  next address h_address =>
    split
    next target h_target => simp [h_address, h_target, eq_comm]
    next h_none => simp [h_address, h_none]

theorem makes_of_ofSource (made : ofSource resources stack owner name record = .ok b) :
    Makes resources record b := by
  unfold ofSource at made
  split at made
  next h_kind =>
    obtain ⟨target, rendered, named, rfl⟩ := ofTable_eq_ok_iff.1 made
    exact .table (declaredKind?_eq_some_iff.1 h_kind) rendered named
  next h_kind =>
    obtain ⟨address, target, given, invoked, named, rfl⟩ := ofLambda_eq_ok_iff.1 made
    exact .function (declaredKind?_eq_some_iff.1 h_kind) given invoked named
  next h_kind =>
    obtain ⟨address, target, given, rendered, named, rfl⟩ := ofHttp_eq_ok_iff.1 made
    exact .endpoint (declaredKind?_eq_some_iff.1 h_kind) given rendered named
  next h_kind =>
    cases made
    exact .nothing (declaredKind?_eq_some_iff.1 h_kind)
  next => cases made

/-- A data source is accepted if and only if it makes a binding. -/
theorem ofSource_eq_ok_iff :
    ofSource resources stack owner name record = .ok b ↔ Makes resources record b := by
  refine ⟨makes_of_ofSource, fun makes => ?_⟩
  rw [ofSource, declaredKind?_eq_some_iff.2 makes.type]
  cases makes with
  | table _ rendered named => exact ofTable_eq_ok_iff.2 ⟨_, rendered, named, rfl⟩
  | function _ given invoked named => exact ofLambda_eq_ok_iff.2 ⟨_, _, given, invoked, named, rfl⟩
  | endpoint _ given rendered named => exact ofHttp_eq_ok_iff.2 ⟨_, _, given, rendered, named, rfl⟩
  | nothing _ => rfl

/-- A type that no kind has is refused. -/
theorem ofSource_of_foreign
    (foreign : ∀ kind : DataSourceKind, record.property "Type" ≠ .string kind.name) :
    ofSource resources stack owner name record =
      .error (.problem ⟨.unsupportedDataSource (record.property "Type"), stack, some name⟩) := by
  have h_kind : declaredKind? record = .none := by
    rw [Option.eq_none_iff_forall_not_mem]
    exact fun kind member => foreign kind (declaredKind?_eq_some_iff.1 member)
  rw [ofSource, h_kind]

/-! ## The binding of a function -/

/-- A function is bound to what its data source makes, and to nothing if it has none. -/
theorem ofFunction_eq_ok_iff :
    ofFunction resources stack owner function = .ok b ↔
      (∃ name record, IsSource resources function name record ∧ Makes resources record b) ∨
        LacksSource resources function ∧ b = .none := by
  constructor
  · intro bound
    rcases isSource_or_lacksSource resources function with ⟨name, record, source⟩ | lacks
    · rw [source.ofFunction_eq] at bound
      exact Or.inl ⟨name, record, source, makes_of_ofSource bound⟩
    · rw [lacks.ofFunction_eq, Except.ok.injEq] at bound
      exact Or.inr ⟨lacks, bound.symm⟩
  · rintro (⟨name, record, source, makes⟩ | ⟨lacks, rfl⟩)
    · rw [source.ofFunction_eq, ofSource_eq_ok_iff]
      exact makes
    · exact lacks.ofFunction_eq

end Binding

end ResourceGraph
