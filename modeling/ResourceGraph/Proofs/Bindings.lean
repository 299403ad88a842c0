import ResourceGraph.Proofs.Consistency
import ResourceGraph.Proofs.DataSources
import ResourceGraph.Proofs.Reading
import ResourceGraph.Proofs.Retention

namespace ResourceGraph

/-! ## Well-formed bindings -/

namespace Binding

/-- The target of one kind that a binding has. -/
def field? (b : Binding) : DataSourceKind → Option String
  | .dynamodb => b.table?
  | .lambda => b.function?
  | .http => b.endpoint?
  | .none => .none

/-- A binding that is bound has a target with a name, and it has no target of another kind. -/
structure WellFormed (b : Binding) : Prop where
  own : b.kind ≠ .none → ∃ target, b.field? b.kind = some target ∧ target ≠ ""
  others : ∀ kind, kind ≠ b.kind → b.field? kind = .none

variable {resources : ResourceMap} {stack : Option String} {owner : String}
  {function record : Resource} {b : Binding}

theorem field?_of_ne {kind : DataSourceKind} (h_kind : kind ≠ b.kind) : b.field? kind = .none := by
  cases b <;> cases kind <;> first | rfl | exact absurd rfl h_kind

theorem Makes.wellFormed (makes : Makes resources record b) : b.WellFormed where
  own := by
    intro h_bound
    cases makes with
    | table _ _ named => exact ⟨_, rfl, named⟩
    | function _ _ _ named => exact ⟨_, rfl, named⟩
    | endpoint _ _ _ named => exact ⟨_, rfl, named⟩
    | nothing _ => exact absurd rfl h_bound
  others _ := field?_of_ne

theorem wellFormed_of_ofFunction (bound : ofFunction resources stack owner function = .ok b) :
    b.WellFormed := by
  rcases ofFunction_eq_ok_iff.1 bound with ⟨_, _, -, makes⟩ | ⟨-, rfl⟩
  · exact makes.wellFormed
  · exact ⟨fun h_bound => absurd rfl h_bound, fun _ => field?_of_ne⟩

end Binding

/-! ## Resolvers -/

namespace Resolver

def WellBound (r : Resolver) : Prop := ∀ stage ∈ r.stages, stage.binding.WellFormed

variable {r : Resolver} {kind : DataSourceKind}

theorem wellBound_of_declares {stack : String} {options : Options} {resources : ResourceMap}
    {entry : String × Resource} (declares : Declares stack options resources entry (.resolver r)) :
    r.WellBound := by
  obtain ⟨functions, -, h_stages⟩ := declares.stages
  intro stage member
  obtain ⟨function, -, h_stage⟩ :=
    exists_left_of_forall₂ (Stage.ofFunctions_eq_ok_iff.1 h_stages) member
  exact Binding.wellFormed_of_ofFunction (Stage.binding_ofFunction h_stage)

theorem WellBound.target (bound : r.WellBound) (h_kind : kind ≠ .none) {b : Binding}
    (member : b ∈ r.bindings kind) : ∃ target, b.field? kind = some target ∧ target ≠ "" := by
  obtain ⟨h_stage, h_own⟩ := List.mem_filter.1 member
  obtain ⟨stage, h_member, rfl⟩ := List.mem_map.1 h_stage
  obtain rfl := of_decide_eq_true h_own
  exact (bound stage h_member).own h_kind

theorem WellBound.target_of_cons (bound : r.WellBound) (h_kind : kind ≠ .none) {b : Binding}
    {more : List Binding} (h_bindings : r.bindings kind = b :: more) :
    ∃ target, b.field? kind = some target ∧ target ≠ "" :=
  bound.target h_kind (by rw [h_bindings]; exact List.mem_cons_self)

/-- Well-formed bindings to tables are listed by the names of the tables, one for each. -/
theorem WellBound.bindings_dynamodb (bound : r.WellBound) :
    r.bindings .dynamodb = r.tableNames.map fun table => .dynamodb (some table) := by
  have h_each : ∀ b ∈ r.bindings .dynamodb, ∃ table, b = .dynamodb (some table) ∧ table ≠ "" := by
    intro b member
    obtain ⟨table, h_table, named⟩ := bound.target (by decide) member
    cases b with
    | dynamodb target =>
      cases h_table
      exact ⟨table, rfl, named⟩
    | lambda _ | http _ | none => cases h_table
  unfold tableNames
  generalize r.bindings .dynamodb = bs at h_each ⊢
  induction bs with
  | nil => rfl
  | cons b rest ih =>
    rw [List.forall_mem_cons] at h_each
    obtain ⟨⟨table, rfl, named⟩, h_rest⟩ := h_each
    have h_table : (Binding.dynamodb (some table)).table? = some table := rfl
    rw [List.filterMap_cons_some h_table, List.filter_cons_of_pos (by simpa using named),
      List.map_cons, ← ih h_rest]

end Resolver

/-! ## Bundles -/

namespace Bundle

variable {P : Resolver → Prop} {b : Bundle} {r : Resolver}

/-- A property that every resolver of a bundle has. -/
structure Each (P : Resolver → Prop) (b : Bundle) : Prop where
  models : b.models.Every fun _ => P
  secondary : b.secondary.Every fun _ => P
  endpoints : b.endpoints.Every fun _ => Populated P
  functions : b.functions.Every fun _ => Populated P
  dropped : b.dropped.Every fun _ => P

theorem each_empty (name : String) : (empty name).Each P where
  models := OrderedMap.every_empty
  secondary := OrderedMap.every_empty
  endpoints := OrderedMap.every_empty
  functions := OrderedMap.every_empty
  dropped := OrderedMap.every_empty

theorem Each.addResolver (h_b : b.Each P) (h_r : P r) (roots : List String) :
    (b.addResolver roots r).Each P := by
  unfold Bundle.addResolver put
  cases r.bucket roots with
  | model => exact { h_b with models := h_b.models.insert h_r }
  | secondaryIndex => exact { h_b with secondary := h_b.secondary.insert h_r }
  | http => exact { h_b with endpoints := every_addToList (P := fun _ => P) h_b.endpoints h_r }
  | function => exact { h_b with functions := every_addToList (P := fun _ => P) h_b.functions h_r }
  | dropped => exact { h_b with dropped := h_b.dropped.insert h_r }

theorem Each.file {roots : List String} {d : Declaration} (h_b : b.Each P)
    (h_d : ∀ r, d = .resolver r → P r) : (b.file roots d).Each P := by
  cases d with
  | table t => exact { h_b with }
  | resolver r => exact h_b.addResolver (h_d r rfl) roots

theorem Each.mem_members (h_b : b.Each P) {bucket : Bucket} (member : r ∈ b.members bucket) :
    P r := by
  have h_listed : ∀ {lists : OrderedMap (Option String) (List Resolver)},
      (lists.Every fun _ => Populated P) → r ∈ listed lists → P r := by
    intro lists h_lists h_member
    obtain ⟨rs, h_rs, h_r⟩ := List.mem_flatten.1 h_member
    obtain ⟨target, h_found⟩ := OrderedMap.mem_values_iff.1 h_rs
    exact (h_lists target rs h_found).2 r h_r
  have h_values : ∀ {m : OrderedMap String Resolver},
      (m.Every fun _ => P) → r ∈ m.values → P r := by
    intro m h_m h_member
    obtain ⟨key, h_found⟩ := OrderedMap.mem_values_iff.1 h_member
    exact h_m key r h_found
  cases bucket with
  | model => exact h_values h_b.models member
  | secondaryIndex => exact h_values h_b.secondary member
  | http => exact h_listed h_b.endpoints member
  | function => exact h_listed h_b.functions member
  | dropped => exact h_values h_b.dropped member

/-- A list that is there has a resolver with all that holds of its members. -/
theorem exists_at_of_mem_keys {Q : Option String → Resolver → Prop}
    {lists : OrderedMap (Option String) (List Resolver)}
    (h_lists : lists.Every fun target => Populated (Q target))
    (h_each : lists.Every fun _ => Populated P) {target : Option String}
    (member : target ∈ lists.keys) : ∃ r, Q target r ∧ P r := by
  obtain ⟨rs, h_found⟩ := OrderedMap.mem_keys_iff.1 member
  obtain ⟨h_some, h_all⟩ := h_lists target rs h_found
  obtain ⟨r, h_r⟩ := List.exists_mem_of_ne_nil rs h_some
  exact ⟨r, h_all r h_r, (h_each target rs h_found).2 r h_r⟩

/-- Endpoints, functions and the tables of secondary-index resolvers are recorded by name, and every
    resolver names a table for each of its stages that is bound to one. -/
structure Targeted (b : Bundle) : Prop where
  endpoints : ∀ target ∈ b.endpoints.keys, ∃ name, target = some name ∧ name ≠ ""
  functions : ∀ target ∈ b.functions.keys, ∃ name, target = some name ∧ name ≠ ""
  secondaryTables : ∀ target ∈ b.secondaryTables.values, ∃ name, target = some name ∧ name ≠ ""
  tableNames : ∀ bucket, ∀ r ∈ b.members bucket,
    r.bindings .dynamodb = r.tableNames.map fun table => .dynamodb (some table)

theorem Consistent.targeted (h_b : b.Consistent) (h_bound : b.Each Resolver.WellBound) :
    b.Targeted where
  endpoints := by
    intro target member
    obtain ⟨r, ⟨-, more, h_bindings⟩, bound⟩ :=
      exists_at_of_mem_keys h_b.endpoints h_bound.endpoints member
    exact bound.target_of_cons (by decide) h_bindings
  functions := by
    intro target member
    obtain ⟨r, ⟨-, -, more, h_bindings⟩, bound⟩ :=
      exists_at_of_mem_keys h_b.functions h_bound.functions member
    exact bound.target_of_cons (by decide) h_bindings
  secondaryTables := by
    intro target member
    obtain ⟨key, h_found⟩ := OrderedMap.mem_values_iff.1 member
    rw [h_b.secondaryTables_eq, OrderedMap.get?_mapValues, Option.map_eq_some_iff] at h_found
    obtain ⟨r, h_held, rfl⟩ := h_found
    obtain ⟨more, h_bindings⟩ := Resolver.bindings_dynamodb (h_b.secondaryKey key r h_held).2
    exact (h_bound.secondary key r h_held).target_of_cons (by decide) h_bindings
  tableNames _ _ member := (h_bound.mem_members member).bindings_dynamodb

/-! ## Accepted stacks -/

section
variable {stack : String} {options : Options}

/-- What filing preserves of the bundle of an accepted stack, once it is linked. -/
theorem targeted_link {c : Bundle} (h_c : c.Consistent ∧ c.Each Resolver.WellBound) :
    c.link.Targeted :=
  h_c.1.link.targeted { h_c.2 with }

theorem consistent_each_file {resources : ResourceMap} {entry : String × Resource}
    {d : Declaration} {c : Bundle} (declares : Declares stack options resources entry d)
    (h_c : c.Consistent ∧ c.Each Resolver.WellBound) :
    (c.file options.roots d).Consistent ∧ (c.file options.roots d).Each Resolver.WellBound := by
  refine ⟨h_c.1.file options.roots d, h_c.2.file ?_⟩
  rintro r rfl
  exact Resolver.wellBound_of_declares declares

theorem targeted_ofResources {resources : ResourceMap}
    (accepted : (ofResources stack options resources).outcome = .ok b) : b.Targeted := by
  obtain ⟨c, h_c, rfl⟩ := outcome_ofResources_induction
    (P := fun c => c.Consistent ∧ c.Each Resolver.WellBound)
    ⟨consistent_empty stack, each_empty stack⟩
    (fun _ _ _ _ declares h_c => consistent_each_file declares h_c) accepted
  exact targeted_link h_c

theorem targeted_ofValue {raw : Value}
    (accepted : (ofValue stack options raw).outcome = .ok b) : b.Targeted := by
  obtain ⟨c, h_c, rfl⟩ := outcome_ofValue_induction
    (P := fun c => c.Consistent ∧ c.Each Resolver.WellBound)
    ⟨consistent_empty stack, each_empty stack⟩
    (fun _ _ _ _ declares h_c => consistent_each_file declares h_c) accepted
  exact targeted_link h_c

end

end Bundle

/-! ## What a function is bound to -/

namespace Binding

/-- A function is bound to what the data source that it names makes, or to nothing if it names none.
    The binding has the kind that the data source declares, with the target of that kind alone, and
    a data source of no kind is refused.  So bundles of stacks record targets by name only. -/
theorem ofFunction_wellFormed (resources : ResourceMap) (stack : Option String) (owner : String)
    (function : Resource) :
    (∀ b, ofFunction resources stack owner function = .ok b ↔
        (∃ name record, IsSource resources function name record ∧ Makes resources record b) ∨
          LacksSource resources function ∧ b = .none) ∧
      (∀ b, ofFunction resources stack owner function = .ok b →
        b.WellFormed ∧
          (b.kind ≠ .none → ∃ name record, IsSource resources function name record ∧
            record.property "Type" = .string b.kind.name) ∧
          (b.kind = .none → LacksSource resources function ∨
            ∃ name record, IsSource resources function name record ∧
              record.property "Type" = .string DataSourceKind.none.name)) ∧
      (∀ name record, IsSource resources function name record →
        (∀ kind : DataSourceKind, record.property "Type" ≠ .string kind.name) →
          ofFunction resources stack owner function =
            .error (.problem
              ⟨.unsupportedDataSource (record.property "Type"), stack, some name⟩)) ∧
      ∀ name options b, (Bundle.ofResources name options resources).outcome = .ok b ∨
          (∃ raw, (Bundle.ofValue name options raw).outcome = .ok b) → b.Targeted := by
  refine ⟨fun _ => ofFunction_eq_ok_iff, ?_, ?_, ?_⟩
  · intro b bound
    refine ⟨wellFormed_of_ofFunction bound, ?_⟩
    rcases ofFunction_eq_ok_iff.1 bound with ⟨name, record, source, makes⟩ | ⟨lacks, rfl⟩
    · refine ⟨fun _ => ⟨name, record, source, makes.type⟩, fun h_none => Or.inr ?_⟩
      exact ⟨name, record, source, h_none ▸ makes.type⟩
    · exact ⟨fun h_bound => absurd rfl h_bound, fun _ => Or.inl lacks⟩
  · intro name record source foreign
    rw [source.ofFunction_eq, ofSource_of_foreign foreign]
  · rintro name options b (accepted | ⟨raw, accepted⟩)
    · exact Bundle.targeted_ofResources accepted
    · exact Bundle.targeted_ofValue accepted

/-- A table for posts, and a bus for events of a type that no kind of data source has. -/
def mixedSources : ResourceMap :=
  .ofList
    [("PostSource", ⟨"AWS::AppSync::DataSource",
        [("Type", .string "AMAZON_DYNAMODB"), ("Name", .string "PostTable")], []⟩),
      ("EventSource", ⟨"AWS::AppSync::DataSource", [("Type", .string "AMAZON_EVENTBRIDGE")], []⟩)]

def functionAt (source : Value) : Resource :=
  ⟨Resource.functionKind, [("DataSourceName", source)], []⟩

theorem mixedSources_bound :
    let reader := functionAt (Reference.lookUp "PostSource" "Name")
    (Binding.dynamodb (some "PostTable")).WellFormed ∧
      (∃ name record, IsSource mixedSources reader name record ∧
        record.property "Type" = .string "AMAZON_DYNAMODB") ∧
      ofFunction mixedSources (some "Blog") "SkipPost" (functionAt .null) = .ok .none ∧
      ofFunction mixedSources (some "Blog") "SendPost" (functionAt (.string "EventSource")) =
        .error (.problem ⟨.unsupportedDataSource (.string "AMAZON_EVENTBRIDGE"), some "Blog",
          some "EventSource"⟩) ∧
      ∃ b, (Bundle.ofResources "Blog" Options.standard blogResources).outcome = .ok b ∧
        b.Targeted := by
  intro reader
  obtain ⟨-, h_bound, -, -⟩ := ofFunction_wellFormed mixedSources (some "Blog") "ReadPost" reader
  obtain ⟨h_wellFormed, h_source, -⟩ := h_bound (.dynamodb (some "PostTable")) rfl
  obtain ⟨h_none, -, -, -⟩ :=
    ofFunction_wellFormed mixedSources (some "Blog") "SkipPost" (functionAt .null)
  obtain ⟨-, -, h_foreign, -⟩ :=
    ofFunction_wellFormed mixedSources (some "Blog") "SendPost" (functionAt (.string "EventSource"))
  obtain ⟨-, -, -, h_targeted⟩ :=
    ofFunction_wellFormed blogResources (some "Blog") "ReadPost" reader
  have h_accepted : ∃ b,
      (Bundle.ofResources "Blog" Options.standard blogResources).outcome = .ok b := ⟨_, rfl⟩
  obtain ⟨b, accepted⟩ := h_accepted
  refine ⟨h_wellFormed, h_source (by decide), (h_none _).2 (Or.inr ⟨.unresolved rfl, rfl⟩), ?_, b,
    accepted, h_targeted "Blog" Options.standard b (Or.inl accepted)⟩
  refine h_foreign "EventSource" _ ⟨rfl, by decide, rfl⟩ ?_
  intro kind same
  have h_name : "AMAZON_EVENTBRIDGE" = kind.name := Value.string.inj same
  cases kind <;> exact absurd h_name (by decide)

end Binding

end ResourceGraph
