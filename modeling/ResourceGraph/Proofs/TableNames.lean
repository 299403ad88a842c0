import ResourceGraph.Proofs.DataSources
import ResourceGraph.Proofs.Linkage
import ResourceGraph.Proofs.Reading

/-! # Tables under their names

A table is kept under a canonical name, but a data source may call it otherwise.  A table lists
the fields whose pipelines call it by its canonical name (`ofResources_lists_iff`), so a field is
missing where the name that is called is not canonical (`Table.IsCanonical`), as in
`spelledResources_unlisted`.
-/

namespace ResourceGraph

/-! ## Canonical names -/

namespace Table

/-- A name that ends in the suffix and has it nowhere before. -/
def IsCanonical (suffix name : String) : Prop :=
  ∃ base, name.toList = base ++ suffix.toList ∧
    ∀ front, front ++ suffix.toList <+: name.toList → base.length ≤ front.length

theorem deriveName_eq_self_iff {name suffix : String} :
    deriveName name suffix = name ↔ IsCanonical suffix name := by
  unfold deriveName IsCanonical
  constructor
  · intro same
    split at same
    next base h_found =>
      refine ⟨base, ?_, (Text.before?_eq_some_iff.1 h_found).2⟩
      rw [← same, String.toList_append, String.toList_ofList]
    next h_none =>
      have h_suffix : suffix.toList = [] := by simpa using congrArg String.toList same
      have h_found : Text.before? suffix.toList name.toList = some [] := by
        rw [Text.before?_eq_some_iff, h_suffix]
        exact ⟨List.nil_prefix, fun _ _ => Nat.zero_le _⟩
      rw [h_found] at h_none
      cases h_none
  · rintro ⟨base, h_name, h_first⟩
    have h_found : Text.before? suffix.toList name.toList = some base :=
      Text.before?_eq_some_iff.2 ⟨h_name ▸ List.prefix_rfl, h_first⟩
    rw [h_found]
    apply String.toList_injective
    rw [String.toList_append, String.toList_ofList, h_name]

end Table

/-! ## The names by which tables are called -/

namespace Binding

variable {resources : ResourceMap} {stack : Option String} {name table : String}
  {function : Resource} {b : Binding}

/-- The data source of a function is one of tables, and its name is rendered so. -/
def Calls (resources : ResourceMap) (function : Resource) (table : String) : Prop :=
  ∃ source record,
    Reference.fetch resources (sourceName? resources function) = some (source, record) ∧
      declaredKind? record = some .dynamodb ∧ (record.property "Name").render? = some table

/-- A function is bound to the table that it calls. -/
theorem eq_dynamodb_iff_calls (bound : ofFunction resources stack name function = .ok b) :
    b = .dynamodb (some table) ↔ Calls resources function table := by
  simp only [Calls, fetch_sourceName?_eq_some_iff, declaredKind?_eq_some_iff]
  constructor
  · rintro rfl
    rcases ofFunction_eq_ok_iff.1 bound with ⟨name, record, source, makes⟩ | ⟨-, h_none⟩
    · cases makes with
      | table type rendered _ => exact ⟨name, record, source, type, rendered⟩
    · cases h_none
  · rintro ⟨name, record, source, type, rendered⟩
    rw [source.ofFunction_eq, ofSource, declaredKind?_eq_some_iff.2 type] at bound
    obtain ⟨target, h_target, -, rfl⟩ := ofTable_eq_ok_iff.1 bound
    rw [Option.some.inj (h_target.symm.trans rendered)]

end Binding

namespace Resolver

variable {stack : String} {options : Options} {resources : ResourceMap}
  {entry : String × Resource} {r : Resolver} {table : String}

/-- A resource of the stack declares the resolver, and one of the functions in its pipeline calls a
    table so. -/
def Calls (stack : String) (options : Options) (resources : ResourceMap) (r : Resolver)
    (table : String) : Prop :=
  ∃ entry ∈ resources.entries, Declares stack options resources entry (.resolver r) ∧
    ∃ functions, Pipeline.functions entry.2 resources (some stack) = .ok functions ∧
      ∃ function ∈ functions, Binding.Calls resources function.2 table

theorem worksOn_iff_exists_calls {extension : String} {functions : List (String × Resource)}
    (built : Stage.ofFunctions resources extension (some stack) functions = .ok r.stages) :
    r.WorksOn table ↔ ∃ function ∈ functions, Binding.Calls resources function.2 table := by
  unfold WorksOn
  have h_stages := Stage.ofFunctions_eq_ok_iff.1 built
  clear built
  generalize r.stages = stages at h_stages ⊢
  induction h_stages with
  | nil => simp
  | cons h_first _ ih =>
    rw [List.exists_mem_cons_iff, List.exists_mem_cons_iff]
    exact or_congr (Binding.eq_dynamodb_iff_calls (Stage.binding_ofFunction h_first)) ih

/-- A resolver works on the tables that its pipeline calls. -/
theorem calls_iff_worksOn (member : entry ∈ resources.entries)
    (declares : Declares stack options resources entry (.resolver r)) :
    r.Calls stack options resources table ↔ r.WorksOn table :=
  declares.exists_functions_iff member fun _ built => (worksOn_iff_exists_calls built).symm

end Resolver

namespace Bundle

open Declaration

variable {stack : String} {options : Options} {resources : ResourceMap}
  {warnings : List Warning} {b : Bundle}

/-! ## The tables and the models of a stack -/

/-- A declared table is there under its canonical name. -/
theorem exists_declared_table (accepted : ofResources stack options resources = ⟨warnings, .ok b⟩)
    {entry : String × Resource} (member : entry ∈ resources.entries)
    (h_kind : entry.2.kind = Resource.tableKind) :
    ∃ t, b.tables.get? (Table.deriveName entry.1 options.tableSuffix) = some t := by
  obtain ⟨ds, declared, h_holds, -, -⟩ := ofResources_holds accepted
  have h_name : Table.deriveName entry.1 options.tableSuffix ∈ (tablesOf ds).map Table.name := by
    rw [names_tablesOf declared]
    exact List.mem_map_of_mem (List.mem_filter.2 ⟨member, decide_eq_true h_kind⟩)
  have h_key : Table.deriveName entry.1 options.tableSuffix ∈ b.tables.keys := by
    rw [h_holds.tables.mem_keys_iff, List.map_map]
    exact h_name
  exact OrderedMap.mem_keys_iff.1 h_key

/-- A model resolver is one that a resource declares. -/
theorem exists_declares_model (accepted : ofResources stack options resources = ⟨warnings, .ok b⟩)
    {field : String} {r : Resolver} (found : b.models.get? field = some r) :
    ∃ entry ∈ resources.entries, Declares stack options resources entry (.resolver r) := by
  obtain ⟨ds, declared, h_holds, -, -⟩ := ofResources_holds accepted
  rw [h_holds.models.get?] at found
  have h_filed := (List.mem_filter.1 (List.mem_of_getLast? found)).1
  exact (mem_declared_iff declared).1 (mem_filed_iff.1 h_filed).1

/-! ## Which fields a table lists -/

/-- A table lists a field whose pipeline calls it by the name of its resource if that name is
    canonical, or if the pipeline calls it by its canonical name as well. -/
theorem ofResources_lists_iff
    (accepted : ofResources stack options resources = ⟨warnings, .ok b⟩)
    {name : String} {resource : Resource} (member : (name, resource) ∈ resources.entries)
    (h_kind : resource.kind = Resource.tableKind) {field : String} {r : Resolver}
    (found : b.models.get? field = some r) (h_calls : r.Calls stack options resources name) :
    ∃ t, b.tables.get? (Table.deriveName name options.tableSuffix) = some t ∧
      (field ∈ t.resolverNames ↔
        Table.IsCanonical options.tableSuffix name ∨
          r.Calls stack options resources (Table.deriveName name options.tableSuffix)) := by
  obtain ⟨t, h_table⟩ := exists_declared_table accepted member h_kind
  obtain ⟨entry, h_entry, declares⟩ := exists_declares_model accepted found
  have h_works : field ∈ t.resolverNames ↔
      r.WorksOn (Table.deriveName name options.tableSuffix) := by
    rw [resolverNames_eq accepted h_table, mem_fieldsAt_iff, found]
    simp only [Option.some.injEq, exists_eq_left']
  refine ⟨t, h_table, ?_⟩
  rw [h_works, ← Resolver.calls_iff_worksOn h_entry declares, ← Table.deriveName_eq_self_iff]
  constructor
  · exact Or.inr
  · rintro (h_same | h_canonical)
    · rwa [h_same]
    · exact h_canonical

/-! ## Small stacks -/

/-- For each name a data source that calls a table so, and a function that works on it. -/
def readersOf (names : List String) : List (String × Resource) :=
  names.flatMap fun name =>
    [(name ++ "Source", ⟨"AWS::AppSync::DataSource",
      [("Type", .string "AMAZON_DYNAMODB"), ("Name", .string name)], []⟩),
     (name ++ "Reader", ⟨Resource.functionKind,
      [("DataSourceName", .string (name ++ "Source")), ("RequestMappingTemplate", .string ""),
        ("ResponseMappingTemplate", .string "")], []⟩)]

/-- A stack with one table and one field, whose pipeline calls tables by several names in turn. -/
def spelledResources (table : String) (names : List String) : ResourceMap :=
  .ofList ((table, keyedResource) ::
    ("Resolver", pipelineResource "Query" "post" (names.map (· ++ "Reader"))) :: readersOf names)

theorem spelledResources_lists :
    ∃ b t r, ofResources "Blog" Options.standard
          (spelledResources "PostTable8A" ["PostTable8A", "PostTable"]) = ⟨[], .ok b⟩ ∧
      b.models.get? "post" = some r ∧ b.tables.get? "PostTable" = some t ∧
      ("post" ∈ t.resolverNames ↔ Table.IsCanonical "Table" "PostTable8A" ∨
        r.Calls "Blog" Options.standard
          (spelledResources "PostTable8A" ["PostTable8A", "PostTable"]) "PostTable") ∧
      t.resolverNames = ["post"] := by
  have h_left : ∃ b t r, ofResources "Blog" Options.standard
          (spelledResources "PostTable8A" ["PostTable8A", "PostTable"]) = ⟨[], .ok b⟩ ∧
      b.models.get? "post" = some r ∧ b.tables.get? "PostTable" = some t ∧
      t.resolverNames = ["post"] ∧ r.WorksOn "PostTable8A" :=
    ⟨_, _, _, rfl, rfl, rfl, rfl, of_decide_eq_true rfl⟩
  have h_member : ("PostTable8A", keyedResource) ∈
      (spelledResources "PostTable8A" ["PostTable8A", "PostTable"]).entries := List.mem_cons_self
  obtain ⟨b, t, r, accepted, h_model, h_table, h_names, h_works⟩ := h_left
  obtain ⟨entry, h_entry, declares⟩ := exists_declares_model accepted h_model
  have h_calls := (Resolver.calls_iff_worksOn h_entry declares).2 h_works
  obtain ⟨t', h_table', h_iff⟩ := ofResources_lists_iff accepted h_member rfl h_model h_calls
  have h_same : t' = t := Option.some.inj (h_table'.symm.trans h_table)
  rw [h_same] at h_iff
  exact ⟨b, t, r, accepted, h_model, h_table, h_iff, h_names⟩

/-- A field is not listed by its table though its pipeline calls the table by the name of its
    resource, which no other table has. -/
theorem spelledResources_unlisted :
    ∃ b t r, ofResources "Blog" Options.standard (spelledResources "Post" ["Post"]) =
        ⟨[], .ok b⟩ ∧
      ("Post", keyedResource) ∈ (spelledResources "Post" ["Post"]).entries ∧
      (∀ entry ∈ (spelledResources "Post" ["Post"]).entries,
        entry.2.kind = Resource.tableKind → entry = ("Post", keyedResource)) ∧
      b.models.get? "post" = some r ∧
      r.Calls "Blog" Options.standard (spelledResources "Post" ["Post"]) "Post" ∧
      b.tables.get? (Table.deriveName "Post" "Table") = some t ∧ "post" ∉ t.resolverNames := by
  have h_left : ∃ b t r, ofResources "Blog" Options.standard (spelledResources "Post" ["Post"]) =
        ⟨[], .ok b⟩ ∧
      b.models.get? "post" = some r ∧
      b.tables.get? (Table.deriveName "Post" "Table") = some t ∧ t.resolverNames = [] ∧
      r.WorksOn "Post" :=
    ⟨_, _, _, rfl, rfl, rfl, rfl, of_decide_eq_true rfl⟩
  obtain ⟨b, t, r, accepted, h_model, h_table, h_names, h_works⟩ := h_left
  obtain ⟨entry, h_entry, declares⟩ := exists_declares_model accepted h_model
  refine ⟨b, t, r, accepted, List.mem_cons_self, ?_, h_model,
    (Resolver.calls_iff_worksOn h_entry declares).2 h_works, h_table, by simp [h_names]⟩
  intro entry member h_kind
  have h_tables : (spelledResources "Post" ["Post"]).entries.filter
      (fun entry => entry.2.kind = Resource.tableKind) = [("Post", keyedResource)] := rfl
  have h_found : entry ∈ (spelledResources "Post" ["Post"]).entries.filter
      (fun entry => entry.2.kind = Resource.tableKind) :=
    List.mem_filter.2 ⟨member, decide_eq_true h_kind⟩
  rw [h_tables] at h_found
  exact List.mem_singleton.1 h_found

end Bundle

end ResourceGraph
