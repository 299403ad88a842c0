import ResourceGraph.Proofs.Bindings

namespace ResourceGraph

def Resolver.WorksOn (table : String) (r : Resolver) : Prop :=
  ∃ stage ∈ r.stages, stage.binding = .dynamodb (some table)

instance (table : String) : DecidablePred (Resolver.WorksOn table) :=
  fun r => inferInstanceAs (Decidable (∃ stage ∈ r.stages, stage.binding = .dynamodb (some table)))

namespace Bundle

open Declaration

/-- The fields, in order, whose model resolver works on a table. -/
def fieldsAt (b : Bundle) (table : String) : List String :=
  b.models.keys.filter fun field => (b.models.get? field).any fun r => r.WorksOn table

/-- The keys, in order, under which a table is recorded. -/
def keysAt (b : Bundle) (table : String) : List String :=
  b.secondaryTables.keys.filter fun key => b.secondaryTables.get? key = some (some table)

/-! ## The names that are added -/

theorem mem_tableNames_iff {r : Resolver} {table : String} :
    table ∈ r.tableNames ↔ r.WorksOn table ∧ table ≠ "" := by
  unfold Resolver.tableNames Resolver.bindings Resolver.WorksOn
  rw [List.mem_filter, List.mem_filterMap]
  constructor
  · rintro ⟨⟨binding, h_binding, h_table⟩, h_some⟩
    obtain ⟨h_stage, h_kind⟩ := List.mem_filter.1 h_binding
    obtain ⟨stage, member, rfl⟩ := List.mem_map.1 h_stage
    refine ⟨⟨stage, member, ?_⟩, by simpa using h_some⟩
    cases h_bound : stage.binding with
    | dynamodb target =>
      rw [h_bound] at h_table
      rw [← h_table]
      rfl
    | lambda _ | http _ | none => simp [h_bound, Binding.kind] at h_kind
  · rintro ⟨⟨stage, member, h_bound⟩, h_some⟩
    refine ⟨⟨stage.binding, List.mem_filter.2 ⟨List.mem_map_of_mem member, ?_⟩, ?_⟩, ?_⟩
    · simp [h_bound, Binding.kind]
    · rw [h_bound]
      rfl
    · simpa using h_some

/-- The empty name is no table to a stage, so no field is added for it. -/
theorem modelNames_eq (b : Bundle) (table : String) :
    b.modelNames table = if table = "" then [] else b.fieldsAt table := by
  unfold modelNames fieldsAt
  rw [OrderedMap.filterMap_entries b.models fun r => table ∈ r.tableNames]
  simp only [mem_tableNames_iff]
  split
  next h_empty => simp [h_empty]
  next h_some => simp [h_some]

theorem secondaryNames_eq (b : Bundle) (table : String) :
    b.secondaryNames table = b.keysAt table := by
  unfold secondaryNames keysAt
  rw [OrderedMap.filterMap_entries b.secondaryTables fun recorded => recorded = some table]
  refine List.filter_congr fun key _ => ?_
  cases b.secondaryTables.get? key <;> simp

def addNames (fields keys : List String) (t : Table) : Table :=
  { t with
    resolverNames := t.resolverNames ++ fields
    secondaryIndexResolverNames := t.secondaryIndexResolverNames ++ keys }

theorem linkTable_eq (b : Bundle) (name : String) (t : Table) :
    b.linkTable name t =
      addNames (if name = "" then [] else b.fieldsAt name) (b.keysAt name) t := by
  rw [linkTable, modelNames_eq, secondaryNames_eq, addNames]

/-! ## The bundle of a stack -/

variable {stack : String} {options : Options} {resources : ResourceMap}
  {entries : List (String × Resource)} {ds : List Declaration} {b : Bundle}

theorem not_worksOn_empty {r : Resolver} {entry : String × Resource}
    (declares : Declares stack options resources entry (.resolver r)) : ¬ r.WorksOn "" := by
  rintro ⟨stage, member, h_bound⟩
  have bound := Resolver.wellBound_of_declares declares stage member
  rw [h_bound] at bound
  obtain ⟨target, h_target, named⟩ := bound.own (by decide)
  cases h_target
  exact named rfl

theorem Holds.fieldsAt_empty {roots : List String} {ts : List Table} (h_b : b.Holds roots ts ds)
    (declared : List.Forall₂ (Declares stack options resources) (entries.filter declaring) ds) :
    b.fieldsAt "" = [] := by
  rw [fieldsAt, List.filter_eq_nil_iff]
  intro field _ h_works
  obtain ⟨r, h_held, h_works⟩ := (Option.any_eq_true _ _).1 h_works
  rw [h_b.models.get?] at h_held
  have h_filed := (List.mem_filter.1 (List.mem_of_getLast? h_held)).1
  obtain ⟨entry, -, declares⟩ := (mem_declared_iff declared).1 (mem_filed_iff.1 h_filed).1
  exact not_worksOn_empty declares (of_decide_eq_true h_works)

/-- A declared table lists nothing before it is linked. -/
theorem Holds.exists_table {roots : List String} {name : String} {t : Table}
    (h_b : b.Holds roots ((tablesOf ds).map fun t => b.linkTable t.name t) ds)
    (declared : List.Forall₂ (Declares stack options resources) (entries.filter declaring) ds)
    (found : b.tables.get? name = some t) :
    ∃ t', t = b.linkTable name t' ∧ t'.resolverNames = [] ∧
      t'.secondaryIndexResolverNames = [] := by
  rw [h_b.tables.get?] at found
  obtain ⟨h_table, h_name⟩ := List.mem_filter.1 (List.mem_of_getLast? found)
  obtain ⟨t', h_declared, rfl⟩ := List.mem_map.1 h_table
  have h_same : t'.name = name := of_decide_eq_true h_name
  obtain ⟨entry, -, declares⟩ := (mem_declared_iff declared).1 (mem_tablesOf_iff.1 h_declared)
  cases declares with
  | table _ h_built =>
    obtain ⟨-, h_names, h_secondary⟩ := Table.ofResource_eq_ok h_built
    exact ⟨t', by rw [h_same], h_names, h_secondary⟩

/-- The tables of a stack list the fields whose resolvers work on them. -/
theorem resolverNames_eq {warnings : List Warning} {name : String} {t : Table}
    (accepted : ofResources stack options resources = ⟨warnings, .ok b⟩)
    (found : b.tables.get? name = some t) : t.resolverNames = b.fieldsAt name := by
  obtain ⟨ds, declared, h_holds, -, -⟩ := ofResources_holds accepted
  obtain ⟨t', rfl, h_fields, -⟩ := h_holds.exists_table declared found
  rw [linkTable_eq, addNames, h_fields, List.nil_append]
  by_cases h_empty : name = ""
  · rw [if_pos h_empty, h_empty, h_holds.fieldsAt_empty declared]
  · rw [if_neg h_empty]

theorem mem_fieldsAt_iff {field table : String} :
    field ∈ b.fieldsAt table ↔ ∃ r, b.models.get? field = some r ∧ r.WorksOn table := by
  rw [fieldsAt, List.mem_filter, Option.any_eq_true]
  simp only [decide_eq_true_eq]
  refine and_iff_right_of_imp ?_
  rintro ⟨r, found, -⟩
  rw [← OrderedMap.contains_iff_mem_keys, OrderedMap.contains, found]
  rfl

/-! ## What linking does -/

structure Linked (b c : Bundle) : Prop where
  tables : ∀ name, c.tables.get? name =
    (b.tables.get? name).map
      (addNames (if name = "" then [] else b.fieldsAt name) (b.keysAt name))
  keys : c.tables.keys = b.tables.keys
  others : c = { b with tables := c.tables }

theorem linked_link (b : Bundle) : Linked b b.link where
  tables name := by
    rw [get?_tables_link]
    exact Option.map_congr fun t _ => linkTable_eq b name t
  keys := keys_tables_link b
  others := rfl

/-- Linking adds to a table the fields whose resolvers work on it and the keys under which it is
    recorded.  The tables of a stack list these and nothing else. -/
theorem link_exact :
    (∀ b : Bundle, Linked b b.link) ∧
      ∀ stack options resources warnings b,
        ofResources stack options resources = ⟨warnings, .ok b⟩ →
          ∀ name t, b.tables.get? name = some t →
            t.resolverNames = b.fieldsAt name ∧ t.resolverNames.Nodup ∧
              t.secondaryIndexResolverNames = b.keysAt name ∧
              t.secondaryIndexResolverNames.Nodup := by
  refine ⟨linked_link, ?_⟩
  intro stack options resources warnings b accepted name t found
  obtain ⟨ds, declared, h_holds, -, -⟩ := ofResources_holds accepted
  obtain ⟨t', rfl, h_fields, h_keys⟩ := h_holds.exists_table declared found
  have h_resolvers : (b.linkTable name t').resolverNames = b.fieldsAt name := by
    rw [linkTable_eq, addNames, h_fields, List.nil_append]
    split
    next h_empty => rw [h_empty, h_holds.fieldsAt_empty declared]
    next => rfl
  have h_secondary : (b.linkTable name t').secondaryIndexResolverNames = b.keysAt name := by
    rw [linkTable_eq, addNames, h_keys, List.nil_append]
  rw [h_resolvers, h_secondary]
  exact ⟨rfl, b.models.nodup_keys.filter _, rfl, b.secondaryTables.nodup_keys.filter _⟩

theorem blogResources_linked :
    ∃ b t, ofResources "Blog" Options.standard blogResources =
        ⟨[.tableTwice "Blog" "PostTable", .modelTwice "Blog" "post"], .ok b⟩ ∧
      b.tables.get? "PostTable" = some t ∧ t.resolverNames = ["post"] ∧
      t.resolverNames = b.fieldsAt "PostTable" ∧
      t.secondaryIndexResolverNames = b.keysAt "PostTable" := by
  have h_left : ∃ b t, ofResources "Blog" Options.standard blogResources =
        ⟨[.tableTwice "Blog" "PostTable", .modelTwice "Blog" "post"], .ok b⟩ ∧
      b.tables.get? "PostTable" = some t ∧ t.resolverNames = ["post"] := ⟨_, _, rfl, rfl, rfl⟩
  obtain ⟨b, t, accepted, found, h_names⟩ := h_left
  obtain ⟨h_fields, -, h_keys, -⟩ := link_exact.2 _ _ _ _ b accepted "PostTable" t found
  exact ⟨b, t, accepted, found, h_names, h_fields, h_keys⟩

/-- A table without a name learns nothing of the field whose stage is bound to it. -/
theorem link_unnamed :
    ∃ t, Table.ofResource "" "" keyedResource = .ok t ∧
      let b := ((empty "Blog").addTable t).addResolver ["Query"]
        (boundResolver "Query" "post" [.dynamodb (some "")])
      b.fieldsAt "" = ["post"] ∧ b.link.tables.get? "" = some t ∧ t.resolverNames = [] :=
  ⟨_, rfl, rfl, rfl, rfl⟩

end Bundle

end ResourceGraph
