import ResourceGraph.Proofs.Declarations
import ResourceGraph.Proofs.KeyedMaps

/-! # Accounting

What the resources of a stack declare is what its bundle holds, entry by entry and warning by
warning.

`Bundle.Holds` states this for the bundle: each map has the declarations of its bucket, the last
one of a name where the first one stood, or all of them in lists by target.  Filing a declaration
and linking both preserve it.  A warning is deserved by each declaration that comes again, and
these `Declaration.repeats` are what has been said in the end; `ofResources_accounts` joins the
two.
-/

namespace ResourceGraph

/-! ## Declarations that come again -/

namespace Declaration

/-- The warning that a declaration deserves after earlier ones, if they took its name. -/
def repeat? (stack : String) (roots : List String) (earlier : List Declaration) :
    Declaration → Option Warning
  | table t =>
    if t.name ∈ (tablesOf earlier).map Table.name then some (.tableTwice stack t.name) else none
  | resolver r =>
    if r.bucket roots = .model ∧
        r.fieldName ∈ (filed roots .model earlier).map Resolver.fieldName
    then some (.modelTwice stack r.fieldName) else none

/-- The warnings that declarations deserve one after the other, after earlier ones. -/
def repeats (stack : String) (roots : List String) (earlier : List Declaration) :
    List Declaration → List Warning
  | [] => []
  | d :: ds => (repeat? stack roots earlier d).toList ++ repeats stack roots (earlier ++ [d]) ds

theorem repeats_append (stack : String) (roots : List String)
    (earlier first second : List Declaration) :
    repeats stack roots earlier (first ++ second) =
      repeats stack roots earlier first ++ repeats stack roots (earlier ++ first) second := by
  induction first generalizing earlier with
  | nil => rw [List.nil_append, List.append_nil, repeats, List.nil_append]
  | cons d rest ih =>
    rw [List.cons_append, repeats, ih, repeats, List.append_assoc, List.append_assoc,
      List.singleton_append]

theorem repeats_singleton (stack : String) (roots : List String) (earlier : List Declaration)
    (d : Declaration) : repeats stack roots earlier [d] = (repeat? stack roots earlier d).toList := by
  rw [repeats, repeats, List.append_nil]

theorem mem_repeats {stack : String} {roots : List String} {earlier before after : List Declaration}
    {d : Declaration} {warning : Warning}
    (h_repeat : repeat? stack roots (earlier ++ before) d = some warning) :
    warning ∈ repeats stack roots earlier (before ++ d :: after) := by
  rw [repeats_append, repeats, h_repeat]
  simp

end Declaration

namespace Bundle

open Declaration OrderedMap

/-! ## What a bundle holds -/

/-- A bundle holds given tables and the declared resolvers, each in the map of its bucket. -/
structure Holds (roots : List String) (ts : List Table) (ds : List Declaration) (b : Bundle) :
    Prop where
  tables : Latest Table.name ts b.tables
  models : Latest Resolver.fieldName (filed roots .model ds) b.models
  secondary : Latest Resolver.key (filed roots .secondaryIndex ds) b.secondary
  endpoints : Grouped Resolver.firstEndpoint? (filed roots .http ds) b.endpoints
  functions : Grouped Resolver.firstFunction? (filed roots .function ds) b.functions
  dropped : Latest Resolver.key (filed roots .dropped ds) b.dropped

variable {stack : String} {roots : List String} {ts : List Table} {ds : List Declaration}
  {b : Bundle}

theorem holds_empty (stack : String) (roots : List String) : Holds roots [] [] (empty stack) where
  tables := .empty _
  models := .empty _
  secondary := .empty _
  endpoints := .empty _
  functions := .empty _
  dropped := .empty _

theorem Holds.file (h_b : b.Holds roots (tablesOf ds) ds) (d : Declaration) :
    (b.file roots d).Holds roots (tablesOf (ds ++ [d])) (ds ++ [d]) := by
  obtain ⟨h_tables, h_models, h_secondary, h_endpoints, h_functions, h_dropped⟩ := h_b
  cases d with
  | table t =>
    constructor <;> simp only [tablesOf_concat_table, filed_concat_table]
    case tables => exact h_tables.insert t
    all_goals assumption
  | resolver r =>
    unfold Bundle.file addResolver put
    cases h_bucket : r.bucket roots <;> constructor <;>
      simp only [tablesOf_concat_resolver, filed_concat_resolver, h_bucket, reduceCtorEq, if_true,
        if_false, List.append_nil]
    case model.models => exact h_models.insert r
    case secondaryIndex.secondary => exact h_secondary.insert r
    case http.endpoints => exact h_endpoints.collect r
    case function.functions => exact h_functions.collect r
    case dropped.dropped => exact h_dropped.insert r
    all_goals assumption

theorem Holds.link (h_b : b.Holds roots ts ds) :
    b.link.Holds roots (ts.map fun t => b.link.linkTable t.name t) ds :=
  { h_b with tables := h_b.tables.mapValues fun _ _ => rfl }

/-! ## What is said -/

/-- A bundle that holds the declarations so far says what the next one deserves. -/
theorem Holds.fileWarnings_eq (h_b : b.Holds roots (tablesOf ds) ds)
    (h_name : b.name = stack) (d : Declaration) :
    b.fileWarnings stack roots d = (repeat? stack roots ds d).toList := by
  cases d with
  | table t =>
    simp only [fileWarnings, tableWarnings, repeat?, contains_iff_mem_keys,
      h_b.tables.mem_keys_iff]
    split <;> rfl
  | resolver r =>
    simp only [fileWarnings, resolverWarnings, repeat?, contains_iff_mem_keys,
      h_b.models.mem_keys_iff, h_name]
    split <;> rfl

/-- A declaration makes a bundle larger, or it is warned of, or it is a resolver of another
    bucket. -/
theorem length_fileWarnings (stack : String) (roots : List String) (b : Bundle)
    (ds : List Declaration) (d : Declaration) :
    (b.fileWarnings stack roots d).length + (b.file roots d).tables.size +
        (b.file roots d).models.size + (tablesOf ds).length +
        (filed roots .model ds).length =
      b.tables.size + b.models.size + (tablesOf (ds ++ [d])).length +
        (filed roots .model (ds ++ [d])).length := by
  cases d with
  | table t =>
    simp only [fileWarnings, tableWarnings, file, addTable, size_insert, tablesOf_concat_table,
      filed_concat_table, List.length_append, List.length_singleton]
    split
    · rw [List.length_singleton]
      omega
    · rw [List.length_nil]
      omega
  | resolver r =>
    simp only [fileWarnings, resolverWarnings, file, tablesOf_concat_resolver,
      filed_concat_resolver, List.length_append, addResolver]
    cases h_bucket : r.bucket roots with
    | model =>
      simp only [put, size_insert, true_and, if_true, List.length_singleton]
      split
      · rw [List.length_singleton]
        omega
      · rw [List.length_nil]
        omega
    | secondaryIndex | http | function | dropped => simp [put]

/-- The bundle of a stack holds what the resources declare, and the warnings are for what is
    declared again. -/
theorem ofResources_holds {options : Options} {resources : ResourceMap} {warnings : List Warning}
    (accepted : ofResources stack options resources = ⟨warnings, .ok b⟩) :
    ∃ ds, List.Forall₂ (Declares stack options resources)
        (resources.entries.filter declaring) ds ∧
      b.Holds options.roots ((tablesOf ds).map fun t => b.linkTable t.name t) ds ∧
      warnings = repeats stack options.roots [] ds ∧
      warnings.length + b.tables.size + b.models.size =
        (tablesOf ds).length + (filed options.roots .model ds).length := by
  obtain ⟨ds, c, declared, ⟨-, h_holds, h_said, h_count⟩, rfl⟩ :=
    ofResources_induction
      (P := fun ds said c => c.name = stack ∧
        c.Holds options.roots (tablesOf ds) ds ∧
        said = repeats stack options.roots [] ds ∧
        said.length + c.tables.size + c.models.size =
          (tablesOf ds).length + (filed options.roots .model ds).length)
      ⟨rfl, holds_empty stack options.roots, rfl, rfl⟩
      (by
        rintro ds said c entry d - ⟨h_name, h_holds, h_said, h_count⟩
        have h_step := length_fileWarnings stack options.roots c ds d
        refine ⟨by rw [name_file, h_name], h_holds.file d, ?_, ?_⟩
        · rw [repeats_append, ← h_said, List.nil_append, repeats_singleton,
            h_holds.fileWarnings_eq h_name]
        · rw [List.length_append]
          omega)
      accepted
  have h_size : c.link.tables.size = c.tables.size := by
    rw [← length_keys, keys_tables_link, length_keys]
  refine ⟨ds, declared, h_holds.link, h_said, ?_⟩
  rw [h_size]
  exact h_count

/-! ## The account of a stack -/

structure Accounts (stack : String) (options : Options) (resources : ResourceMap)
    (ds : List Declaration) (warnings : List Warning) (b : Bundle) : Prop where
  /-- The tables and resolvers among the resources make the declarations, in order. -/
  declared : List.Forall₂ (Declares stack options resources) (resources.entries.filter declaring) ds
  tableNames : (tablesOf ds).map Table.name =
    (resources.entries.filter fun entry => entry.2.kind = Resource.tableKind).map fun entry =>
      Table.deriveName entry.1 options.tableSuffix
  /-- The tables are there with the names of their resolvers. -/
  holds : b.Holds options.roots
    ((tablesOf ds).map fun t => b.linkTable t.name t) ds
  endpoints : (listed b.endpoints).Perm (filed options.roots .http ds)
  endpointCount : b.summary.endpoints = (filed options.roots .http ds).length
  functions : (listed b.functions).Perm (filed options.roots .function ds)
  functionCount : b.summary.functions = (filed options.roots .function ds).length
  said : warnings = repeats stack options.roots [] ds
  warningCount : warnings.length =
    ((tablesOf ds).length - b.tables.size) +
      ((filed options.roots .model ds).length - b.models.size)
  resolverCount : b.resolvers.length =
    b.summary.models + b.summary.endpoints + b.summary.functions + b.summary.secondary

/-- A stack that is accepted has declared what its bundle holds, and was warned of what it declared
    again. -/
theorem ofResources_accounts {options : Options} {resources : ResourceMap}
    {warnings : List Warning}
    (accepted : ofResources stack options resources = ⟨warnings, .ok b⟩) :
    ∃ ds, Accounts stack options resources ds warnings b := by
  obtain ⟨ds, declared, h_holds, h_said, h_count⟩ := ofResources_holds accepted
  have h_tables := h_holds.tables.size_le
  have h_models := h_holds.models.size_le
  have h_endpoints : (listed b.endpoints).Perm _ := h_holds.endpoints.flatten_perm
  have h_functions : (listed b.functions).Perm _ := h_holds.functions.flatten_perm
  rw [List.length_map] at h_tables
  exact ⟨ds,
    { declared := declared
      tableNames := names_tablesOf declared
      holds := h_holds
      endpoints := h_endpoints
      endpointCount := h_endpoints.length_eq
      functions := h_functions
      functionCount := h_functions.length_eq
      said := h_said
      warningCount := by omega
      resolverCount := by
        simp only [resolvers, summary, List.length_append, size, values, List.length_map] }⟩

theorem blogResources_accounts :
    ∃ b ds, ofResources "Blog" Options.standard blogResources =
        ⟨[.tableTwice "Blog" "PostTable", .modelTwice "Blog" "post"], .ok b⟩ ∧
      ds.length = 5 ∧ b.tables.size = 1 ∧ b.dropped.keys = ["Queryping"] ∧
      Accounts "Blog" Options.standard blogResources ds
        [.tableTwice "Blog" "PostTable", .modelTwice "Blog" "post"] b := by
  have h_accepted : ∃ b, ofResources "Blog" Options.standard blogResources =
      ⟨[.tableTwice "Blog" "PostTable", .modelTwice "Blog" "post"], .ok b⟩ ∧ b.tables.size = 1 ∧
        b.dropped.keys = ["Queryping"] := ⟨_, rfl, rfl, rfl⟩
  obtain ⟨b, accepted, h_size, h_dropped⟩ := h_accepted
  obtain ⟨ds, h_accounts⟩ := ofResources_accounts accepted
  have h_length : ds.length = 5 := h_accounts.declared.length_eq.symm
  exact ⟨b, ds, accepted, h_length, h_size, h_dropped, h_accounts⟩

end Bundle

end ResourceGraph
