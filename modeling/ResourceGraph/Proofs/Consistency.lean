import ResourceGraph.Bundle.Merging
import ResourceGraph.Proofs.Declarations
import ResourceGraph.Proofs.KeyedMaps

/-! # Consistency of bundles

The maps of a bundle agree with what they hold and with each other, however the bundle came about.

`Bundle.Consistent` lists what each map says of its entries.  The two maps of secondary-index
resolvers run in step, and what carries that through a merge is that the second is a view of the
first (`Consistent.secondaryTables_eq`).  Every change that can be made to a bundle preserves
consistency: filing, absorbing, linking, and changing the lists of tables.  An `Operation` is any
of these on a workspace of bundles, and `run_consistent` goes through arbitrary work by induction,
from no bundles at all.
-/

namespace ResourceGraph

/-! ## What a map says of its entries -/

namespace Resolver

def IsModel (field : String) (r : Resolver) : Prop :=
  r.fieldName = field ∧ r.bindings .dynamodb ≠ []

/-- A resolver stands where a secondary-index resolver belongs, next to its first table. -/
def IsSecondary (tables : OrderedMap String (Option String)) (key : String) (r : Resolver) : Prop :=
  key = r.typeName ++ r.fieldName ∧
    ∃ table more, r.bindings .dynamodb = .dynamodb table :: more ∧ tables.get? key = some table

def IsAtEndpoint (endpoint : Option String) (r : Resolver) : Prop :=
  r.bindings .dynamodb = [] ∧ ∃ more, r.bindings .http = .http endpoint :: more

def IsAtFunction (function : Option String) (r : Resolver) : Prop :=
  r.bindings .dynamodb = [] ∧ r.bindings .http = [] ∧
    ∃ more, r.bindings .lambda = .lambda function :: more

def IsDropped (key : String) (r : Resolver) : Prop :=
  key = r.typeName ++ r.fieldName ∧
    r.bindings .dynamodb = [] ∧ r.bindings .http = [] ∧ r.bindings .lambda = []

end Resolver

/-- A list that is there has members, and all of them belong to it. -/
def Populated (P : Resolver → Prop) (rs : List Resolver) : Prop :=
  rs ≠ [] ∧ ∀ r ∈ rs, P r

namespace Bundle

/-- Each map of a bundle is keyed by what it holds, no list is empty, and the two maps of
    secondary-index resolvers have the same keys in the same order. -/
structure Consistent (b : Bundle) : Prop where
  tables : b.tables.Every fun name table => table.name = name
  models : b.models.Every Resolver.IsModel
  secondaryKeys : b.secondaryTables.keys = b.secondary.keys
  secondary : b.secondary.Every (Resolver.IsSecondary b.secondaryTables)
  endpoints : b.endpoints.Every fun endpoint => Populated (Resolver.IsAtEndpoint endpoint)
  functions : b.functions.Every fun function => Populated (Resolver.IsAtFunction function)
  dropped : b.dropped.Every Resolver.IsDropped

/-! ## The two maps of secondary-index resolvers -/

/-- The first part of `IsSecondary`, without the map beside. -/
def SecondaryKey (key : String) (r : Resolver) : Prop :=
  key = r.typeName ++ r.fieldName ∧ r.uses .dynamodb = true

theorem isSecondary_iff {tables : OrderedMap String (Option String)} {key : String}
    {r : Resolver} :
    r.IsSecondary tables key ↔ SecondaryKey key r ∧ tables.get? key = some r.firstTable? := by
  constructor
  · rintro ⟨h_key, table, more, h_bindings, h_table⟩
    have h_first : r.firstTable? = table := by
      simp [Resolver.firstTable?, h_bindings, Binding.table?]
    have h_uses : r.uses .dynamodb ≠ false := by
      rw [Ne, ← Resolver.bindings_eq_nil_iff, h_bindings]
      exact List.cons_ne_nil _ _
    exact ⟨⟨h_key, by simpa using h_uses⟩, h_first ▸ h_table⟩
  · rintro ⟨⟨h_key, h_uses⟩, h_table⟩
    obtain ⟨more, h_bindings⟩ := Resolver.bindings_dynamodb h_uses
    exact ⟨h_key, r.firstTable?, more, h_bindings, h_table⟩

/-- The recorded tables are the first tables of the resolvers, entry by entry. -/
theorem Consistent.secondaryTables_eq {b : Bundle} (h_b : b.Consistent) :
    b.secondaryTables = b.secondary.mapValues fun _ r => r.firstTable? := by
  apply OrderedMap.ext_get?
  · rw [OrderedMap.keys_mapValues, h_b.secondaryKeys]
  · intro key
    rw [OrderedMap.get?_mapValues]
    cases h_held : b.secondary.get? key with
    | none =>
      rw [OrderedMap.get?_eq_none_iff, ← h_b.secondaryKeys, ← OrderedMap.get?_eq_none_iff] at h_held
      rw [h_held]
      rfl
    | some r => exact (isSecondary_iff.1 (h_b.secondary key r h_held)).2

theorem Consistent.secondaryKey {b : Bundle} (h_b : b.Consistent) :
    b.secondary.Every SecondaryKey :=
  h_b.secondary.mono fun _ _ h_held => (isSecondary_iff.1 h_held).1

theorem every_isSecondary {secondary : OrderedMap String Resolver}
    {tables : OrderedMap String (Option String)} (h_keys : secondary.Every SecondaryKey)
    (h_tables : tables = secondary.mapValues fun _ r => r.firstTable?) :
    tables.keys = secondary.keys ∧ secondary.Every (Resolver.IsSecondary tables) := by
  refine ⟨by rw [h_tables, OrderedMap.keys_mapValues], ?_⟩
  intro key r found
  refine isSecondary_iff.2 ⟨h_keys key r found, ?_⟩
  rw [h_tables, OrderedMap.get?_mapValues, found]
  rfl

/-! ## What one change preserves -/

theorem consistent_empty (name : String) : (empty name).Consistent where
  tables := OrderedMap.every_empty
  models := OrderedMap.every_empty
  secondaryKeys := rfl
  secondary := OrderedMap.every_empty
  endpoints := OrderedMap.every_empty
  functions := OrderedMap.every_empty
  dropped := OrderedMap.every_empty

theorem Consistent.addTable {b : Bundle} (h_b : b.Consistent) (table : Table) :
    (b.addTable table).Consistent :=
  { h_b with tables := h_b.tables.insert rfl }

theorem every_addToList {P : Option String → Resolver → Prop}
    {lists : OrderedMap (Option String) (List Resolver)}
    (h_lists : lists.Every fun target => Populated (P target)) {target : Option String}
    {r : Resolver} (h_new : P target r) :
    (addToList lists target r).Every fun target => Populated (P target) := by
  apply h_lists.upsert
  · exact ⟨List.cons_ne_nil _ _, by simpa using h_new⟩
  · rintro held ⟨h_some, h_held⟩
    refine ⟨List.append_ne_nil_of_left_ne_nil h_some _, ?_⟩
    intro s member
    rcases List.mem_append.1 member with before | last
    · exact h_held s before
    · rw [List.mem_singleton.1 last]
      exact h_new

theorem Consistent.addResolver {b : Bundle} (h_b : b.Consistent) (roots : List String)
    (r : Resolver) : (b.addResolver roots r).Consistent := by
  have h_spec := r.bucket_spec roots
  unfold Bundle.addResolver put
  cases h_bucket : r.bucket roots with
  | model =>
    rw [h_bucket] at h_spec
    obtain ⟨more, h_bindings⟩ := Resolver.bindings_dynamodb h_spec.1
    have h_some : r.bindings .dynamodb ≠ [] := by
      rw [h_bindings]
      exact List.cons_ne_nil _ _
    exact { h_b with models := h_b.models.insert ⟨rfl, h_some⟩ }
  | secondaryIndex =>
    rw [h_bucket] at h_spec
    have h_keys : (b.secondary.insert r.key r).Every SecondaryKey :=
      h_b.secondaryKey.insert ⟨rfl, h_spec.1⟩
    have h_tables : b.secondaryTables.insert r.key r.firstTable? =
        (b.secondary.insert r.key r).mapValues fun _ r => r.firstTable? := by
      rw [OrderedMap.mapValues_insert, h_b.secondaryTables_eq]
    have h_step := every_isSecondary h_keys h_tables
    exact { h_b with secondaryKeys := h_step.1, secondary := h_step.2 }
  | http =>
    rw [h_bucket] at h_spec
    exact { h_b with
      endpoints := every_addToList (P := Resolver.IsAtEndpoint) h_b.endpoints
        ⟨Resolver.bindings_eq_nil_iff.2 h_spec.1, Resolver.bindings_http h_spec.2⟩ }
  | function =>
    rw [h_bucket] at h_spec
    exact { h_b with
      functions := every_addToList (P := Resolver.IsAtFunction) h_b.functions
        ⟨Resolver.bindings_eq_nil_iff.2 h_spec.1, Resolver.bindings_eq_nil_iff.2 h_spec.2.1,
          Resolver.bindings_lambda h_spec.2.2⟩ }
  | dropped =>
    rw [h_bucket] at h_spec
    exact { h_b with
      dropped := h_b.dropped.insert
        ⟨rfl, Resolver.bindings_eq_nil_iff.2 h_spec.1, Resolver.bindings_eq_nil_iff.2 h_spec.2.1,
          Resolver.bindings_eq_nil_iff.2 h_spec.2.2⟩ }

theorem Consistent.file {b : Bundle} (h_b : b.Consistent) (roots : List String)
    (d : Declaration) : (b.file roots d).Consistent := by
  cases d with
  | table t => exact h_b.addTable t
  | resolver r => exact h_b.addResolver roots r

theorem every_joinLists {P : Option String → Resolver → Prop}
    {first second : OrderedMap (Option String) (List Resolver)}
    (h_first : first.Every fun target => Populated (P target))
    (h_second : second.Every fun target => Populated (P target)) :
    (joinLists first second).Every fun target => Populated (P target) := by
  unfold joinLists
  have h_entries := h_second.mem_entries
  generalize second.entries = entries at h_entries
  induction entries generalizing first with
  | nil => exact h_first
  | cons entry rest ih =>
    rw [List.forall_mem_cons] at h_entries
    obtain ⟨⟨h_some, h_new⟩, h_rest⟩ := h_entries
    refine ih (h_first.upsert ?_ ?_) h_rest
    · exact ⟨h_some, h_new⟩
    · rintro held ⟨-, h_held⟩
      refine ⟨List.append_ne_nil_of_right_ne_nil _ h_some, ?_⟩
      exact fun r member => (List.mem_append.1 member).elim (h_held r) (h_new r)

theorem Consistent.absorb {b other : Bundle} (h_b : b.Consistent) (h_other : other.Consistent) :
    (b.absorb other).Consistent := by
  -- the two maps are merged apart from each other, but the second stays a view of the first
  have h_keys : (b.secondary.insertAll other.secondary.entries).Every SecondaryKey :=
    h_b.secondaryKey.insertAll h_other.secondaryKey.mem_entries
  have h_tables : b.secondaryTables.insertAll other.secondaryTables.entries =
      (b.secondary.insertAll other.secondary.entries).mapValues fun _ r => r.firstTable? := by
    rw [OrderedMap.mapValues_insertAll, h_b.secondaryTables_eq, h_other.secondaryTables_eq]
    rfl
  have h_step := every_isSecondary h_keys h_tables
  exact
    { tables := h_b.tables.insertAll h_other.tables.mem_entries
      models := h_b.models.insertAll h_other.models.mem_entries
      secondaryKeys := h_step.1
      secondary := h_step.2
      endpoints := every_joinLists (P := Resolver.IsAtEndpoint) h_b.endpoints h_other.endpoints
      functions := every_joinLists (P := Resolver.IsAtFunction) h_b.functions h_other.functions
      dropped := h_b.dropped.insertAll h_other.dropped.mem_entries }

theorem consistent_merge (name : String) {bundles : List Bundle}
    (h_bundles : ∀ b ∈ bundles, b.Consistent) : (merge name bundles).Consistent := by
  unfold merge absorbAll
  have h_start := consistent_empty name
  generalize empty name = start at h_start
  induction bundles generalizing start with
  | nil => exact h_start
  | cons b rest ih =>
    rw [List.forall_mem_cons] at h_bundles
    exact ih h_bundles.2 (start.absorb b) (h_start.absorb h_bundles.1)

def relist (lists : String → Table → List String × List String) (b : Bundle) : Bundle :=
  { b with
    tables := b.tables.mapValues fun name table =>
      { table with
        resolverNames := (lists name table).1
        secondaryIndexResolverNames := (lists name table).2 } }

theorem Consistent.relist {b : Bundle} (h_b : b.Consistent)
    (lists : String → Table → List String × List String) : (b.relist lists).Consistent :=
  { h_b with tables := h_b.tables.mapValues fun _ _ h_name => h_name }

theorem link_eq_relist (b : Bundle) :
    b.link = b.relist fun name table =>
      (table.resolverNames ++ b.modelNames name,
        table.secondaryIndexResolverNames ++ b.secondaryNames name) := rfl

theorem Consistent.link {b : Bundle} (h_b : b.Consistent) : b.link.Consistent := by
  rw [link_eq_relist]
  exact h_b.relist _

/-! ## Normalized bundles -/

section
variable {stack : String} {options : Options} {b : Bundle}

theorem consistent_ofResources {resources : ResourceMap}
    (accepted : (ofResources stack options resources).outcome = .ok b) : b.Consistent := by
  obtain ⟨c, h_c, rfl⟩ := outcome_ofResources_induction (P := Consistent)
    (consistent_empty stack) (fun _ _ d _ _ h_b => h_b.file options.roots d) accepted
  exact h_c.link

theorem consistent_ofValue {raw : Value}
    (accepted : (ofValue stack options raw).outcome = .ok b) : b.Consistent := by
  obtain ⟨c, h_c, rfl⟩ := outcome_ofValue_induction (P := Consistent)
    (consistent_empty stack) (fun _ _ d _ _ h_b => h_b.file options.roots d) accepted
  exact h_c.link

end

end Bundle

/-! ## Work on bundles -/

abbrev Workspace := OrderedMap String Bundle

inductive Operation where
  | create (slot name : String)
  /-- The bundle of a stack given as it stands in a document. -/
  | normalize (slot stack : String) (options : Options) (raw : Value)
  | normalizeResources (slot stack : String) (options : Options) (resources : ResourceMap)
  | merge (slot name : String) (sources : List String)
  | storeTable (slot name suffix : String) (resource : Resource)
  /-- A resolver, however it was made, filed under any root types. -/
  | classify (slot : String) (roots : List String) (r : Resolver)
  | link (slot : String)
  /-- What becomes of a bundle that shares tables with a bundle being linked, as a merged one does
      with those it was made of. -/
  | relist (slot : String) (lists : String → Table → List String × List String)

namespace Workspace

def keep (w : Workspace) (slot : String) (made : Outcome Bundle) : Workspace :=
  match made with
  | .ok b => w.insert slot b
  | .error _ => w

def change (w : Workspace) (slot : String) (f : Bundle → Bundle) : Workspace :=
  match w.get? slot with
  | some b => w.insert slot (f b)
  | none => w

/-- The bundles at hand after one piece of work; work that fails leaves them as they were. -/
def step (w : Workspace) : Operation → Workspace
  | .create slot name => w.insert slot (.empty name)
  | .normalize slot stack options raw => w.keep slot (Bundle.ofValue stack options raw).outcome
  | .normalizeResources slot stack options resources =>
    w.keep slot (Bundle.ofResources stack options resources).outcome
  | .merge slot name sources => w.insert slot (.merge name (sources.filterMap w.get?))
  | .storeTable slot name suffix resource =>
    match Table.ofResource name suffix resource with
    | .ok table => w.change slot fun b => b.addTable table
    | .error _ => w
  | .classify slot roots r => w.change slot fun b => b.addResolver roots r
  | .link slot => w.change slot Bundle.link
  | .relist slot lists => w.change slot (Bundle.relist lists)

def run (w : Workspace) (operations : List Operation) : Workspace := operations.foldl step w

theorem every_consistent_keep {w : Workspace} (h_w : w.Every fun _ b => b.Consistent)
    (slot : String) {made : Outcome Bundle} (h_made : ∀ b, made = .ok b → b.Consistent) :
    (w.keep slot made).Every fun _ b => b.Consistent := by
  unfold keep
  cases made with
  | ok b => exact h_w.insert (h_made b rfl)
  | error failure => exact h_w

theorem every_consistent_change {w : Workspace} (h_w : w.Every fun _ b => b.Consistent)
    (slot : String) {f : Bundle → Bundle} (h_f : ∀ b, b.Consistent → (f b).Consistent) :
    (w.change slot f).Every fun _ b => b.Consistent := by
  unfold change
  cases h_held : w.get? slot with
  | none => exact h_w
  | some b => exact h_w.insert (h_f b (h_w slot b h_held))

theorem every_consistent_step {w : Workspace} (h_w : w.Every fun _ b => b.Consistent)
    (operation : Operation) : (w.step operation).Every fun _ b => b.Consistent := by
  cases operation with
  | create slot name => exact h_w.insert (Bundle.consistent_empty name)
  | normalize slot stack options raw =>
    exact every_consistent_keep h_w slot fun _ => Bundle.consistent_ofValue
  | normalizeResources slot stack options resources =>
    exact every_consistent_keep h_w slot fun _ => Bundle.consistent_ofResources
  | merge slot name sources =>
    refine h_w.insert (Bundle.consistent_merge name ?_)
    intro b member
    obtain ⟨source, -, h_held⟩ := List.mem_filterMap.1 member
    exact h_w source b h_held
  | storeTable slot name suffix resource =>
    simp only [step]
    cases Table.ofResource name suffix resource with
    | ok table => exact every_consistent_change h_w slot fun _ h_b => h_b.addTable table
    | error failure => exact h_w
  | classify slot roots r =>
    exact every_consistent_change h_w slot fun _ h_b => h_b.addResolver roots r
  | link slot => exact every_consistent_change h_w slot fun _ h_b => h_b.link
  | relist slot lists => exact every_consistent_change h_w slot fun _ h_b => h_b.relist lists

theorem every_consistent_run {w : Workspace} (h_w : w.Every fun _ b => b.Consistent)
    (operations : List Operation) : (w.run operations).Every fun _ b => b.Consistent := by
  unfold run
  induction operations generalizing w with
  | nil => exact h_w
  | cons operation rest ih => exact ih (every_consistent_step h_w operation)

/-- Every bundle that some work leaves, from no bundles at all, is consistent. -/
theorem run_consistent (operations : List Operation) {slot : String} {b : Bundle}
    (found : (run .empty operations).get? slot = some b) : b.Consistent :=
  every_consistent_run OrderedMap.every_empty operations slot b found

/-- Work that files resolvers in every bucket of one bundle, merges it with itself and links the
    outcome. -/
def blogWork : List Operation :=
  [.create "Blog" "Blog",
   .storeTable "Blog" "PostTable8A2F" "Table" keyedResource,
   .classify "Blog" ["Query"] (boundResolver "Query" "post" [.none, .dynamodb (some "PostTable")]),
   .classify "Blog" [] (boundResolver "Query" "post" [.dynamodb (some "PostTable")]),
   .classify "Blog" [] (boundResolver "Query" "page" [.lambda (some "page"), .http none]),
   .classify "Blog" [] (boundResolver "Query" "echo" [.lambda (some "echo")]),
   .classify "Blog" [] (boundResolver "Query" "ping" []),
   .merge "All" "merged" ["Blog", "Blog"],
   .link "All"]

theorem blogWork_consistent :
    ∃ b, (run .empty blogWork).get? "All" = some b ∧ b.tables.keys = ["PostTable"] ∧
      b.secondary.keys = ["Querypost"] ∧ b.endpoints.keys = [none] ∧ b.Consistent := by
  have h_left : ∃ b, (run .empty blogWork).get? "All" = some b ∧ b.tables.keys = ["PostTable"] ∧
      b.secondary.keys = ["Querypost"] ∧ b.endpoints.keys = [none] :=
    ⟨_, rfl, rfl, rfl, rfl⟩
  obtain ⟨b, found, h_tables, h_secondary, h_endpoints⟩ := h_left
  exact ⟨b, found, h_tables, h_secondary, h_endpoints, run_consistent blogWork found⟩

end Workspace

end ResourceGraph
