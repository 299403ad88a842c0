import Mathlib.Data.List.Perm.Basic
import ResourceGraph.Proofs.Consistency
import ResourceGraph.Proofs.MapPairs
import ResourceGraph.Proofs.Reading
import ResourceGraph.Proofs.Retention
import ResourceGraph.Proofs.TableNames

/-! # Order of declaration

The resources of a stack may be declared in any order as long as no two of them want one place.

What a resource declares does not depend on where the others stand (`declares_congr`), so two
orders of the same resources are accepted or refused together.  Two declarations that want one
place tie, and in a stack without ties, `Bundle.Untied`, each map receives the same items in
another order.  Hence `alike_of_reorders`: no warnings on either side, and two bundles that hold
the same.
-/

namespace ResourceGraph

/-! ## Reading by name -/

section
open OrderedMap

variable {resources resources' : ResourceMap} (same : resources.Reorders resources')
include same

theorem Reference.resolveValue_congr (mode : Strictness) (stack : Option String) (v : Value) :
    resolveValue mode resources stack v = resolveValue mode resources' stack v := by
  have h_resolve : resolve mode resources stack = resolve mode resources' stack := by
    funext reference
    cases reference with
    | attributeOf resource member => simp only [resolve, same.contains_eq]
    | literal _ | named _ | interpolated _ _ => rfl
  unfold resolveValue resolveOption
  rw [h_resolve]

theorem Binding.ofSource_congr (stack : Option String) (function name : String)
    (source : Resource) :
    ofSource resources stack function name source =
      ofSource resources' stack function name source := by
  unfold ofSource ofLambda lambdaName? lambdaName?.declared
  rw [same.get?_eq]

theorem Binding.ofFunction_congr (stack : Option String) (name : String) (function : Resource) :
    ofFunction resources stack name function = ofFunction resources' stack name function := by
  unfold ofFunction sourceName? Reference.fetch
  simp only [Reference.resolveValue_congr same, same.get?_eq, ofSource_congr same]

theorem Pipeline.functions_congr (resource : Resource) (stack : Option String) :
    functions resource resources stack = functions resource resources' stack := by
  have h_function : function? resources = function? resources' := by
    funext name
    unfold function?
    rw [same.get?_eq]
  have h_entries : ∀ entries,
      readEntries resources stack entries = readEntries resources' stack entries := by
    intro entries
    induction entries with
    | nil => rfl
    | cons entry rest ih =>
      rw [readEntries, readEntries, readEntry, readEntry, Reference.resolveValue_congr same,
        h_function, ih]
  unfold functions
  simp only [h_function, h_entries]

theorem Stage.ofFunctions_congr (extension : String) (stack : Option String) :
    ofFunctions resources extension stack = ofFunctions resources' extension stack := by
  funext functions
  induction functions with
  | nil => rfl
  | cons function rest ih =>
    rw [ofFunctions, ofFunctions, ofFunction, ofFunction, Binding.ofFunction_congr same, ih]

/-- A resource declares the same among the same resources, wherever they stand. -/
theorem declares_congr {stack : String} {options : Options} {entry : String × Resource}
    {d : Declaration} :
    Declares stack options resources entry d → Declares stack options resources' entry d := by
  intro declares
  cases declares with
  | table h_kind h_built => exact .table h_kind h_built
  | resolver h_kind h_built =>
    refine .resolver h_kind ?_
    unfold Resolver.ofResource at h_built ⊢
    rwa [Pipeline.functions_congr same, Stage.ofFunctions_congr same] at h_built

end

/-! ## Resources as they stand in a value -/

namespace ResourceMap

variable {stack : Option String} {members members' : List (String × Value)}

theorem exists_readMembers_of_perm {resources : ResourceMap} (same : members.Perm members')
    (distinct : (members.map Prod.fst).Nodup)
    (accepted : readMembers stack members = .ok resources) :
    ∃ resources', readMembers stack members' = .ok resources' ∧ resources.Reorders resources' := by
  have distinct' : (members'.map Prod.fst).Nodup := (same.map _).nodup_iff.1 distinct
  rw [readMembers_eq_ok_iff distinct, readEntries_eq_ok_iff] at accepted
  obtain ⟨entries, h_entries, h_perm⟩ := List.perm_comp_forall₂ same.symm accepted
  rw [← readEntries_eq_ok_iff] at h_entries
  have h_read : readMembers stack members' = .ok (.ofList entries) := by
    unfold readMembers
    rw [h_entries]
  refine ⟨_, h_read, ?_⟩
  rw [readMembers_eq_ok_iff distinct', h_entries, Except.ok.injEq] at h_read
  unfold OrderedMap.Reorders
  rw [← h_read]
  exact h_perm.symm

end ResourceMap

/-! ## Ties -/

namespace Declaration

variable {roots : List String} {ds : List Declaration}

/-- Two declarations want one place in a bundle. -/
def Ties (roots : List String) : Declaration → Declaration → Prop
  | table t, table u => t.name = u.name
  | resolver r, resolver s => r.Displaces roots s
  | _, _ => False

theorem Ties.symm {d e : Declaration} (ties : d.Ties roots e) : e.Ties roots d := by
  cases d with
  | table t =>
    cases e with
    | table u => exact Eq.symm ties
    | resolver _ => cases ties
  | resolver r =>
    cases e with
    | table _ => cases ties
    | resolver s => exact Resolver.Displaces.symm ties

theorem nodup_names_of_untied (untied : ds.Pairwise fun d e => ¬ d.Ties roots e) :
    ((tablesOf ds).map Table.name).Nodup := by
  rw [List.Nodup, List.pairwise_map, tablesOf, List.pairwise_filterMap]
  refine untied.imp fun {d e} h_untied t h_t u h_u same => ?_
  rw [table?_eq_some_iff] at h_t h_u
  subst h_t h_u
  exact h_untied same

theorem pairwise_filed_of_untied (untied : ds.Pairwise fun d e => ¬ d.Ties roots e)
    (bucket : Bucket) : (filed roots bucket ds).Pairwise fun r s => ¬ bucket.Clash r s := by
  rw [filed, List.pairwise_filter, resolversOf, List.pairwise_filterMap]
  refine untied.imp fun {d e} h_untied r h_r s h_s h_bucket h_bucket' h_clash => ?_
  rw [resolver?_eq_some_iff] at h_r h_s
  rw [decide_eq_true_eq] at h_bucket h_bucket'
  subst h_r h_s
  exact h_untied ⟨h_bucket.trans h_bucket'.symm, h_bucket'.symm ▸ h_clash⟩

theorem tablesOf_perm {ds' : List Declaration} (same : ds.Perm ds') :
    (tablesOf ds).Perm (tablesOf ds') :=
  same.filterMap _

theorem filed_perm {ds' : List Declaration} (same : ds.Perm ds') (bucket : Bucket) :
    (filed roots bucket ds).Perm (filed roots bucket ds') :=
  (same.filterMap _).filter _

end Declaration

/-- Two tables differ at most in the order of the names that they list. -/
structure Table.Agrees (t u : Table) : Prop where
  resolverNames : t.resolverNames.Perm u.resolverNames
  secondaryIndexResolverNames :
    t.secondaryIndexResolverNames.Perm u.secondaryIndexResolverNames
  others : t = { u with
    resolverNames := t.resolverNames
    secondaryIndexResolverNames := t.secondaryIndexResolverNames }

namespace Bundle

open Declaration OrderedMap

variable {stack : String} {options : Options} {resources resources' : ResourceMap}
  {entries : List (String × Resource)} {ds : List Declaration} {warnings : List Warning}
  {b c : Bundle}

/-! ## Success -/

theorem exists_declareAll
    (h_each : ∀ entry ∈ entries, declaring entry = true →
      ∃ d, Declares stack options resources entry d) (b : Bundle) :
    ∃ c, (declareAll stack options resources b entries).outcome = .ok c := by
  induction entries generalizing b with
  | nil => exact ⟨b, rfl⟩
  | cons entry rest ih =>
    rw [List.forall_mem_cons] at h_each
    obtain ⟨h_entry, h_rest⟩ := h_each
    have h_first : ∃ said next, declare stack options resources b entry = ⟨said, .ok next⟩ := by
      by_cases h_declaring : declaring entry = true
      · obtain ⟨d, declares⟩ := h_entry h_declaring
        exact ⟨_, _, declare_eq_ok_iff.2 (Or.inl ⟨h_declaring, d, declares, rfl, rfl⟩)⟩
      · exact ⟨_, _, declare_eq_ok_iff.2 (Or.inr ⟨by simpa using h_declaring, rfl, rfl⟩)⟩
    obtain ⟨said, next, h_first⟩ := h_first
    obtain ⟨c, h_later⟩ := ih h_rest next
    refine ⟨c, ?_⟩
    rw [declareAll, Logged.foldl_cons, Logged.outcome_bind_eq_ok_iff]
    exact ⟨next, by rw [h_first], h_later⟩

/-- A stack is accepted if each of its tables and resolvers declares something. -/
theorem exists_ofResources_iff :
    (∃ b, (ofResources stack options resources).outcome = .ok b) ↔
      ∀ entry ∈ resources.entries, declaring entry = true →
        ∃ d, Declares stack options resources entry d := by
  constructor
  · rintro ⟨b, accepted⟩ entry member h_declaring
    obtain ⟨ds, declared, -⟩ := ofResources_holds (Logged.ext rfl accepted)
    obtain ⟨before, after, h_entries⟩ := List.append_of_mem member
    rw [h_entries] at declared
    obtain ⟨-, d, -, -, declares, -⟩ := declared_split declared h_declaring
    exact ⟨d, declares⟩
  · intro h_each
    obtain ⟨c, h_all⟩ := exists_declareAll h_each (empty stack)
    exact ⟨c.link, Logged.outcome_bind_eq_ok_iff.2 ⟨c, h_all, rfl⟩⟩

theorem exists_ofResources_of_reorders (same : resources.Reorders resources')
    (accepted : ∃ b, (ofResources stack options resources).outcome = .ok b) :
    ∃ b, (ofResources stack options resources').outcome = .ok b := by
  rw [exists_ofResources_iff] at accepted ⊢
  intro entry member h_declaring
  obtain ⟨d, declares⟩ := accepted entry ((List.Perm.mem_iff same).2 member) h_declaring
  exact ⟨d, declares_congr same declares⟩

/-! ## Stacks without ties -/

/-- No two resources of a stack declare what wants one place in its bundle. -/
def Untied (stack : String) (options : Options) (resources : ResourceMap) : Prop :=
  resources.entries.Pairwise fun first second =>
    ∀ d e, Declares stack options resources first d → Declares stack options resources second e →
      ¬ d.Ties options.roots e

theorem Untied.of_reorders (same : resources.Reorders resources')
    (untied : Untied stack options resources) : Untied stack options resources' := by
  unfold Untied at untied
  rw [List.Perm.pairwise_iff
    (fun h_pair d e h_d h_e h_ties => h_pair e d h_e h_d h_ties.symm) same] at untied
  exact untied.imp fun h_pair d e h_d h_e =>
    h_pair d e (declares_congr same.symm h_d) (declares_congr same.symm h_e)

/-- A stack without ties is not warned of anything. -/
theorem warnings_eq_nil (accepted : ofResources stack options resources = ⟨warnings, .ok b⟩)
    (untied : Untied stack options resources) : warnings = [] := by
  obtain ⟨ds, declared, h_holds, -, h_count⟩ := ofResources_holds accepted
  have h_pairs := (pairwise_declared_iff declared).1 untied
  have h_names : (((tablesOf ds).map fun t => b.linkTable t.name t).map Table.name).Nodup := by
    rw [List.map_map]
    exact nodup_names_of_untied h_pairs
  have h_fields : ((filed options.roots .model ds).map Resolver.fieldName).Nodup :=
    List.pairwise_map.2 (pairwise_filed_of_untied h_pairs .model)
  have h_tables := h_holds.tables.size_eq h_names
  have h_models := h_holds.models.size_eq h_fields
  rw [List.length_map] at h_tables
  rw [← List.length_eq_zero_iff]
  omega

/-! ## Bundles that agree -/

theorem name_ofResources (accepted : (ofResources stack options resources).outcome = .ok b) :
    b.name = stack := by
  obtain ⟨c, h_all, h_linked⟩ := Logged.outcome_bind_eq_ok_iff.1 accepted
  cases h_linked
  exact Logged.outcome_foldl_induction (P := fun c => c.name = stack)
    (fun _ _ _ h_name h_step => (name_declare h_step).trans h_name) rfl h_all

/-- Two bundles hold the same, in whatever order. -/
structure Agrees (b c : Bundle) : Prop where
  name : b.name = c.name
  tables : ∀ name, Option.Rel Table.Agrees (b.tables.get? name) (c.tables.get? name)
  models : b.models.Reorders c.models
  secondary : b.secondary.Reorders c.secondary
  secondaryTables : b.secondaryTables.Reorders c.secondaryTables
  dropped : b.dropped.Reorders c.dropped
  endpoints : ∀ endpoint,
    Option.Rel List.Perm (b.endpoints.get? endpoint) (c.endpoints.get? endpoint)
  functions : ∀ function,
    Option.Rel List.Perm (b.functions.get? function) (c.functions.get? function)

theorem agrees_linkTable (h_models : b.models.Reorders c.models)
    (h_tables : b.secondaryTables.Reorders c.secondaryTables) (name : String) (t : Table) :
    (b.linkTable name t).Agrees (c.linkTable name t) where
  resolverNames := (List.Perm.filterMap _ h_models).append_left t.resolverNames
  secondaryIndexResolverNames :=
    (List.Perm.filterMap _ h_tables).append_left t.secondaryIndexResolverNames
  others := rfl

theorem Holds.get?_tables {roots : List String}
    (h_b : b.Holds roots ((tablesOf ds).map fun t => b.linkTable t.name t) ds) (name : String) :
    b.tables.get? name =
      ((tablesOf ds).filter fun t => t.name = name).getLast?.map fun t => b.linkTable t.name t := by
  rw [h_b.tables.get?, List.filter_map, List.getLast?_map]
  rfl

/-- The same resources in another order make the same declarations in another order. -/
theorem declared_perm {ds' : List Declaration} (same : resources.Reorders resources')
    (declared : List.Forall₂ (Declares stack options resources)
      (resources.entries.filter declaring) ds)
    (declared' : List.Forall₂ (Declares stack options resources')
      (resources'.entries.filter declaring) ds') : ds.Perm ds' := by
  obtain ⟨ds'', h_again, h_perm⟩ :=
    List.perm_comp_forall₂ (List.Perm.filter declaring same.symm) declared
  have declared'' := h_again.imp fun _ _ => declares_congr same
  have h_same : ds' = ds'' :=
    List.right_unique_forall₂' (fun _ _ _ first second => first.unique second) declared' declared''
  rw [h_same]
  exact h_perm.symm

/-- Stacks with the same resources and no ties have bundles that agree. -/
theorem agrees_of_reorders (same : resources.Reorders resources')
    (untied : Untied stack options resources)
    (accepted : (ofResources stack options resources).outcome = .ok b)
    (accepted' : (ofResources stack options resources').outcome = .ok c) : b.Agrees c := by
  obtain ⟨ds, declared, h_b, -⟩ := ofResources_holds (Logged.ext rfl accepted)
  obtain ⟨ds', declared', h_c, -⟩ := ofResources_holds (Logged.ext rfl accepted')
  have h_perm : ds.Perm ds' := declared_perm same declared declared'
  have h_pairs := (pairwise_declared_iff declared).1 untied
  have h_models : b.models.Reorders c.models :=
    h_b.models.reorders h_c.models (filed_perm h_perm .model)
      (List.pairwise_map.2 (pairwise_filed_of_untied h_pairs .model))
  have h_secondary : b.secondary.Reorders c.secondary :=
    h_b.secondary.reorders h_c.secondary (filed_perm h_perm .secondaryIndex)
      (List.pairwise_map.2 (pairwise_filed_of_untied h_pairs .secondaryIndex))
  have h_recorded : b.secondaryTables.Reorders c.secondaryTables := by
    rw [(consistent_ofResources accepted).secondaryTables_eq,
      (consistent_ofResources accepted').secondaryTables_eq]
    exact List.Perm.map _ h_secondary
  exact
    { name := (name_ofResources accepted).trans (name_ofResources accepted').symm
      tables := by
        intro name
        rw [h_b.get?_tables, h_c.get?_tables,
          getLast?_filter_eq_of_perm (tablesOf_perm h_perm) (nodup_names_of_untied h_pairs)]
        cases ((tablesOf ds').filter fun t => t.name = name).getLast? with
        | none => exact .none
        | some t => exact .some (agrees_linkTable h_models h_recorded t.name t)
      models := h_models
      secondary := h_secondary
      secondaryTables := h_recorded
      dropped := h_b.dropped.reorders h_c.dropped (filed_perm h_perm .dropped)
        (List.pairwise_map.2 (pairwise_filed_of_untied h_pairs .dropped))
      endpoints := h_b.endpoints.rel_perm h_c.endpoints (filed_perm h_perm .http)
      functions := h_b.functions.rel_perm h_c.functions (filed_perm h_perm .function) }

/-! ## Order -/

/-- Two runs are alike: both succeed or none does, and if nothing is tied, the bundles agree and
    nothing is warned of. -/
structure Alike (untied : Prop) (x y : Logged Bundle) : Prop where
  succeeds : (∃ b, x.outcome = .ok b) ↔ ∃ c, y.outcome = .ok c
  agrees : untied → ∀ b c, x.outcome = .ok b → y.outcome = .ok c →
    x.warnings = [] ∧ y.warnings = [] ∧ b.Agrees c

theorem alike_ofResources (same : resources.Reorders resources') :
    Alike (Untied stack options resources) (ofResources stack options resources)
      (ofResources stack options resources') where
  succeeds := ⟨exists_ofResources_of_reorders same, exists_ofResources_of_reorders same.symm⟩
  agrees untied _ _ accepted accepted' :=
    ⟨warnings_eq_nil (Logged.ext rfl accepted) untied,
      warnings_eq_nil (Logged.ext rfl accepted') (untied.of_reorders same),
      agrees_of_reorders same untied accepted accepted'⟩

theorem alike_ofValue {members members' : List (String × Value)} (same : members.Perm members')
    (distinct : (members.map Prod.fst).Nodup) :
    Alike
      (∀ resources, ResourceMap.readMembers (some stack) members = .ok resources →
        Untied stack options resources)
      (ofValue stack options (.object members)) (ofValue stack options (.object members')) := by
  have distinct' : (members'.map Prod.fst).Nodup := (same.map _).nodup_iff.1 distinct
  cases h_read : ResourceMap.readMembers (some stack) members with
  | ok resources =>
    obtain ⟨resources', h_read', h_same⟩ :=
      ResourceMap.exists_readMembers_of_perm same distinct h_read
    simp only [ofValue, h_read, h_read', Except.ok.injEq, forall_eq']
    exact alike_ofResources h_same
  | error problem =>
    cases h_read' : ResourceMap.readMembers (some stack) members' with
    | ok resources' =>
      obtain ⟨resources, h_again, -⟩ :=
        ResourceMap.exists_readMembers_of_perm same.symm distinct' h_read'
      rw [h_read] at h_again
      cases h_again
    | error problem' =>
      simp only [ofValue, h_read, h_read']
      exact ⟨by simp [Logged.ofOutcome], fun _ _ _ accepted => by cases accepted⟩

/-- The order in which a stack declares its resources does not decide whether it is accepted.  If no
    two of them want one place, it does not decide what the bundle holds, and nothing is warned
    of. -/
theorem alike_of_reorders (stack : String) (options : Options) :
    (∀ resources resources' : ResourceMap, resources.Reorders resources' →
      Alike (Untied stack options resources) (ofResources stack options resources)
        (ofResources stack options resources')) ∧
    ∀ members members' : List (String × Value), members.Perm members' →
      (members.map Prod.fst).Nodup →
        Alike
          (∀ resources, ResourceMap.readMembers (some stack) members = .ok resources →
            Untied stack options resources)
          (ofValue stack options (.object members)) (ofValue stack options (.object members')) :=
  ⟨fun _ _ same => alike_ofResources same, fun _ _ same distinct => alike_ofValue same distinct⟩

/-! ## A small stack -/

/-- A stack with one table and two fields that are backed by it. -/
def pagedResources : ResourceMap :=
  .ofList (("PostTable", keyedResource) ::
    ("Post", pipelineResource "Query" "post" ["PostTableReader"]) ::
    ("Page", pipelineResource "Query" "page" ["PostTableReader"]) :: readersOf ["PostTable"])

/-- The stack from its end to its beginning. -/
def reversedResources : ResourceMap := .ofList pagedResources.entries.reverse

theorem untied_pagedResources : Untied "Blog" Options.standard pagedResources := by
  have h_kept : pagedResources.entries.filter declaring =
      [("PostTable", keyedResource),
        ("Post", pipelineResource "Query" "post" ["PostTableReader"]),
        ("Page", pipelineResource "Query" "page" ["PostTableReader"])] := rfl
  have h_declared : ∃ t r s, List.Forall₂ (Declares "Blog" Options.standard pagedResources)
        (pagedResources.entries.filter declaring) [.table t, .resolver r, .resolver s] ∧
      r.bucket Options.standard.roots = .model ∧ s.bucket Options.standard.roots = .model ∧
      r.fieldName = "post" ∧ s.fieldName = "page" := by
    rw [h_kept]
    exact ⟨_, _, _,
      .cons (.table rfl rfl) (.cons (.resolver rfl rfl) (.cons (.resolver rfl rfl) .nil)),
      rfl, rfl, rfl, rfl⟩
  obtain ⟨t, r, s, declared, h_r, h_s, h_post, h_page⟩ := h_declared
  refine (pairwise_declared_iff declared).2 ?_
  simp [Declaration.Ties, Resolver.Displaces, h_r, h_s, Bucket.Clash, h_post, h_page]

theorem pagedResources_alike :
    ∃ b c t u, ofResources "Blog" Options.standard pagedResources = ⟨[], .ok b⟩ ∧
      ofResources "Blog" Options.standard reversedResources = ⟨[], .ok c⟩ ∧
      b.tables.get? "PostTable" = some t ∧ t.resolverNames = ["post", "page"] ∧
      c.tables.get? "PostTable" = some u ∧ u.resolverNames = ["page", "post"] ∧ b.Agrees c ∧
      ofValue "Blog" Options.standard (.object (recordsOf pagedResources)) = ⟨[], .ok b⟩ ∧
      ∃ c', ofValue "Blog" Options.standard (.object (recordsOf pagedResources).reverse) =
        ⟨[], .ok c'⟩ ∧ b.Agrees c' := by
  have h_left : ∃ b c t u, ofResources "Blog" Options.standard pagedResources = ⟨[], .ok b⟩ ∧
      ofResources "Blog" Options.standard reversedResources = ⟨[], .ok c⟩ ∧
      b.tables.get? "PostTable" = some t ∧ t.resolverNames = ["post", "page"] ∧
      c.tables.get? "PostTable" = some u ∧ u.resolverNames = ["page", "post"] ∧
      ofValue "Blog" Options.standard (.object (recordsOf pagedResources)) = ⟨[], .ok b⟩ ∧
      ∃ c', ofValue "Blog" Options.standard (.object (recordsOf pagedResources).reverse) =
        ⟨[], .ok c'⟩ :=
    ⟨_, _, _, _, rfl, rfl, rfl, rfl, rfl, rfl, rfl, _, rfl⟩
  have h_same : pagedResources.Reorders reversedResources := (List.reverse_perm _).symm
  have h_read : ResourceMap.readMembers (some "Blog") (recordsOf pagedResources) =
      .ok pagedResources := rfl
  have h_distinct : ((recordsOf pagedResources).map Prod.fst).Nodup := by
    rw [recordsOf, List.map_map]
    exact pagedResources.nodup
  obtain ⟨b, c, t, u, accepted, accepted', h_t, h_post, h_u, h_page, read, c', read'⟩ := h_left
  obtain ⟨-, -, h_agrees⟩ := ((alike_of_reorders "Blog" Options.standard).1 _ _ h_same).agrees
    untied_pagedResources b c (by rw [accepted]) (by rw [accepted'])
  obtain ⟨-, -, h_agrees'⟩ := ((alike_of_reorders "Blog" Options.standard).2 _ _
      (List.reverse_perm _).symm h_distinct).agrees
    (by
      intro resources h_resources
      rw [h_read, Except.ok.injEq] at h_resources
      exact h_resources ▸ untied_pagedResources)
    b c' (by rw [read]) (by rw [read'])
  exact ⟨b, c, t, u, accepted, accepted', h_t, h_post, h_u, h_page, h_agrees, read, c', read',
    h_agrees'⟩

end Bundle

end ResourceGraph
