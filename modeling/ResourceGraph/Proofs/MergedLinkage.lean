import ResourceGraph.Proofs.Merging
import ResourceGraph.Proofs.Separation
import ResourceGraph.Proofs.TableNames

/-! # Linkage of merged stacks

The stacks of a document are linked one by one, and their bundles are merged as they stand.  A
merged table is therefore the table of the last stack that has it, and it lists the fields of that
stack only (`merged_lists_iff`).  In `splitDocument_lists` it lists a field that the merged bundle
backs by another table, and misses one that the merged bundle backs by this table.
-/

namespace ResourceGraph

namespace Bundle

variable {options : Options} {warnings : List Warning} {bundles : List (String × Bundle)}

/-! ## The bundles of a document -/

theorem exists_ofResources_of_ofDocument {document : Value}
    (accepted : ofDocument options document = ⟨warnings, .ok bundles⟩)
    {entry : String × Bundle} (member : entry ∈ bundles) :
    ∃ resources said, ofResources entry.1 options resources = ⟨said, .ok entry.2⟩ := by
  have h_loaded : ∃ loaded, (ofStacks options loaded).outcome = .ok bundles := by
    unfold ofDocument at accepted
    split at accepted
    · split at accepted
      next found _ => exact ⟨found, by rw [accepted]⟩
      next => cases accepted
    · cases accepted
  obtain ⟨loaded, h_loaded⟩ := h_loaded
  obtain ⟨stack, -, h_name, h_bundle⟩ :=
    exists_left_of_forall₂ (forall₂_ofStacks h_loaded) member
  rw [h_name]
  exact ⟨stack.2, _, Logged.ext rfl h_bundle⟩

/-! ## Tables of several stacks -/

/-- A merged table is the one of the last stack that has it, and it lists the fields that this stack
    backs by it.  A field that no other stack takes over is listed as the merged bundle backs it. -/
theorem merged_lists_iff {document : Value} {name table : String} {t : Table}
    (accepted : ofDocument options document = ⟨warnings, .ok bundles⟩)
    (found : (merge name (bundles.map Prod.snd)).tables.get? table = some t) :
    ∃ earlier owner later, bundles = earlier ++ owner :: later ∧
      owner.2.tables.get? table = some t ∧
      (∀ other ∈ later, other.2.tables.get? table = none) ∧
      t.resolverNames.Nodup ∧
      (∀ field, field ∈ t.resolverNames ↔
        ∃ r, owner.2.models.get? field = some r ∧ r.WorksOn table) ∧
      ∀ field,
        (merge name (bundles.map Prod.snd)).models.get? field = owner.2.models.get? field →
          (field ∈ t.resolverNames ↔
            ∃ r, (merge name (bundles.map Prod.snd)).models.get? field = some r ∧
              r.WorksOn table) := by
  rw [(gathers_merge name _).tables, List.filterMap_map] at found
  obtain ⟨earlier, owner, later, h_bundles, h_table, h_later⟩ :=
    getLast?_filterMap_eq_some_iff.1 found
  have h_owner : owner ∈ bundles := by simp [h_bundles]
  obtain ⟨resources, said, h_made⟩ := exists_ofResources_of_ofDocument accepted h_owner
  have h_names : t.resolverNames = owner.2.fieldsAt table := resolverNames_eq h_made h_table
  have h_iff : ∀ field, field ∈ t.resolverNames ↔
      ∃ r, owner.2.models.get? field = some r ∧ r.WorksOn table := by
    intro field
    rw [h_names, mem_fieldsAt_iff]
  refine ⟨earlier, owner, later, h_bundles, h_table, h_later, ?_, h_iff, ?_⟩
  · rw [h_names]
    exact owner.2.models.nodup_keys.filter _
  · intro field h_same
    rw [h_same, h_iff]

/-! ## A small document -/

/-- Several stacks as they stand in a document. -/
def documentOf (loaded : List (String × ResourceMap)) : Value :=
  .object (loaded.map fun stack => (stack.1, .object (recordsOf stack.2)))

/-- A document in which one stack has a table with a field, and another stack backs that field by
    another table and a further field by the table of the first stack. -/
def splitDocument : Value :=
  documentOf
    [("Data", spelledResources "PostTable" ["PostTable"]),
      ("Fields", .ofList (("Post", pipelineResource "Query" "post" ["TagTableReader"]) ::
        ("Page", pipelineResource "Query" "page" ["PostTableReader"]) ::
        readersOf ["PostTable", "TagTable"]))]

theorem splitDocument_merged :
    ∃ bundles t, ofDocument Options.standard splitDocument = ⟨[], .ok bundles⟩ ∧
      (merge "bundle" (bundles.map Prod.snd)).tables.get? "PostTable" = some t ∧
      t.resolverNames = ["post"] ∧
      ∃ owner ∈ bundles, owner.2.tables.get? "PostTable" = some t ∧
        ∀ field, field ∈ t.resolverNames ↔
          ∃ r, owner.2.models.get? field = some r ∧ r.WorksOn "PostTable" := by
  have h_left : ∃ bundles t, ofDocument Options.standard splitDocument = ⟨[], .ok bundles⟩ ∧
      (merge "bundle" (bundles.map Prod.snd)).tables.get? "PostTable" = some t ∧
      t.resolverNames = ["post"] :=
    ⟨_, _, rfl, rfl, rfl⟩
  obtain ⟨bundles, t, accepted, found, h_post⟩ := h_left
  obtain ⟨earlier, owner, later, h_bundles, h_table, -, -, h_iff, -⟩ :=
    merged_lists_iff accepted found
  exact ⟨bundles, t, accepted, found, h_post, owner, by simp [h_bundles], h_table, h_iff⟩

/-- A merged table lists a field that the merged bundle backs by another table, and not the field
    that it backs by this one. -/
theorem splitDocument_lists :
    ∃ bundles t post page, ofDocument Options.standard splitDocument = ⟨[], .ok bundles⟩ ∧
      (merge "bundle" (bundles.map Prod.snd)).tables.get? "PostTable" = some t ∧
      t.resolverNames = ["post"] ∧
      (merge "bundle" (bundles.map Prod.snd)).models.get? "post" = some post ∧
      ¬ post.WorksOn "PostTable" ∧
      (merge "bundle" (bundles.map Prod.snd)).models.get? "page" = some page ∧
      page.WorksOn "PostTable" :=
  ⟨_, _, _, _, rfl, rfl, rfl, rfl, of_decide_eq_false rfl, rfl, of_decide_eq_true rfl⟩

end Bundle

end ResourceGraph
