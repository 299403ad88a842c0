import ResourceGraph.Proofs.TemplateGroups

/-! # Templates of one field

The entry of a field is found under type and field joined, and fields that read the same when
joined share an entry.  When does the entry of a field have the file that is called like the
field?  By `TemplateDirectory.points_iff` it depends on the order of the files that share the
entry: the first one gives it its names, the last one of a direction its path.  Order is expressed
by `Precedes`, that two items of a list stand one before the other.  The files in
`joinedDirectory_hides` come in the wrong order.
-/

namespace ResourceGraph

/-! ## Order in a list -/

section

variable {α : Type} {items : List α} {a b : α}

/-- An item stands somewhere before another. -/
def Precedes (items : List α) (a b : α) : Prop := [a, b].Sublist items

instance [DecidableEq α] : Decidable (Precedes items a b) :=
  inferInstanceAs (Decidable ([a, b].Sublist items))

theorem precedes_filter_iff {p : α → Bool} (h_a : p a = true) (h_b : p b = true) :
    Precedes (items.filter p) a b ↔ Precedes items a b := by
  constructor
  · exact fun precedes => precedes.trans List.filter_sublist
  · intro precedes
    have h_kept := List.Sublist.filter p precedes
    rwa [List.filter_cons_of_pos h_a, List.filter_cons_of_pos h_b, List.filter_nil] at h_kept

theorem precedes_head {rest : List α} (member : b ∈ rest) : Precedes (a :: rest) a b :=
  (List.singleton_sublist.2 member).cons_cons a

theorem mem_of_precedes_head {rest : List α} (precedes : Precedes (b :: rest) a b) : b ∈ rest := by
  cases precedes with
  | cons _ later => exact later.subset (by simp)
  | cons_cons _ later => exact later.subset (by simp)

/-- The first item has a property if and only if an item with it stands before every other one. -/
theorem exists_head_iff {P : α → Prop} (distinct : items.Nodup) (h_some : items ≠ []) :
    (∃ b rest, items = b :: rest ∧ P b) ↔
      ∀ other ∈ items, ¬ P other → ∃ own ∈ items, P own ∧ Precedes items own other := by
  constructor
  · rintro ⟨b, rest, rfl, h_b⟩ other h_other h_foreign
    rcases List.mem_cons.1 h_other with rfl | later
    · exact absurd h_b h_foreign
    · exact ⟨b, List.mem_cons_self, h_b, precedes_head later⟩
  · intro h_before
    cases items with
    | nil => exact absurd rfl h_some
    | cons b rest =>
      refine ⟨b, rest, rfl, Classical.byContradiction fun h_foreign => ?_⟩
      obtain ⟨own, -, -, precedes⟩ := h_before b List.mem_cons_self h_foreign
      exact (List.nodup_cons.1 distinct).1 (mem_of_precedes_head precedes)

/-- The last item is the one that stands before no other. -/
theorem getLast?_eq_some_iff_precedes (distinct : items.Nodup) (member : a ∈ items) :
    items.getLast? = some a ↔ ∀ b, ¬ Precedes items a b := by
  rw [List.getLast?_eq_some_iff]
  constructor
  · rintro ⟨front, rfl⟩ b precedes
    have h_reversed := List.reverse_sublist.2 precedes
    rw [List.reverse_append] at h_reversed
    have h_front : a ∈ front := List.mem_reverse.1 (mem_of_precedes_head h_reversed)
    exact (List.nodup_append.1 distinct).2.2 a h_front a List.mem_cons_self rfl
  · intro h_last
    obtain ⟨front, b, rfl⟩ := List.eq_nil_or_concat' items |>.resolve_left (List.ne_nil_of_mem member)
    rcases List.mem_append.1 member with h_front | h_end
    · have precedes : Precedes (front ++ [b]) a b :=
        (List.singleton_sublist.2 h_front).append (List.Sublist.refl [b])
      exact absurd precedes (h_last b)
    · exact ⟨front, by rw [List.mem_singleton.1 h_end]⟩

end

/-! ## Entries of a field -/

/-- A file is about a field. -/
def TemplateFile.IsAbout (f : TemplateFile) (typeName fieldName : String) : Prop :=
  f.typeName = typeName ∧ f.fieldName = fieldName

namespace GroupedTemplates

open ResolverTemplates (lastOf)

/-- An entry about a field has a file in a direction. -/
def Points (groups : GroupedTemplates) (typeName fieldName : String)
    (direction : TemplateDirection) (file : String) : Prop :=
  ∃ group key entry, (groups.get group).get? key = some entry ∧
    entry.typeName = typeName ∧ entry.fieldName = fieldName ∧ entry.path direction = some file

variable {group : TemplateGroup} {files : List TemplateFile}
  {entries : OrderedMap String ResolverTemplates} {typeName fieldName file : String}
  {direction : TemplateDirection}

/-- An entry has the names of its first file, and these are what its key is joined from. -/
theorem Collects.exists_entry_iff (collects : Collects group files entries) :
    (∃ key entry, entries.get? key = some entry ∧
        entry.typeName = typeName ∧ entry.fieldName = fieldName ∧
          entry.path direction = some file) ↔
      (∃ first rest, (files.filter fun f => f.key = typeName ++ fieldName) = first :: rest ∧
          first.IsAbout typeName fieldName) ∧
        lastOf direction (files.filter fun f => f.key = typeName ++ fieldName) = some file := by
  constructor
  · rintro ⟨key, entry, found, rfl, rfl, h_path⟩
    have sums := collects.sums key entry found
    obtain ⟨first, rest, h_files, h_type, h_field⟩ := sums.names
    have h_first : first ∈ files.filter fun f => f.key = key := h_files ▸ List.mem_cons_self
    have h_key : entry.typeName ++ entry.fieldName = key := by
      rw [h_type, h_field]
      exact of_decide_eq_true (List.mem_filter.1 h_first).2
    rw [h_key]
    exact ⟨⟨first, rest, h_files, h_type.symm, h_field.symm⟩, (sums.path direction).symm.trans h_path⟩
  · rintro ⟨⟨first, rest, h_files, about⟩, h_last⟩
    have h_first : first ∈ files.filter fun f => f.key = typeName ++ fieldName :=
      h_files ▸ List.mem_cons_self
    obtain ⟨member, h_key⟩ := List.mem_filter.1 h_first
    obtain ⟨entry, found⟩ : ∃ entry, entries.get? (typeName ++ fieldName) = some entry := by
      rw [← OrderedMap.mem_keys_iff, collects.mem_keys_iff]
      exact ⟨first, member, of_decide_eq_true h_key⟩
    have sums := collects.sums _ entry found
    obtain ⟨opener, others, h_same, h_type, h_field⟩ := sums.names
    rw [h_files, List.cons.injEq] at h_same
    obtain ⟨rfl, -⟩ := h_same
    exact ⟨_, entry, found, h_type.trans about.1, h_field.trans about.2,
      (sums.path direction).trans h_last⟩

end GroupedTemplates

namespace TemplateDirectory

open GroupedTemplates (Points)
open ResolverTemplates (lastOf)
open TemplateFile (IsNamed)

/-- A file goes into the entry of a field: it is of the same group, and its type and field read the
    same when joined. -/
structure Shares (d : TemplateDirectory) (lists : OrderedMap (Option String) (List Resolver))
    (typeName fieldName : String) (f : TemplateFile) : Prop where
  member : f ∈ d.templateFiles
  joined : f.typeName ++ f.fieldName = typeName ++ fieldName
  group : ∃ group, GroupOf d.roots lists typeName fieldName group ∧
    GroupOf d.roots lists f.typeName f.fieldName group

variable {d : TemplateDirectory} {lists : OrderedMap (Option String) (List Resolver)}
  {group : TemplateGroup} {typeName fieldName file : String} {direction : TemplateDirection}
  {f own : TemplateFile}

/-- The files of an entry. -/
def sharedFiles (d : TemplateDirectory) (lists : OrderedMap (Option String) (List Resolver))
    (group : TemplateGroup) (typeName fieldName : String) : List TemplateFile :=
  (d.filesOf lists group).filter fun f => f.key = typeName ++ fieldName

theorem mem_sharedFiles_iff (belongs : GroupOf d.roots lists typeName fieldName group) :
    f ∈ d.sharedFiles lists group typeName fieldName ↔ d.Shares lists typeName fieldName f := by
  rw [sharedFiles, filesOf, List.mem_filter, List.mem_filter, decide_eq_true_iff,
    decide_eq_true_iff, groupOf_eq_iff]
  constructor
  · rintro ⟨⟨member, h_group⟩, joined⟩
    exact ⟨member, joined, group, belongs, h_group⟩
  · rintro ⟨member, joined, other, h_belongs, h_group⟩
    rw [h_belongs.unique belongs] at h_group
    exact ⟨⟨member, h_group⟩, joined⟩

theorem precedes_sharedFiles_iff {a b : TemplateFile}
    (h_a : a ∈ d.sharedFiles lists group typeName fieldName)
    (h_b : b ∈ d.sharedFiles lists group typeName fieldName) :
    Precedes (d.sharedFiles lists group typeName fieldName) a b ↔ Precedes d.templateFiles a b := by
  obtain ⟨member_a, key_a⟩ := List.mem_filter.1 h_a
  obtain ⟨member_b, key_b⟩ := List.mem_filter.1 h_b
  have h_group : Precedes (d.filesOf lists group) a b ↔ Precedes d.templateFiles a b :=
    precedes_filter_iff (List.mem_filter.1 member_a).2 (List.mem_filter.1 member_b).2
  rw [← h_group]
  exact precedes_filter_iff key_a key_b

theorem points_iff_sharedFiles (belongs : GroupOf d.roots lists typeName fieldName group) :
    (d.grouped (resolverFields lists)).Points typeName fieldName direction file ↔
      (∃ first rest, d.sharedFiles lists group typeName fieldName = first :: rest ∧
          first.IsAbout typeName fieldName) ∧
        lastOf direction (d.sharedFiles lists group typeName fieldName) = some file := by
  constructor
  · rintro ⟨other, h_points⟩
    obtain ⟨⟨first, rest, h_files, about⟩, h_last⟩ :=
      (d.collects_grouped lists other).exists_entry_iff.1 h_points
    have h_first : first ∈ d.sharedFiles lists other typeName fieldName := by
      rw [sharedFiles, h_files]
      exact List.mem_cons_self
    have h_group := (List.mem_filter.1 (List.mem_filter.1 h_first).1).2
    rw [decide_eq_true_iff, groupOf_eq_iff, about.1, about.2] at h_group
    rw [← h_group.unique belongs]
    exact ⟨⟨first, rest, h_files, about⟩, h_last⟩
  · intro h_shared
    exact ⟨group, (d.collects_grouped lists group).exists_entry_iff.2 h_shared⟩

theorem mem_templateFiles_iff :
    f ∈ d.templateFiles ↔ ∃ name, d.index.get? name = some f.file ∧ IsNamed name f := by
  rw [templateFiles, List.mem_filterMap]
  constructor
  · rintro ⟨⟨name, file⟩, member, h_f⟩
    obtain ⟨rfl, named⟩ := TemplateFile.ofName?_eq_some_iff.1 h_f
    exact ⟨name, OrderedMap.get?_eq_some_iff.2 member, named⟩
  · rintro ⟨name, indexed, named⟩
    exact ⟨(name, f.file), OrderedMap.get?_eq_some_iff.1 indexed,
      TemplateFile.ofName?_eq_some_iff.2 ⟨rfl, named⟩⟩

/-- No two of the files that are about fields are the same file. -/
theorem nodup_templateFiles (d : TemplateDirectory) :
    (d.templateFiles.map TemplateFile.file).Nodup := by
  have h_entries : d.index.entries.Pairwise fun a b => a.2 ≠ b.2 := by
    refine (List.pairwise_map.1 d.index.nodup).imp_of_mem fun h_a h_b h_keys same => h_keys ?_
    rw [← bareName_of_indexed (OrderedMap.get?_eq_some_iff.2 h_a),
      ← bareName_of_indexed (OrderedMap.get?_eq_some_iff.2 h_b), same]
  rw [List.Nodup, List.pairwise_map, templateFiles, List.pairwise_filterMap]
  refine h_entries.imp fun h_files f h_f g h_g => ?_
  rw [(TemplateFile.ofName?_eq_some_iff.1 h_f).1, (TemplateFile.ofName?_eq_some_iff.1 h_g).1]
  exact h_files

/-- The last file of a direction is one that comes before no other file of that direction. -/
theorem lastOf_sharedFiles_iff (shares : own ∈ d.sharedFiles lists group typeName fieldName) :
    lastOf own.direction (d.sharedFiles lists group typeName fieldName) = some own.file ↔
      ∀ other ∈ d.sharedFiles lists group typeName fieldName, other.direction = own.direction →
        ¬ Precedes d.templateFiles own other := by
  let files := d.sharedFiles lists group typeName fieldName
  let directed := files.filter fun f => f.direction = own.direction
  have h_sublist : directed.Sublist d.templateFiles :=
    List.filter_sublist.trans (List.filter_sublist.trans List.filter_sublist)
  have h_own : own ∈ directed := List.mem_filter.2 ⟨shares, decide_eq_true rfl⟩
  have h_last : lastOf own.direction files = some own.file ↔ directed.getLast? = some own := by
    rw [lastOf, Option.map_eq_some_iff]
    constructor
    · rintro ⟨last, h_last, h_file⟩
      have h_member := h_sublist.subset (List.mem_of_getLast? h_last)
      rwa [← List.inj_on_of_nodup_map d.nodup_templateFiles h_member (h_sublist.subset h_own) h_file]
    · exact fun h_last => ⟨own, h_last, rfl⟩
  have distinct : directed.Nodup := (List.Nodup.of_map _ d.nodup_templateFiles).sublist h_sublist
  rw [h_last, getLast?_eq_some_iff_precedes distinct h_own]
  constructor
  · intro h_none other h_other h_direction precedes
    have h_directed : Precedes directed own other ↔ Precedes files own other :=
      precedes_filter_iff (decide_eq_true rfl) (decide_eq_true h_direction)
    exact h_none other (h_directed.2 ((precedes_sharedFiles_iff shares h_other).2 precedes))
  · intro h_none other precedes
    have h_other : other ∈ directed := precedes.subset (by simp)
    obtain ⟨h_shared, h_direction⟩ := List.mem_filter.1 h_other
    exact h_none other h_shared (of_decide_eq_true h_direction) (precedes.trans h_sublist)

/-- The entry of a field is called like the field if and only if a file about the field comes before
    every file about another field. -/
theorem sharedFiles_opened_iff (shares : own ∈ d.sharedFiles lists group typeName fieldName) :
    (∃ first rest, d.sharedFiles lists group typeName fieldName = first :: rest ∧
        first.IsAbout typeName fieldName) ↔
      ∀ other ∈ d.sharedFiles lists group typeName fieldName,
        ¬ other.IsAbout typeName fieldName →
          ∃ f ∈ d.sharedFiles lists group typeName fieldName, f.IsAbout typeName fieldName ∧
            Precedes d.templateFiles f other := by
  have distinct : (d.sharedFiles lists group typeName fieldName).Nodup :=
    ((List.Nodup.of_map _ d.nodup_templateFiles).filter _).filter _
  rw [exists_head_iff distinct (List.ne_nil_of_mem shares)]
  refine forall₃_congr fun other h_other _ => exists_congr fun f => ?_
  refine and_congr_right fun h_f => and_congr_right fun _ => ?_
  exact precedes_sharedFiles_iff h_f h_other

/-- A file that is called like a field is found in the entry of the field if and only if no file
    about another field opens that entry and no other file of its direction comes after it.  Such a
    file may be about another field or have more parts in its name. -/
theorem points_iff (d : TemplateDirectory) (lists : OrderedMap (Option String) (List Resolver))
    (dotless_type : '.' ∉ typeName.toList) (dotless_field : '.' ∉ fieldName.toList)
    (indexed : d.index.get? (typeName ++ "." ++ fieldName ++ "." ++ direction.name) = some file) :
    (d.grouped (resolverFields lists)).Points typeName fieldName direction file ↔
      (∀ other, d.Shares lists typeName fieldName other → ¬ other.IsAbout typeName fieldName →
        ∃ f ∈ d.templateFiles, f.IsAbout typeName fieldName ∧ Precedes d.templateFiles f other) ∧
      ∀ other, d.Shares lists typeName fieldName other → other.direction = direction →
        ¬ Precedes d.templateFiles ⟨typeName, fieldName, direction, file⟩ other := by
  let own : TemplateFile := ⟨typeName, fieldName, direction, file⟩
  have belongs : GroupOf d.roots lists typeName fieldName (d.groupOf (resolverFields lists) own) :=
    groupOf_spec d own
  have h_own : own ∈ d.templateFiles :=
    mem_templateFiles_iff.2 ⟨_, indexed, dotless_type, dotless_field, _, rfl, Or.inl rfl⟩
  have shares_about : ∀ f ∈ d.templateFiles, f.IsAbout typeName fieldName →
      d.Shares lists typeName fieldName f := by
    rintro f member ⟨rfl, rfl⟩
    exact ⟨member, rfl, _, belongs, belongs⟩
  have shares : own ∈ d.sharedFiles lists _ typeName fieldName :=
    (mem_sharedFiles_iff belongs).2 (shares_about own h_own ⟨rfl, rfl⟩)
  have h_opened := sharedFiles_opened_iff shares
  have h_last := lastOf_sharedFiles_iff shares
  simp only [mem_sharedFiles_iff belongs] at h_opened h_last
  rw [points_iff_sharedFiles belongs, h_opened]
  refine and_congr (forall₃_congr fun other _ _ => exists_congr fun f => ?_) h_last
  constructor
  · exact fun ⟨h_shares, about, precedes⟩ => ⟨h_shares.member, about, precedes⟩
  · exact fun ⟨member, about, precedes⟩ => ⟨shares_about f member about, about, precedes⟩

/-! ## A small directory -/

/-- A directory with files about two fields that read the same when joined. -/
def joinedDirectory : TemplateDirectory :=
  ⟨"resolvers", ["A.BC.req.vtl", "A.BC.res.vtl", "AB.C.req.vtl"], ["Query", "Mutation"], ".vtl"⟩

theorem index_joinedDirectory :
    joinedDirectory.index.entries =
      [("A.BC.req", "A.BC.req.vtl"), ("A.BC.res", "A.BC.res.vtl"),
        ("AB.C.req", "AB.C.req.vtl")] := by
  rw [index_of_pairwise (by decide)]
  decide

theorem templateFiles_joinedDirectory :
    joinedDirectory.templateFiles =
      [⟨"A", "BC", .request, "A.BC.req.vtl"⟩, ⟨"A", "BC", .response, "A.BC.res.vtl"⟩,
        ⟨"AB", "C", .request, "AB.C.req.vtl"⟩] := by
  rw [templateFiles, index_joinedDirectory]
  decide

theorem shares_joinedDirectory {f : TemplateFile}
    (shares : joinedDirectory.Shares .empty typeName fieldName f) :
    f = ⟨"A", "BC", .request, "A.BC.req.vtl"⟩ ∨ f = ⟨"A", "BC", .response, "A.BC.res.vtl"⟩ ∨
      f = ⟨"AB", "C", .request, "AB.C.req.vtl"⟩ := by
  simpa [templateFiles_joinedDirectory] using shares.member

/-- No file that goes into the entry comes after the response of the first field. -/
theorem joinedDirectory_points :
    '.' ∉ "A".toList ∧ '.' ∉ "BC".toList ∧
      joinedDirectory.index.get? "A.BC.res" = some "A.BC.res.vtl" ∧
      (joinedDirectory.grouped (resolverFields .empty)).Points "A" "BC" .response
        "A.BC.res.vtl" := by
  have dotless_type : '.' ∉ "A".toList := by decide
  have dotless_field : '.' ∉ "BC".toList := by decide
  have indexed : joinedDirectory.index.get?
      ("A" ++ "." ++ "BC" ++ "." ++ TemplateDirection.response.name) = some "A.BC.res.vtl" :=
    OrderedMap.get?_eq_some_iff.2 (by rw [index_joinedDirectory]; decide)
  have h_points := points_iff joinedDirectory .empty dotless_type dotless_field indexed
  refine ⟨dotless_type, dotless_field, indexed, h_points.2 ⟨?_, ?_⟩⟩
  · intro other shares foreign
    rw [templateFiles_joinedDirectory]
    refine ⟨_, List.mem_cons_self, ⟨rfl, rfl⟩, ?_⟩
    rcases shares_joinedDirectory shares with rfl | rfl | rfl
    · exact absurd ⟨rfl, rfl⟩ foreign
    · exact absurd ⟨rfl, rfl⟩ foreign
    · decide
  · intro other shares h_direction
    rw [templateFiles_joinedDirectory]
    rcases shares_joinedDirectory shares with rfl | rfl | rfl
    · cases h_direction
    · decide
    · cases h_direction

/-- The first field opens the entry of both, and the file of the second one is found in it. -/
theorem joinedDirectory_hides :
    joinedDirectory.index.get? "AB.C.req" = some "AB.C.req.vtl" ∧
      ¬ (joinedDirectory.grouped (resolverFields .empty)).Points "AB" "C" .request
        "AB.C.req.vtl" ∧
      (joinedDirectory.grouped (resolverFields .empty)).Points "A" "BC" .request
        "AB.C.req.vtl" := by
  have indexed : joinedDirectory.index.get? "AB.C.req" = some "AB.C.req.vtl" :=
    OrderedMap.get?_eq_some_iff.2 (by rw [index_joinedDirectory]; decide)
  have h_shared : ∀ typeName fieldName, typeName ++ fieldName = "ABC" →
      joinedDirectory.sharedFiles .empty .secondaryIndex typeName fieldName =
        joinedDirectory.templateFiles := by
    intro typeName fieldName joined
    rw [sharedFiles, filesOf, templateFiles_joinedDirectory, joined]
    decide
  have belongs : ∀ typeName fieldName, typeName ∉ joinedDirectory.roots →
      GroupOf joinedDirectory.roots .empty typeName fieldName .secondaryIndex :=
    fun _ _ h_other => .secondaryIndex h_other (List.forall_mem_nil _)
  refine ⟨indexed, ?_, ?_⟩
  · rw [points_iff_sharedFiles (belongs "AB" "C" (by decide)), h_shared "AB" "C" rfl,
      templateFiles_joinedDirectory]
    rintro ⟨⟨first, rest, h_files, about⟩, -⟩
    obtain ⟨rfl, -⟩ := List.cons.inj h_files
    exact absurd about.1 (by decide)
  · rw [points_iff_sharedFiles (belongs "A" "BC" (by decide)), h_shared "A" "BC" rfl,
      templateFiles_joinedDirectory]
    exact ⟨⟨_, _, rfl, rfl, rfl⟩, rfl⟩

end TemplateDirectory

end ResourceGraph
