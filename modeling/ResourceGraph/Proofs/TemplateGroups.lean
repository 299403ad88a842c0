import ResourceGraph.Bundle
import ResourceGraph.Proofs.TemplateLookup

/-! # Groups of template files

The files of a directory are told apart by the parts of their bare names, and the files of a field
are put together.  One entry has the names of its first file and the last file of each direction
(`ResolverTemplates.Sums`); a group collects entries in the order of their first files
(`GroupedTemplates.Collects`), and `Collects.add` is the step for one more file.  The group of a
field is decided by its type and by the known endpoints, `TemplateDirectory.GroupOf`.
-/

namespace ResourceGraph

/-! ## Names in parts -/

/-- The word for a direction. -/
def TemplateDirection.name : TemplateDirection → String
  | request => "req"
  | response => "res"

theorem TemplateDirection.ofName?_eq_some_iff {part : String} {direction : TemplateDirection} :
    ofName? part = some direction ↔ part = direction.name := by
  unfold ofName?
  by_cases h_request : part = "req"
  · cases direction <;> simp [name, h_request]
  · by_cases h_response : part = "res" <;> cases direction <;> simp [name, h_request, h_response]

theorem TemplateDirection.dotless (direction : TemplateDirection) :
    '.' ∉ direction.name.toList := by
  cases direction <;> decide

namespace TemplateFile

variable {bare file : String} {f : TemplateFile}

/-- The first two parts of a bare name are a type and a field, and the last of three parts or more
    is a direction. -/
structure IsNamed (bare : String) (f : TemplateFile) : Prop where
  typeName : '.' ∉ f.typeName.toList
  fieldName : '.' ∉ f.fieldName.toList
  parts : ∃ rest, bare = f.typeName ++ "." ++ f.fieldName ++ "." ++ rest ∧
    (rest = f.direction.name ∨ ∃ middle, rest = middle ++ "." ++ f.direction.name)

theorem isNamed_iff_pieces :
    IsNamed bare f ↔ ∃ more,
      Text.pieces '.' bare.toList = f.typeName.toList :: f.fieldName.toList :: more ∧
        more.getLast? = some f.direction.name.toList := by
  constructor
  · rintro ⟨dotless_type, dotless_field, rest, rfl, h_rest⟩
    have h_chars : (f.typeName ++ "." ++ f.fieldName ++ "." ++ rest).toList =
        f.typeName.toList ++ '.' :: (f.fieldName.toList ++ '.' :: rest.toList) := by simp
    rw [h_chars, Text.pieces_append_cons dotless_type, Text.pieces_append_cons dotless_field]
    refine ⟨_, rfl, Text.getLast?_pieces_eq_some_iff.2 ⟨f.direction.dotless, ?_⟩⟩
    rcases h_rest with rfl | ⟨middle, rfl⟩
    · exact Or.inl rfl
    · exact Or.inr ⟨middle.toList, by simp⟩
  · rintro ⟨more, h_pieces, h_last⟩
    have h_more : more ≠ [] := by
      rintro rfl
      cases h_last
    obtain ⟨dotless_type, behind, h_bare, h_behind⟩ :=
      (Text.pieces_eq_cons_iff (List.cons_ne_nil _ _)).1 h_pieces
    obtain ⟨dotless_field, rest, rfl, rfl⟩ := (Text.pieces_eq_cons_iff h_more).1 h_behind
    refine ⟨dotless_type, dotless_field, String.ofList rest, ?_, ?_⟩
    · rw [← String.toList_inj, h_bare]
      simp
    · rcases (Text.getLast?_pieces_eq_some_iff.1 h_last).2 with rfl | ⟨middle, rfl⟩
      · exact Or.inl String.ofList_toList
      · refine Or.inr ⟨String.ofList middle, ?_⟩
        rw [← String.toList_inj]
        simp

/-- A file is about a field if and only if its bare name says so. -/
theorem ofName?_eq_some_iff : ofName? bare file = some f ↔ f.file = file ∧ IsNamed bare f := by
  rw [isNamed_iff_pieces]
  unfold ofName?
  constructor
  · intro found
    split at found
    next typeName fieldName third more h_parts =>
      obtain ⟨direction, h_direction, rfl⟩ := Option.map_eq_some_iff.1 found
      rw [TemplateDirection.ofName?_eq_some_iff] at h_direction
      refine ⟨rfl, (third :: more).map String.toList, ?_, ?_⟩
      · have h_pieces := congrArg (List.map String.toList) h_parts
        simpa using h_pieces
      · rw [List.getLast?_map, List.getLast?_eq_some_getLast (List.cons_ne_nil _ _), h_direction]
        rfl
    next => cases found
  · rintro ⟨rfl, more, h_pieces, h_last⟩
    rw [h_pieces]
    cases more with
    | nil => cases h_last
    | cons third rest =>
      have h_word := congrArg (Option.map String.ofList) h_last
      rw [← List.getLast?_map, List.map_cons,
        List.getLast?_eq_some_getLast (List.cons_ne_nil _ _), Option.map_some,
        Option.some.injEq, String.ofList_toList] at h_word
      simp only [List.map_cons, String.ofList_toList]
      rw [TemplateDirection.ofName?_eq_some_iff.2 h_word]
      rfl

end TemplateFile

/-! ## Entries -/

namespace ResolverTemplates

/-- The file of a direction. -/
def path (entry : ResolverTemplates) : TemplateDirection → Option String
  | .request => entry.request
  | .response => entry.response

/-- The last file of a direction. -/
def lastOf (direction : TemplateDirection) (files : List TemplateFile) : Option String :=
  ((files.filter fun f => f.direction = direction).getLast?).map TemplateFile.file

/-- An entry has the names of its first file, the last file of each direction, and a table in the
    group of secondary indexes. -/
structure Sums (group : TemplateGroup) (files : List TemplateFile) (entry : ResolverTemplates) :
    Prop where
  names : ∃ f rest, files = f :: rest ∧ entry.typeName = f.typeName ∧ entry.fieldName = f.fieldName
  path : ∀ direction, entry.path direction = lastOf direction files
  table : entry.table =
    if group = .secondaryIndex then some (capitalize entry.fieldName) else none

variable {group : TemplateGroup} {files : List TemplateFile} {entry : ResolverTemplates}

theorem path_fill (entry : ResolverTemplates) (f : TemplateFile) (direction : TemplateDirection) :
    (entry.fill f).path direction =
      if f.direction = direction then some f.file else entry.path direction := by
  unfold fill
  cases f.direction <;> cases direction <;> rfl

theorem lastOf_concat (direction : TemplateDirection) (files : List TemplateFile)
    (f : TemplateFile) :
    lastOf direction (files ++ [f]) =
      if f.direction = direction then some f.file else lastOf direction files := by
  unfold lastOf
  rw [List.filter_append]
  by_cases h_direction : f.direction = direction
  · simp [h_direction]
  · simp [h_direction]

theorem names_fill (entry : ResolverTemplates) (f : TemplateFile) :
    (entry.fill f).typeName = entry.typeName ∧ (entry.fill f).fieldName = entry.fieldName ∧
      (entry.fill f).table = entry.table := by
  unfold fill
  cases f.direction <;> exact ⟨rfl, rfl, rfl⟩

theorem Sums.fill (sums : Sums group files entry) (f : TemplateFile) :
    Sums group (files ++ [f]) (entry.fill f) := by
  obtain ⟨h_type, h_field, h_table⟩ := names_fill entry f
  constructor
  · obtain ⟨first, rest, rfl, first_type, first_field⟩ := sums.names
    exact ⟨first, rest ++ [f], rfl, h_type.trans first_type, h_field.trans first_field⟩
  · intro direction
    rw [path_fill, lastOf_concat, sums.path]
  · rw [h_table, h_field, sums.table]

/-- The first file of a field opens its entry. -/
theorem sums_opened (group : TemplateGroup) (f : TemplateFile) :
    Sums group [f] ((opened group f).fill f) := by
  obtain ⟨h_type, h_field, h_table⟩ := names_fill (opened group f) f
  constructor
  · exact ⟨f, [], rfl, h_type, h_field⟩
  · intro direction
    rw [path_fill, ← List.nil_append [f], lastOf_concat]
    cases direction <;> rfl
  · rw [h_table, h_field]
    rfl

end ResolverTemplates

/-! ## Groups -/

namespace GroupedTemplates

open ResolverTemplates (Sums sums_opened)

/-- The entries of a group stand in the order of their first files, and each holds the files of its
    key. -/
structure Collects (group : TemplateGroup) (files : List TemplateFile)
    (entries : OrderedMap String ResolverTemplates) : Prop where
  keys : entries.keys = (files.map TemplateFile.key).eraseDups
  sums : ∀ key entry, entries.get? key = some entry →
    Sums group (files.filter fun f => f.key = key) entry

variable {group : TemplateGroup} {files : List TemplateFile}
  {entries : OrderedMap String ResolverTemplates}

theorem collects_empty (group : TemplateGroup) : Collects group [] .empty := ⟨rfl, nofun⟩

theorem Collects.mem_keys_iff (collects : Collects group files entries) {key : String} :
    key ∈ entries.keys ↔ ∃ f ∈ files, f.key = key := by
  rw [collects.keys, List.mem_eraseDups, List.mem_map]

/-- One more file opens the entry of its key or goes into it. -/
theorem Collects.add (collects : Collects group files entries) (f : TemplateFile) :
    Collects group (files ++ [f]) (addTo group f entries) := by
  constructor
  · rw [addTo, OrderedMap.keys_upsert, List.map_append, List.map_cons, List.map_nil,
      OrderedMap.eraseDups_concat, ← collects.keys]
    simp only [collects.mem_keys_iff, List.mem_map]
  · intro key entry found
    rw [addTo, OrderedMap.get?_upsert] at found
    rw [List.filter_append]
    by_cases h_key : key = f.key
    · subst h_key
      rw [if_pos rfl, Option.some.injEq] at found
      subst found
      rw [List.filter_cons_of_pos (by simp), List.filter_nil]
      cases h_held : entries.get? f.key with
      | some held => exact (collects.sums f.key held h_held).fill f
      | none =>
        have h_none : (files.filter fun other => other.key = f.key) = [] := by
          rw [List.filter_eq_nil_iff]
          intro other member same
          rw [OrderedMap.get?_eq_none_iff, collects.mem_keys_iff] at h_held
          exact h_held ⟨other, member, of_decide_eq_true same⟩
        rw [h_none]
        exact sums_opened group f
    · rw [if_neg h_key] at found
      rw [List.filter_cons_of_neg (by simpa using Ne.symm h_key), List.filter_nil, List.append_nil]
      exact collects.sums key entry found

theorem get_add (groups : GroupedTemplates) (target group : TemplateGroup) (f : TemplateFile) :
    (groups.add target f).get group =
      if target = group then addTo group f (groups.get group) else groups.get group := by
  cases target <;> cases group <;> rfl

/-- All files are collected, each in its own group. -/
theorem Collects.addAll {groups : GroupedTemplates} (groupOf : TemplateFile → TemplateGroup)
    (collects : Collects group files (groups.get group)) (more : List TemplateFile) :
    Collects group (files ++ more.filter fun f => groupOf f = group)
      ((more.foldl (fun groups f => groups.add (groupOf f) f) groups).get group) := by
  induction more generalizing files groups with
  | nil => simpa using collects
  | cons f rest ih =>
    rw [List.foldl_cons]
    by_cases h_group : groupOf f = group
    · have h_added := collects.add f
      rw [List.filter_cons_of_pos (by simpa using h_group), List.append_cons]
      refine ih ?_
      rwa [get_add, if_pos h_group]
    · rw [List.filter_cons_of_neg (by simpa using h_group)]
      refine ih ?_
      rwa [get_add, if_neg h_group]

end GroupedTemplates

/-! ## Directories -/

/-- The items that are picked out of a list, in order, as what they are taken for. -/
inductive Picks {α β : Type} (P : α → β → Prop) : List α → List β → Prop where
  | nil : Picks P [] []
  | keep {a : α} {b : β} {rest : List α} {more : List β} (h_a : P a b) (h_rest : Picks P rest more) :
      Picks P (a :: rest) (b :: more)
  | skip {a : α} {rest : List α} {more : List β} (h_none : ∀ b, ¬ P a b)
      (h_rest : Picks P rest more) : Picks P (a :: rest) more

theorem picks_filterMap {α β : Type} {P : α → β → Prop} {pick : α → Option β}
    (h_pick : ∀ a b, pick a = some b ↔ P a b) (items : List α) :
    Picks P items (items.filterMap pick) := by
  induction items with
  | nil => exact .nil
  | cons a rest ih =>
    cases h_a : pick a with
    | none =>
      rw [List.filterMap_cons_none h_a]
      refine .skip (fun b h_b => ?_) ih
      rw [(h_pick a b).2 h_b] at h_a
      cases h_a
    | some b =>
      rw [List.filterMap_cons_some h_a]
      exact .keep ((h_pick a b).1 h_a) ih

namespace TemplateDirectory

open GroupedTemplates (Collects collects_empty)
open TemplateFile (IsNamed)

/-- Types and fields of the resolvers in lists by target. -/
def resolverFields (lists : OrderedMap (Option String) (List Resolver)) : List (String × String) :=
  (Bundle.listed lists).map fun r => (r.typeName, r.fieldName)

theorem mem_resolverFields_iff {lists : OrderedMap (Option String) (List Resolver)}
    {typeName fieldName : String} :
    (typeName, fieldName) ∈ resolverFields lists ↔
      ∃ r ∈ Bundle.listed lists, r.typeName = typeName ∧ r.fieldName = fieldName := by
  simp [resolverFields]

/-- The group of a field: by a root type first, then by a known endpoint resolver. -/
inductive GroupOf (roots : List String) (lists : OrderedMap (Option String) (List Resolver))
    (typeName fieldName : String) : TemplateGroup → Prop where
  | root (h_root : typeName ∈ roots) : GroupOf roots lists typeName fieldName .root
  | http (h_other : typeName ∉ roots)
      (known : ∃ r ∈ Bundle.listed lists, r.typeName = typeName ∧ r.fieldName = fieldName) :
      GroupOf roots lists typeName fieldName .http
  | secondaryIndex (h_other : typeName ∉ roots)
      (unknown : ∀ r ∈ Bundle.listed lists, ¬ (r.typeName = typeName ∧ r.fieldName = fieldName)) :
      GroupOf roots lists typeName fieldName .secondaryIndex

/-- An indexed file is about a field of a group. -/
structure IsFiled (roots : List String) (lists : OrderedMap (Option String) (List Resolver))
    (group : TemplateGroup) (entry : String × String) (f : TemplateFile) : Prop where
  file : f.file = entry.2
  named : IsNamed entry.1 f
  group : GroupOf roots lists f.typeName f.fieldName group

variable {lists : OrderedMap (Option String) (List Resolver)} {f : TemplateFile}
  {group : TemplateGroup}

theorem groupOf_spec (d : TemplateDirectory) (f : TemplateFile) :
    GroupOf d.roots lists f.typeName f.fieldName (d.groupOf (resolverFields lists) f) := by
  unfold groupOf
  split
  next h_root => exact .root h_root
  next h_other =>
    split
    next h_known => exact .http h_other (mem_resolverFields_iff.1 h_known)
    next h_unknown =>
      refine .secondaryIndex h_other fun r member same => h_unknown ?_
      exact mem_resolverFields_iff.2 ⟨r, member, same⟩

/-- A field belongs to one group. -/
theorem GroupOf.unique {roots : List String} {typeName fieldName : String} {other : TemplateGroup}
    (belongs : GroupOf roots lists typeName fieldName group)
    (h_other : GroupOf roots lists typeName fieldName other) : group = other := by
  cases belongs with
  | root h_root =>
    cases h_other with
    | root _ => rfl
    | http h_foreign _ | secondaryIndex h_foreign _ => exact absurd h_root h_foreign
  | http h_foreign known =>
    cases h_other with
    | root h_root => exact absurd h_root h_foreign
    | http _ _ => rfl
    | secondaryIndex _ unknown =>
      obtain ⟨r, member, same⟩ := known
      exact absurd same (unknown r member)
  | secondaryIndex h_foreign unknown =>
    cases h_other with
    | root h_root => exact absurd h_root h_foreign
    | http _ known =>
      obtain ⟨r, member, same⟩ := known
      exact absurd same (unknown r member)
    | secondaryIndex _ _ => rfl

theorem groupOf_eq_iff (d : TemplateDirectory) :
    d.groupOf (resolverFields lists) f = group ↔
      GroupOf d.roots lists f.typeName f.fieldName group := by
  constructor
  · rintro rfl
    exact groupOf_spec d f
  · exact (groupOf_spec d f).unique

/-- The files of a group, in the order of the index. -/
def filesOf (d : TemplateDirectory) (lists : OrderedMap (Option String) (List Resolver))
    (group : TemplateGroup) : List TemplateFile :=
  d.templateFiles.filter fun f => d.groupOf (resolverFields lists) f = group

theorem picks_filesOf (d : TemplateDirectory)
    (lists : OrderedMap (Option String) (List Resolver)) (group : TemplateGroup) :
    Picks (IsFiled d.roots lists group) d.index.entries (d.filesOf lists group) := by
  rw [filesOf, templateFiles, List.filter_filterMap]
  refine picks_filterMap (fun entry f => ?_) _
  rw [Option.filter_eq_some_iff, TemplateFile.ofName?_eq_some_iff, decide_eq_true_iff,
    groupOf_eq_iff]
  exact ⟨fun ⟨⟨h_file, named⟩, belongs⟩ => ⟨h_file, named, belongs⟩,
    fun filed => ⟨⟨filed.file, filed.named⟩, filed.group⟩⟩

theorem collects_grouped (d : TemplateDirectory)
    (lists : OrderedMap (Option String) (List Resolver)) (group : TemplateGroup) :
    Collects group (d.filesOf lists group) ((d.grouped (resolverFields lists)).get group) := by
  have h_empty : Collects group [] (GroupedTemplates.empty.get group) := by
    cases group <;> exact collects_empty _
  exact h_empty.addAll (d.groupOf (resolverFields lists)) d.templateFiles

end TemplateDirectory

end ResourceGraph
