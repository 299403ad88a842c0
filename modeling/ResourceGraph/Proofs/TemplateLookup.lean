import Mathlib.Data.List.Pairwise
import Mathlib.Data.List.Sort
import Mathlib.Data.String.Basic
import ResourceGraph.Proofs.Carriers
import ResourceGraph.Proofs.KeyedMaps
import ResourceGraph.TemplateDirectory

/-! # Templates in a directory

The location of a template names its file in full, a template keeps the bare name, and a directory
keeps its files under their bare names.  A bare name stands for two files at most, the one with
the extension and the one without (`MappingTemplate.bareName_eq_iff`), and of the files that are
there the last one in order is found.  So a location leads to its own file unless both are there
(`findTemplate_of_location`).

Looking up a bare name takes the extension off once more.  `findName_agrees` says for which names
that does no harm, and `doubledDirectory_misses` has a name for which it does.
-/

namespace ResourceGraph

/-! ## Bare names -/

namespace MappingTemplate

variable {extension file name : String}

theorem bareName_append (extension name : String) :
    bareName extension (name ++ extension) = name := by
  unfold bareName
  split
  next h_empty => rw [String.isEmpty_iff.1 h_empty, String.append_empty]
  next =>
    rw [String.toList_append, Text.dropEnd?_eq_some_iff.2 rfl]
    exact String.ofList_toList

theorem bareName_of_bare (bare : ∀ name, file ≠ name ++ extension) :
    bareName extension file = file := by
  unfold bareName
  split
  next => rfl
  next =>
    split
    next rest h_rest =>
      rw [Text.dropEnd?_eq_some_iff] at h_rest
      refine absurd ?_ (bare (String.ofList rest))
      rw [← String.toList_inj, String.toList_append, String.toList_ofList, h_rest]
    next => rfl

/-- The files of a bare name are the name with the extension and, unless it ends in the extension,
    the name itself. -/
theorem bareName_eq_iff :
    bareName extension file = name ↔
      file = name ++ extension ∨ file = name ∧ ∀ rest, file ≠ rest ++ extension := by
  by_cases h_extended : ∃ rest, file = rest ++ extension
  · obtain ⟨rest, rfl⟩ := h_extended
    rw [bareName_append, String.append_left_inj]
    exact ⟨Or.inl, fun h => h.resolve_right fun ⟨_, bare⟩ => bare rest rfl⟩
  · have bare : ∀ rest, file ≠ rest ++ extension := not_exists.1 h_extended
    rw [bareName_of_bare bare]
    exact ⟨fun same => Or.inr ⟨same, bare⟩, fun h => (h.resolve_left (bare name)).1⟩

/-- A name is bare unless the extension can be taken off its end. -/
theorem bareName_eq_self_iff :
    bareName extension name = name ↔ extension = "" ∨ ∀ rest, name ≠ rest ++ extension := by
  rw [bareName_eq_iff, and_iff_right rfl, eq_comm (a := name), String.append_eq_left_iff]

/-! ## Locations -/

open Expression (IsParent IsSegment)

variable {directory direction : String} {required : Bool} {location : Value}
  {properties : List (String × Value)}

/-- The bare name of a file is a segment as well, unless nothing is left of it. -/
theorem isSegment_bareName (segment : IsSegment file)
    (h_extension : extension ≠ "" → file ≠ extension) : IsSegment (bareName extension file) := by
  rcases bareName_eq_iff.1 rfl with h_file | ⟨h_file, -⟩
  · have h_some : bareName extension file ≠ "" := by
      intro h_none
      rw [h_none, String.empty_append] at h_file
      exact h_extension (h_file ▸ segment.nonempty) h_file
    rw [h_file] at segment
    exact segment.of_append h_some
  · exact h_file ▸ segment

theorem fileName?_of_carrier? (parent : IsParent directory) (segment : IsSegment file)
    (h_extension : extension ≠ "" → file ≠ extension)
    (h_carrier : location.carrier? = some (directory ++ file)) :
    fileName? extension location = some (bareName extension file) := by
  rw [fileName?, h_carrier, Option.bind_some, Expression.lastSegment?_append parent segment,
    Option.bind_some, nonempty?_eq_some_iff]
  exact ⟨rfl, (isSegment_bareName segment h_extension).nonempty⟩

/-- A location alone is read as the bare name of its file. -/
theorem read_of_fileName? (h_inline : Value.member properties (inlineProperty direction) = .null)
    (h_location : Value.member properties (locationProperty direction) = location)
    (h_name : fileName? extension location = some name) :
    read direction extension required properties = .ok (some (.file name)) := by
  have h_given : location.given? = some location := by
    cases location with
    | null => cases h_name
    | bool _ | integer _ | decimal _ | string _ | array _ | object _ => rfl
  rw [read, h_inline, h_location, h_given]
  simp only [Value.given?, h_name]

end MappingTemplate

/-! ## Directories -/

/-- The greatest item of a sorted list comes last. -/
theorem getLast?_of_greatest {α : Type} [PartialOrder α] {items : List α} {a : α}
    (sorted : items.Pairwise (· ≤ ·)) (member : a ∈ items) (greatest : ∀ b ∈ items, b ≤ a) :
    items.getLast? = some a := by
  rw [List.getLast?_eq_some_getLast (List.ne_nil_of_mem member), Option.some.injEq]
  exact le_antisymm (greatest _ (List.getLast_mem _)) (sorted.rel_getLast member)

theorem le_append (s rest : String) : s ≤ s ++ rest := by
  have h_chars : ¬ s.toList ++ rest.toList < s.toList := List.not_lt.2 List.le_append_left
  rw [← String.toList_append] at h_chars
  exact h_chars

namespace TemplateDirectory

open Expression (IsParent IsSegment)
open MappingTemplate (bareName bareName_append bareName_eq_iff)

variable {d : TemplateDirectory} {file name directory direction : String} {location : Value}
  {properties : List (String × Value)}

theorem mem_sortedFiles_iff : file ∈ d.sortedFiles ↔ file ∈ d.files := List.mem_mergeSort

theorem pairwise_sortedFiles (d : TemplateDirectory) : d.sortedFiles.Pairwise (· ≤ ·) :=
  List.pairwise_mergeSort' (· ≤ ·) d.files

/-- The index holds under a bare name the last file of that name. -/
theorem latest_index (d : TemplateDirectory) :
    d.index.Latest (bareName d.extension) d.sortedFiles := by
  have h_index := (OrderedMap.Latest.empty (bareName d.extension)).insertAll d.sortedFiles
  rwa [List.nil_append] at h_index

/-- Files that are listed in order are indexed as they are listed. -/
theorem index_of_pairwise (sorted : d.files.Pairwise (· ≤ ·)) :
    d.index = .ofList (d.files.map fun file => (bareName d.extension file, file)) := by
  rw [index, sortedFiles, List.mergeSort_of_pairwise]
  simpa using sorted

/-- A file stands under its own bare name. -/
theorem bareName_of_indexed (indexed : d.index.get? name = some file) :
    bareName d.extension file = name := by
  rw [(latest_index d).get?] at indexed
  exact of_decide_eq_true (List.mem_filter.1 (List.mem_of_getLast? indexed)).2

theorem exists_indexed (present : file ∈ d.files) :
    ∃ found, d.index.get? (bareName d.extension file) = some found := by
  rw [← OrderedMap.mem_keys_iff, (latest_index d).mem_keys_iff]
  exact List.mem_map_of_mem (mem_sortedFiles_iff.2 present)

theorem findBare_eq_ok_iff : d.findBare name = .ok file ↔ d.index.get? name = some file := by
  unfold findBare
  cases d.index.get? name <;> simp

/-- Of the files of a bare name the last one is found. -/
theorem findBare_of_greatest (present : file ∈ d.files) (h_name : bareName d.extension file = name)
    (greatest : ∀ other ∈ d.files, bareName d.extension other = name → other ≤ file) :
    d.findBare name = .ok file := by
  have h_found : d.index.get? name = some file := by
    rw [(latest_index d).get?]
    refine getLast?_of_greatest ((pairwise_sortedFiles d).filter _) ?_ ?_
    · exact List.mem_filter.2 ⟨mem_sortedFiles_iff.2 present, decide_eq_true h_name⟩
    · intro other member
      obtain ⟨h_other, h_same⟩ := List.mem_filter.1 member
      exact greatest other (mem_sortedFiles_iff.1 h_other) (of_decide_eq_true h_same)
  rw [findBare, h_found]

/-- A file is found by its bare name, unless the name is taken both with and without the
    extension. -/
theorem findBare_bareName (present : file ∈ d.files) (h_name : bareName d.extension file = name) :
    d.findBare name =
      .ok (if name ∈ d.files ∧ name ++ d.extension ∈ d.files then name ++ d.extension
        else file) := by
  split
  next h_both =>
    refine findBare_of_greatest h_both.2 (bareName_append _ _) fun other _ h_other => ?_
    rcases bareName_eq_iff.1 h_other with h_same | ⟨h_same, -⟩
    · exact h_same.le
    · exact h_same ▸ le_append other d.extension
  next h_single =>
    refine findBare_of_greatest present h_name fun other h_present h_other => ?_
    -- of two different files one would be the name and the other one the extended name
    rcases bareName_eq_iff.1 h_name with rfl | ⟨rfl, -⟩ <;>
      rcases bareName_eq_iff.1 h_other with rfl | ⟨rfl, -⟩
    · exact le_refl _
    · exact absurd ⟨h_present, present⟩ h_single
    · exact absurd ⟨present, h_present⟩ h_single
    · exact le_refl _

/-- The template of a location is found as the file that the location names.  Only where the name is
    taken both with and without the extension, it is the file with the extension in both cases. -/
theorem findTemplate_of_location (d : TemplateDirectory) (required : Bool)
    (present : file ∈ d.files) (segment : IsSegment file)
    (h_extension : d.extension ≠ "" → file ≠ d.extension) (parent : IsParent directory)
    (h_carrier : location.carrier? = some (directory ++ file))
    (h_inline : Value.member properties (MappingTemplate.inlineProperty direction) = .null)
    (h_location : Value.member properties (MappingTemplate.locationProperty direction) = location) :
    ∃ name, MappingTemplate.read direction d.extension required properties =
        .ok (some (.file name)) ∧
      IsSegment name ∧ (file = name ∨ file = name ++ d.extension) ∧
      d.findTemplate (.file name) =
        .ok (if name ∈ d.files ∧ name ++ d.extension ∈ d.files then name ++ d.extension
          else file) := by
  refine ⟨bareName d.extension file, ?_, MappingTemplate.isSegment_bareName segment h_extension, ?_,
    findBare_bareName present rfl⟩
  · exact MappingTemplate.read_of_fileName? h_inline h_location
      (MappingTemplate.fileName?_of_carrier? parent segment h_extension h_carrier)
  · rcases bareName_eq_iff.1 rfl with h_file | ⟨h_file, -⟩
    · exact Or.inr h_file
    · exact Or.inl h_file

/-- The name of an indexed file finds that file again, unless the name still ends in the
    extension. -/
theorem findName_eq_ok_iff (indexed : d.index.get? name = some file) :
    d.findName name = .ok file ↔ d.extension = "" ∨ ∀ rest, name ≠ rest ++ d.extension := by
  rw [findName, findBare_eq_ok_iff, ← MappingTemplate.bareName_eq_self_iff]
  constructor
  · intro h_found
    exact (bareName_of_indexed h_found).symm.trans (bareName_of_indexed indexed)
  · intro bare
    rw [bare, indexed]

/-- A bare name leads to its file by way of a template, and as it stands if it does not end in the
    extension.  The full name of a file leads to the file of its bare name. -/
theorem findName_agrees (d : TemplateDirectory) :
    (∀ name file, d.index.get? name = some file →
      (∃ t, MappingTemplate.ofFields .null (some name) = .ok t ∧ d.findTemplate t = .ok file) ∧
        (d.findName name = .ok file ↔ d.extension = "" ∨ ∀ rest, name ≠ rest ++ d.extension)) ∧
      ∀ file ∈ d.files, ∃ found, d.index.get? (bareName d.extension file) = some found ∧
        d.findName file = .ok found := by
  constructor
  · intro name file indexed
    exact ⟨⟨.file name, rfl, findBare_eq_ok_iff.2 indexed⟩, findName_eq_ok_iff indexed⟩
  · intro file present
    obtain ⟨found, indexed⟩ := exists_indexed present
    exact ⟨found, indexed, findBare_eq_ok_iff.2 indexed⟩

/-! ## Small directories -/

/-- A directory in which one of two names is taken with and without the extension. -/
def twinDirectory : TemplateDirectory :=
  ⟨"resolvers", ["Query.post.req.vtl", "Query.page.req.vtl", "Query.post.req"],
    ["Query", "Mutation"], ".vtl"⟩

/-- A location in a bucket that depends on a condition. -/
def nestedLocation (file : String) : Value :=
  .object [("Fn::Join", .array [.string "", .array ([.string "s3://", .string "bucket"] ++
    [.object [("Fn::If", .array [.string "Live", .string "/live",
      .object [("Fn::Sub", .string ("/resolvers/" ++ file))]])]])])]

theorem nestedLocation_carries (file : String) :
    (nestedLocation file).Carries ("/resolvers/" ++ file) :=
  .join _ _ (.choice _ _ (.format _))

theorem twinDirectory_finds :
    ∃ name, MappingTemplate.read "Request" ".vtl" true
        [("RequestMappingTemplateS3Location", nestedLocation "Query.post.req")] =
          .ok (some (.file name)) ∧
      IsSegment name ∧ twinDirectory.findTemplate (.file name) = .ok "Query.post.req.vtl" := by
  let location := nestedLocation "Query.post.req"
  let properties := [("RequestMappingTemplateS3Location", location)]
  have h_inline : Value.member properties (MappingTemplate.inlineProperty "Request") = .null := rfl
  have h_location : Value.member properties (MappingTemplate.locationProperty "Request") =
      location := rfl
  have segment : IsSegment "Query.post.req" := ⟨by decide, by decide, by decide⟩
  have parent : IsParent "/resolvers/" := Or.inr ⟨"/resolvers", Or.inr rfl⟩
  have h_carrier : location.carrier? = some ("/resolvers/" ++ "Query.post.req") :=
    Value.carrier?_eq_some_iff.2 (nestedLocation_carries _)
  obtain ⟨name, h_read, h_segment, -, h_found⟩ :=
    findTemplate_of_location twinDirectory true (by decide) segment (by decide) parent h_carrier
      h_inline h_location
  have h_same : MappingTemplate.read "Request" twinDirectory.extension true properties =
      .ok (some (.file "Query.post.req")) := rfl
  rw [h_read] at h_same
  cases h_same
  rw [if_pos (by decide)] at h_found
  exact ⟨_, h_read, h_segment, h_found⟩

/-- A directory with a file whose bare name still ends in the extension. -/
def doubledDirectory : TemplateDirectory :=
  ⟨"resolvers", ["Query.page.req.vtl", "Query.post.req.vtl.vtl"], ["Query", "Mutation"], ".vtl"⟩

theorem index_doubledDirectory :
    doubledDirectory.index.entries =
      [("Query.page.req", "Query.page.req.vtl"),
        ("Query.post.req.vtl", "Query.post.req.vtl.vtl")] := by
  rw [index_of_pairwise (by decide)]
  decide

theorem doubledDirectory_agrees :
    doubledDirectory.index.get? "Query.page.req" = some "Query.page.req.vtl" ∧
      doubledDirectory.findName "Query.page.req" = .ok "Query.page.req.vtl" ∧
      ∃ found, doubledDirectory.findName "Query.post.req.vtl.vtl" = .ok found := by
  have indexed : doubledDirectory.index.get? "Query.page.req" = some "Query.page.req.vtl" :=
    OrderedMap.get?_eq_some_iff.2 (by rw [index_doubledDirectory]; decide)
  obtain ⟨h_names, h_files⟩ := findName_agrees doubledDirectory
  refine ⟨indexed, (h_names _ _ indexed).2.2 (Or.inr fun rest same => ?_), ?_⟩
  · have h_suffix : ".vtl".toList <:+ "Query.page.req".toList :=
      ⟨rest.toList, by rw [same, String.toList_append]; rfl⟩
    exact absurd h_suffix (by decide)
  · obtain ⟨found, -, h_found⟩ := h_files "Query.post.req.vtl.vtl" (by decide)
    exact ⟨found, h_found⟩

/-- The name without its last extension is taken for a name with the extension behind. -/
theorem doubledDirectory_misses :
    doubledDirectory.index.get? "Query.post.req.vtl" = some "Query.post.req.vtl.vtl" ∧
      doubledDirectory.findTemplate (.file "Query.post.req.vtl") = .ok "Query.post.req.vtl.vtl" ∧
      doubledDirectory.findName "Query.post.req.vtl" =
        .error (.noSuchFile "Query.post.req" "resolvers") := by
  have indexed : doubledDirectory.index.get? "Query.post.req.vtl" =
      some "Query.post.req.vtl.vtl" :=
    OrderedMap.get?_eq_some_iff.2 (by rw [index_doubledDirectory]; decide)
  have h_absent : doubledDirectory.index.get? "Query.post.req" = none :=
    OrderedMap.get?_eq_none_iff.2 (by rw [OrderedMap.keys, index_doubledDirectory]; decide)
  have h_bare : bareName doubledDirectory.extension "Query.post.req.vtl" = "Query.post.req" := rfl
  refine ⟨indexed, findBare_eq_ok_iff.2 indexed, ?_⟩
  rw [findName, h_bare, findBare, h_absent]
  rfl

end TemplateDirectory

end ResourceGraph
