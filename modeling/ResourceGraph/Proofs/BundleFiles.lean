import Mathlib.Data.List.Nodup
import ResourceGraph.Proofs.AllOrNothing
import ResourceGraph.Proofs.Writing

/-! # Files of bundles

The name of a stack becomes a part of the path of its file, and not every name stays one.  A
bundle is to have a file of its own inside the output folder, with no other file changed
(`OwnFiles`).  This comes true exactly if the names lead to different places inside the folder
where nothing stands in the way (`Fits`), as `CommandLine.perform_ownFiles_iff` says; different
names without slashes always lead to different places.  Two stacks that share one file are in
`CommandLine.twinNames_overwritten`.
-/

namespace ResourceGraph

/-! ## Names without slashes -/

namespace CommandLine

/-- The file of a stack by its last name. -/
def fileName (name : String) : String := name ++ ".json"

theorem fileName_injective {first second : String} (same : fileName first = fileName second) :
    first = second := (String.append_left_inj _).1 same

theorem length_fileName (name : String) : 5 ≤ (fileName name).toList.length := by
  rw [fileName, String.toList_append, List.length_append]
  exact Nat.le_add_left _ _

/-- No name of a file is a short one, such as the dots that lead nowhere or up. -/
theorem fileName_ne {name short : String} (h_short : short.toList.length < 5) :
    fileName name ≠ short := by
  rintro rfl
  exact absurd (length_fileName name) (Nat.not_le.2 h_short)

theorem Path.ofText_fileName {name : String} (h_slash : '/' ∉ name.toList) :
    ofText (fileName name) = ⟨"", [fileName name]⟩ := by
  have h_none : '/' ∉ (fileName name).toList := by
    rw [fileName, String.toList_append, List.mem_append, not_or]
    exact ⟨h_slash, by decide⟩
  have h_long := length_fileName name
  have h_root : rootOf (fileName name).toList = "" := by
    unfold rootOf
    split
    next h_chars => simp [h_chars] at h_none
    next h_chars => simp [h_chars] at h_none
    next h_chars => simp [h_chars] at h_none
    next => rfl
  have h_counts : (fileName name).toList ≠ [] ∧ (fileName name).toList ≠ ['.'] := by
    constructor <;> intro h_chars <;> rw [h_chars] at h_long <;> simp at h_long
  rw [ofText, h_root, partsOf, Text.pieces_of_not_mem h_none]
  simp [h_counts]

theorem Place.ofPath_append {p q : Path} (h_relative : q.isAbsolute = false) :
    ofPath (p.append q) = q.parts.foldl step (ofPath p) := by
  have h_start : startOf (p.append q) = startOf p := by
    rw [Path.append, h_relative]
    rfl
  rw [ofPath, Path.parts_append h_relative, List.foldl_append, h_start, ofPath]

/-! ## Places of bundles -/

/-- The folder to which the output goes. -/
def outputPlace (output : String) : Place := Place.ofPath (.ofText output)

def placeOf (output name : String) : Place := Place.ofPath (bundlePath output name)

/-- A place is inside a folder if names that do not lead out follow after it. -/
def Place.Inside (folder place : Place) : Prop :=
  ∃ rest, isBelow rest = true ∧ place = folder ++ rest

variable {output name : String} {names : List String}

theorem bundlePath_of_slashless (h_slash : '/' ∉ name.toList) :
    bundlePath output name =
      ⟨(Path.ofText output).root, (Path.ofText output).parts ++ [fileName name]⟩ := by
  rw [bundlePath, ← fileName, Path.ofText_fileName h_slash]
  rfl

theorem placeOf_of_slashless (h_slash : '/' ∉ name.toList) :
    placeOf output name = outputPlace output ++ [fileName name] := by
  have h_up : fileName name ≠ ".." := fileName_ne (by decide)
  rw [placeOf, bundlePath, ← fileName, Path.ofText_fileName h_slash, Place.ofPath_append rfl]
  simp [Place.step, h_up, outputPlace]

theorem wayOf_of_slashless (h_slash : '/' ∉ name.toList) :
    Place.wayOf (bundlePath output name) =
      Place.stops (Place.startOf (.ofText output)) (Path.ofText output).parts := by
  rw [bundlePath_of_slashless h_slash, Place.wayOf, Path.parent, List.dropLast_concat]
  rfl

theorem inside_of_slashless (h_slash : '/' ∉ name.toList) :
    Place.Inside (outputPlace output) (placeOf output name) := by
  have h_up : fileName name ≠ ".." := fileName_ne (by decide)
  have h_top : fileName name ≠ "/" := fileName_ne (by decide)
  exact ⟨[fileName name], by simp [Place.isBelow, h_up, h_top], placeOf_of_slashless h_slash⟩

/-! ## Files of their own -/

/-- Every bundle can be read from a file of its own inside the output folder, and nothing else has
    become of the files. -/
structure OwnFiles (files : FileTree) (output : String) (bundles : List (String × Bundle))
    (written : FileTree) : Prop where
  content : ∀ bundle ∈ bundles,
    written.read (bundlePath output bundle.1) = .ok bundle.2.toValue.indented
  apart : ((bundles.map Prod.fst).map (placeOf output)).Nodup
  inside : ∀ name ∈ bundles.map Prod.fst, Place.Inside (outputPlace output) (placeOf output name)
  others : ∀ place, place ∉ (bundles.map Prod.fst).map (placeOf output) →
    written.files.get? place = files.files.get? place

/-- The names of stacks lead to different places inside the output folder, where files can be
    written. -/
structure Fits (files : FileTree) (output : String) (names : List String) : Prop where
  apart : (names.map (placeOf output)).Nodup
  inside : ∀ name ∈ names, Place.Inside (outputPlace output) (placeOf output name)
  room : files.HasRoom (names.map (bundlePath output))

/-- No file is where the output folder or a folder on its way belongs, and no folder is where a
    bundle belongs. -/
def Clear (files : FileTree) (output : String) (names : List String) : Prop :=
  ∀ name ∈ names, files.isFolder (outputPlace output ++ [fileName name]) = false ∧
    ∀ stop ∈ Place.stops (Place.startOf (.ofText output)) (Path.ofText output).parts,
      files.isFile stop = false ∧ stop ≠ outputPlace output ++ [fileName name]

/-- Names without slashes lead to different places inside the output folder. -/
theorem fits_iff_clear {files : FileTree} (h_distinct : names.Nodup)
    (h_slash : ∀ name ∈ names, '/' ∉ name.toList) :
    Fits files output names ↔ Clear files output names := by
  constructor
  · intro fits name member
    have h_free := fits.room.free _ (List.mem_map_of_mem member)
    rw [← placeOf, placeOf_of_slashless (h_slash name member)] at h_free
    refine ⟨h_free, fun stop h_stop => ?_⟩
    rw [← wayOf_of_slashless (h_slash name member)] at h_stop
    obtain ⟨h_none, h_apart⟩ := fits.room.clear _ (List.mem_map_of_mem member) stop h_stop
    have h_goal := h_apart _ (List.mem_map_of_mem member)
    rw [← placeOf, placeOf_of_slashless (h_slash name member)] at h_goal
    exact ⟨h_none, h_goal⟩
  · intro clear
    constructor
    · refine h_distinct.map_on fun first h_first second h_second same => ?_
      rw [placeOf_of_slashless (h_slash first h_first),
        placeOf_of_slashless (h_slash second h_second), List.append_cancel_left_eq,
        List.singleton_inj] at same
      exact fileName_injective same
    · exact fun name member => inside_of_slashless (h_slash name member)
    · constructor
      · rw [List.forall_mem_map]
        intro name member stop h_stop
        rw [wayOf_of_slashless (h_slash name member)] at h_stop
        refine ⟨((clear name member).2 stop h_stop).1, List.forall_mem_map.2 fun other h_other => ?_⟩
        rw [← placeOf, placeOf_of_slashless (h_slash other h_other)]
        exact ((clear other h_other).2 stop h_stop).2
      · rw [List.forall_mem_map]
        intro name member
        rw [← placeOf, placeOf_of_slashless (h_slash name member)]
        exact (clear name member).1

/-! ## Normalizing -/

variable {files written : FileTree} {bundles : List (String × Bundle)}

theorem hasRoom_bundleFiles_iff :
    files.HasRoom ((bundleFiles output bundles).map Prod.fst) ↔
      files.HasRoom ((bundles.map Prod.fst).map (bundlePath output)) := by
  rw [bundleFiles, List.map_map, List.map_map]
  rfl

/-- Bundles that are all written to different places inside the output folder have files of their
    own. -/
theorem ownFiles_of_writeAll (h_written : writeAll files (bundleFiles output bundles) = .ok written)
    (apart : ((bundles.map Prod.fst).map (placeOf output)).Nodup)
    (inside : ∀ name ∈ bundles.map Prod.fst,
      Place.Inside (outputPlace output) (placeOf output name)) :
    OwnFiles files output bundles written := by
  refine ⟨fun bundle member => ?_, apart, inside, fun place h_place => ?_⟩
  · obtain ⟨before, after, rfl⟩ := List.append_of_mem member
    rw [bundleFiles, List.map_append, List.map_cons] at h_written
    refine FileTree.read_of_writeAll h_written (List.forall_mem_map.2 fun later h_later same => ?_)
    rw [List.map_map, List.map_append, List.map_cons, List.nodup_append] at apart
    exact (List.nodup_cons.1 apart.2.1).1 (List.mem_map.2 ⟨later, h_later, same⟩)
  · obtain ⟨h_files, -⟩ := FileTree.writeAll_spec h_written
    rw [h_files]
    refine OrderedMap.get?_insertAll_of_not_mem fun h_goal => h_place ?_
    rw [bundleFiles, List.map_map, List.map_map] at h_goal
    rw [List.map_map]
    exact h_goal

variable {environment : List (String × String)} {words : List String} {settings : Settings}
  {input : String} {roots : List String} {members : List (String × Value)}

/-- A normalization gives every stack a file of its own exactly when the names of the stacks fit, and
    names without slashes fit unless something stands in the way. -/
theorem perform_ownFiles_iff
    (asks : Asks environment files words settings (.normalize input output false roots))
    (h_document : readJson files input = .ok (.object members))
    (yields : Bundle.Yields (optionsFor settings roots) members bundles) :
    ((∃ written,
        perform environment files words =
          .ok (.done 0 (printed (normalizeSummary output false bundles)) written) ∧
        OwnFiles files output bundles written) ↔
      Fits files output (bundles.map Prod.fst)) ∧
    ((bundles.map Prod.fst).Nodup → (∀ name ∈ bundles.map Prod.fst, '/' ∉ name.toList) →
      (Fits files output (bundles.map Prod.fst) ↔ Clear files output (bundles.map Prod.fst))) := by
  refine ⟨?_, fits_iff_clear⟩
  rw [perform_eq_normalizeDocument asks h_document, normalizeDocument, yields.ofDocument_eq_ok]
  dsimp only
  rw [writtenBundles, if_neg Bool.false_ne_true]
  constructor
  · rintro ⟨written, h_done, own⟩
    refine ⟨own.apart, own.inside, hasRoom_bundleFiles_iff.1 (FileTree.exists_writeAll_iff.1 ?_)⟩
    split at h_done
    next => cases h_done
    next u h_written => exact ⟨u, h_written⟩
  · intro fits
    obtain ⟨written, h_written⟩ :=
      FileTree.exists_writeAll_iff.2 (hasRoom_bundleFiles_iff.2 fits.room)
    refine ⟨written, ?_, ownFiles_of_writeAll h_written fits.apart fits.inside⟩
    rw [h_written]

/-- A document of two stacks with plain names, and one in which a name starts with a dot and a
    slash. -/
def namedDocuments : FileTree :=
  .ofTexts
    [("plain.json", "\x7b\"Blog\": \x7b\x7d, \"Shop\": \x7b\x7d\x7d"),
      ("dotted.json", "\x7b\"Blog\": \x7b\x7d, \"./Blog\": \x7b\x7d\x7d")] []

theorem namedDocuments_known : settingsFor [] namedDocuments = .ok Settings.standard := rfl

theorem namedDocuments_asked {input : String}
    (h_request : Request.ofWords Settings.standard ["normalize", input, "-o", "out"] =
      .run "INFO" (some (.normalize input "out" false defaultRoots))) :
    Asks [] namedDocuments ["normalize", input, "-o", "out"] Settings.standard
      (.normalize input "out" false defaultRoots) :=
  ⟨namedDocuments_known, "INFO", h_request, by decide +kernel⟩

theorem plainNames_ownFiles :
    ∃ written,
      perform [] namedDocuments ["normalize", "plain.json", "-o", "out"] =
        .ok (.done 0 (printed (normalizeSummary "out" false
          [("Blog", .empty "Blog"), ("Shop", .empty "Shop")])) written) ∧
      OwnFiles namedDocuments "out" [("Blog", .empty "Blog"), ("Shop", .empty "Shop")] written := by
  have h_document : readJson namedDocuments "plain.json" =
      .ok (.object [("Blog", .object []), ("Shop", .object [])]) := by
    refine readJson_eq_ok rfl ?_
    rw [Value.parse?]
    simp only [String.reduceToList]
    rfl
  have h_bundles : Bundle.Yields (optionsFor Settings.standard defaultRoots)
      [("Blog", .object []), ("Shop", .object [])]
      [("Blog", .empty "Blog"), ("Shop", .empty "Shop")] :=
    ⟨[("Blog", .empty), ("Shop", .empty)], rfl, .cons ⟨rfl, rfl⟩ (.cons ⟨rfl, rfl⟩ .nil)⟩
  have h_clear : Clear namedDocuments "out" ["Blog", "Shop"] := by
    unfold Clear
    decide +kernel
  obtain ⟨h_own, h_plain⟩ :=
    perform_ownFiles_iff (namedDocuments_asked (by decide +kernel)) h_document h_bundles
  exact h_own.2 ((h_plain (by decide) (by decide)).2 h_clear)

/-- Two stacks that are both written to one file. -/
theorem twinNames_overwritten :
    ∃ written,
      perform [] namedDocuments ["normalize", "dotted.json", "-o", "out"] =
        .ok (.done 0 (printed (normalizeSummary "out" false
          [("Blog", .empty "Blog"), ("./Blog", .empty "./Blog")])) written) ∧
      written.files.keys = [["plain.json"], ["dotted.json"], ["out", "Blog.json"]] ∧
      written.read (bundlePath "out" "Blog") = .ok (Bundle.empty "./Blog").toValue.indented ∧
      ¬ OwnFiles namedDocuments "out" [("Blog", .empty "Blog"), ("./Blog", .empty "./Blog")]
        written := by
  have h_document : readJson namedDocuments "dotted.json" =
      .ok (.object [("Blog", .object []), ("./Blog", .object [])]) := by
    refine readJson_eq_ok rfl ?_
    rw [Value.parse?]
    simp only [String.reduceToList]
    rfl
  have h_bundles : (Bundle.ofDocument (optionsFor Settings.standard defaultRoots)
      (.object [("Blog", .object []), ("./Blog", .object [])])).outcome =
      .ok [("Blog", .empty "Blog"), ("./Blog", .empty "./Blog")] := rfl
  rw [perform_eq_normalizeDocument (namedDocuments_asked (by decide +kernel)) h_document,
    normalizeDocument, h_bundles]
  refine ⟨_, rfl, rfl, rfl, fun own => ?_⟩
  exact absurd own.apart (by decide)

end CommandLine

end ResourceGraph
