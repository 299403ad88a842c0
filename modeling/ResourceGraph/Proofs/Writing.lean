import ResourceGraph.CommandLine.Program

/-! # Writing files

Folders are made on the way to a file, and files are written one after the other.  What has to be
free for that is `FileTree.HasRoom`: neither a file of the tree nor one of those to be written
stands on a way, and no folder at a goal.  Then, and only then, all files can be written, whatever
their texts (`exists_writeAll_iff`), and each of them can be read again unless something is
written to the same place later (`read_of_writeAll`).
-/

namespace ResourceGraph.CommandLine

/-! ## Ways -/

namespace Place

/-- The places to which names lead one after the other. -/
def stops (place : Place) : List String → List Place
  | [] => []
  | name :: rest => place.step name :: stops (place.step name) rest

/-- The places on the way to the end of a path, without its start. -/
def wayOf (p : Path) : List Place := stops (startOf p) p.parent.parts

theorem isGiven_startOf (p : Path) : isGiven (startOf p) = true := by
  unfold startOf
  split <;> rfl

end Place

namespace FileTree

variable {t u : FileTree} {p : Path} {place : Place} {names : List String} {text : String}

theorem waypoints_concat (place : Place) (names : List String) (last : String) :
    waypoints place (names ++ [last]) = place :: place.stops names := by
  induction names generalizing place with
  | nil => rfl
  | cons name rest ih => rw [List.cons_append, waypoints, ih, Place.stops]

theorem isFolder_startOf (t : FileTree) (p : Path) : t.isFolder (Place.startOf p) = true := by
  rw [isFolder, Place.isGiven_startOf, Bool.true_or]

/-- A path whose end is no folder has a last name. -/
theorem parts_ne_nil (h_free : t.isFolder (Place.ofPath p) = false) : p.parts ≠ [] := by
  intro h_parts
  rw [Place.ofPath, h_parts, List.foldl_nil, isFolder_startOf] at h_free
  cases h_free

/-! ## Reading -/

theorem walk_eq_ok_iff {goal : Place} :
    t.walk place names = .ok goal ↔
      (∀ stop ∈ waypoints place names, t.isFolder stop = true) ∧
        goal = names.foldl Place.step place := by
  induction names generalizing place with
  | nil =>
    rw [walk, waypoints, Except.ok.injEq, List.foldl_nil]
    exact ⟨fun same => ⟨nofun, same.symm⟩, fun h => h.2.symm⟩
  | cons name rest ih =>
    rw [walk, waypoints, List.forall_mem_cons, List.foldl_cons, and_assoc]
    split
    next h_folder => rw [ih, and_iff_right h_folder]
    next h_none =>
      refine iff_of_false ?_ fun h => h_none h.1
      split <;> simp

/-- A file is read where its path goes through folders only. -/
theorem read_eq_ok_iff :
    t.read p = .ok text ↔
      (∀ stop ∈ waypoints (Place.startOf p) p.parts, t.isFolder stop = true) ∧
        t.files.get? (Place.ofPath p) = some text := by
  unfold read
  cases h_goal : t.locate p with
  | error fault =>
    have h_blocked : ¬ ∀ stop ∈ waypoints (Place.startOf p) p.parts, t.isFolder stop = true := by
      intro h_way
      have h_found : t.locate p = .ok (Place.ofPath p) := walk_eq_ok_iff.2 ⟨h_way, rfl⟩
      rw [h_goal] at h_found
      cases h_found
    simp [h_blocked]
  | ok goal =>
    obtain ⟨h_way, rfl⟩ := walk_eq_ok_iff.1 h_goal
    rw [and_iff_right h_way, Place.ofPath]
    dsimp only
    split
    next h_text => rw [h_text, Except.ok.injEq, Option.some.injEq]
    next h_none => simp [h_none]

/-! ## Making folders -/

theorem makeFolders_spec {made : Bool} (h_made : t.makeFolders made place names = .ok u) :
    u.files = t.files ∧
      ∀ other, u.isFolder other = true ↔ t.isFolder other = true ∨ other ∈ place.stops names := by
  induction names generalizing t made place with
  | nil =>
    cases h_made
    simp [Place.stops]
  | cons name rest ih =>
    simp only [makeFolders] at h_made
    split at h_made
    next => cases h_made
    next =>
      split at h_made
      next h_folder =>
        obtain ⟨h_files, h_folders⟩ := ih h_made
        refine ⟨h_files, fun other => ?_⟩
        rw [h_folders, Place.stops, List.mem_cons]
        constructor
        · exact fun h => h.imp_right Or.inr
        · rintro (h_before | rfl | h_later)
          · exact Or.inl h_before
          · exact Or.inl h_folder
          · exact Or.inr h_later
      next =>
        obtain ⟨h_files, h_folders⟩ := ih h_made
        refine ⟨h_files, fun other => ?_⟩
        rw [h_folders, Place.stops, List.mem_cons, ← or_assoc]
        simp [isFolder, or_assoc]

/-- Folders can be made wherever no file stands in the way. -/
theorem exists_makeFolders_iff {made : Bool} :
    (∃ u, t.makeFolders made place names = .ok u) ↔
      ∀ stop ∈ place.stops names, t.isFile stop = false := by
  induction names generalizing t made place with
  | nil => simp [makeFolders, Place.stops]
  | cons name rest ih =>
    rw [Place.stops, List.forall_mem_cons]
    simp only [makeFolders]
    split
    next h_file => simp [h_file]
    next h_none =>
      rw [and_iff_right (Bool.eq_false_iff.2 h_none)]
      split
      next => exact ih
      next => exact ih

/-! ## Writing -/

/-- A file can be written where folders can be made on the way and its place is no folder then. -/
theorem exists_write_iff :
    (∃ u, t.write p text = .ok u) ↔
      (∀ stop ∈ Place.wayOf p, t.isFile stop = false ∧ stop ≠ Place.ofPath p) ∧
        t.isFolder (Place.ofPath p) = false := by
  have h_way : (∃ u, t.makeFolders false (Place.startOf p) p.parent.parts = .ok u) ↔
      ∀ stop ∈ Place.wayOf p, t.isFile stop = false := exists_makeFolders_iff
  unfold write
  cases h_made : t.makeFolders false (Place.startOf p) p.parent.parts with
  | error interruption =>
    have h_blocked : ¬ ∀ stop ∈ Place.wayOf p, t.isFile stop = false := by
      rw [← h_way, h_made]
      nofun
    simp only [reduceCtorEq, exists_false, false_iff]
    exact fun h => h_blocked fun stop member => (h.1 stop member).1
  | ok made =>
    have h_clear : ∀ stop ∈ Place.wayOf p, t.isFile stop = false := h_way.1 ⟨made, h_made⟩
    obtain ⟨-, h_folders⟩ := makeFolders_spec h_made
    have h_goal := h_folders (Place.ofPath p)
    dsimp only
    split
    next h_folder =>
      simp only [reduceCtorEq, exists_false, false_iff, not_and]
      intro h_way h_free
      rcases h_goal.1 h_folder with h_before | h_stop
      · rw [h_free] at h_before
        cases h_before
      · exact (h_way _ h_stop).2 rfl
    next h_none =>
      rw [h_goal, not_or, Bool.not_eq_true] at h_none
      refine iff_of_true ⟨_, rfl⟩ ⟨fun stop member => ⟨h_clear stop member, ?_⟩, h_none.1⟩
      rintro rfl
      exact h_none.2 member

theorem write_spec (h_written : t.write p text = .ok u) :
    u.files = t.files.insert (Place.ofPath p) text ∧
      ∀ other, u.isFolder other = true ↔ t.isFolder other = true ∨ other ∈ Place.wayOf p := by
  unfold write at h_written
  split at h_written
  next => cases h_written
  next made h_made =>
    split at h_written
    next => cases h_written
    next =>
      cases h_written
      obtain ⟨h_files, h_folders⟩ := makeFolders_spec h_made
      refine ⟨?_, h_folders⟩
      rw [put, h_files]

theorem isFile_insert (t : FileTree) (goal other : Place) (text : String) :
    (t.files.insert goal text).contains other = true ↔ other = goal ∨ t.isFile other = true := by
  rw [OrderedMap.contains, OrderedMap.get?_insert, isFile, OrderedMap.contains]
  split
  next h_goal => simp [h_goal]
  next h_other => simp [h_other]

/-! ## Several files -/

variable {items : List (Path × String)} {paths : List Path}

/-- Nothing stands in the way of files at several paths: no file of the tree or of their own, and no
    folder. -/
structure HasRoom (t : FileTree) (paths : List Path) : Prop where
  clear : ∀ p ∈ paths, ∀ stop ∈ Place.wayOf p,
    t.isFile stop = false ∧ ∀ q ∈ paths, stop ≠ Place.ofPath q
  free : ∀ p ∈ paths, t.isFolder (Place.ofPath p) = false

/-- Once the first of several files is written, there is room for the others if there was for
    all. -/
theorem hasRoom_cons_iff (h_written : t.write p text = .ok u) :
    t.HasRoom (p :: paths) ↔ u.HasRoom paths := by
  obtain ⟨h_files, h_folders⟩ := write_spec h_written
  obtain ⟨h_way, h_goal⟩ := exists_write_iff.1 ⟨u, h_written⟩
  have h_file (place : Place) : u.isFile place = false ↔
      place ≠ Place.ofPath p ∧ t.isFile place = false := by
    rw [← Bool.not_eq_true, isFile, h_files, isFile_insert, not_or, Bool.not_eq_true]
  have h_folder (place : Place) : u.isFolder place = false ↔
      t.isFolder place = false ∧ place ∉ Place.wayOf p := by
    rw [← Bool.not_eq_true, h_folders, not_or, Bool.not_eq_true]
  constructor
  · intro room
    refine ⟨fun q member stop h_stop => ?_, fun q member => ?_⟩
    · obtain ⟨h_none, h_apart⟩ := room.clear q (List.mem_cons_of_mem _ member) stop h_stop
      obtain ⟨h_first, h_rest⟩ := List.forall_mem_cons.1 h_apart
      exact ⟨(h_file stop).2 ⟨h_first, h_none⟩, h_rest⟩
    · refine (h_folder _).2 ⟨room.free q (List.mem_cons_of_mem _ member), fun h_stop => ?_⟩
      exact (room.clear p List.mem_cons_self _ h_stop).2 q (List.mem_cons_of_mem _ member) rfl
  · intro room
    refine ⟨List.forall_mem_cons.2 ⟨fun stop h_stop => ?_, fun q member stop h_stop => ?_⟩,
      List.forall_mem_cons.2 ⟨h_goal, fun q member => ((h_folder _).1 (room.free q member)).1⟩⟩
    · refine ⟨(h_way stop h_stop).1, List.forall_mem_cons.2 ⟨(h_way stop h_stop).2, ?_⟩⟩
      rintro q member rfl
      exact ((h_folder _).1 (room.free q member)).2 h_stop
    · obtain ⟨h_none, h_apart⟩ := room.clear q member stop h_stop
      obtain ⟨h_first, h_before⟩ := (h_file stop).1 h_none
      exact ⟨h_before, List.forall_mem_cons.2 ⟨h_first, h_apart⟩⟩

theorem exists_write_of_hasRoom (room : t.HasRoom (p :: paths)) (text : String) :
    ∃ u, t.write p text = .ok u := by
  refine exists_write_iff.2 ⟨fun stop h_stop => ?_, room.free p List.mem_cons_self⟩
  obtain ⟨h_none, h_apart⟩ := room.clear p List.mem_cons_self stop h_stop
  exact ⟨h_none, h_apart p List.mem_cons_self⟩

/-- Several files can be written where there is room for them, whatever their texts. -/
theorem exists_writeAll_iff :
    (∃ u, writeAll t items = .ok u) ↔ t.HasRoom (items.map Prod.fst) := by
  induction items generalizing t with
  | nil => exact iff_of_true ⟨t, rfl⟩ ⟨nofun, nofun⟩
  | cons item rest ih =>
    rw [writeAll, List.map_cons]
    cases h_first : t.write item.1 item.2 with
    | error interruption =>
      refine iff_of_false nofun fun room => ?_
      obtain ⟨u, h_written⟩ := exists_write_of_hasRoom room item.2
      rw [h_first] at h_written
      cases h_written
    | ok u => exact ih.trans (hasRoom_cons_iff h_first).symm

theorem writeAll_spec (h_written : writeAll t items = .ok u) :
    u.files = t.files.insertAll (items.map fun item => (Place.ofPath item.1, item.2)) ∧
      ∀ other, u.isFolder other = true ↔
        t.isFolder other = true ∨ ∃ item ∈ items, other ∈ Place.wayOf item.1 := by
  induction items generalizing t with
  | nil =>
    cases h_written
    simp
  | cons item rest ih =>
    rw [writeAll] at h_written
    split at h_written
    next => cases h_written
    next v h_first =>
      obtain ⟨h_files, h_folders⟩ := ih h_written
      obtain ⟨h_file, h_folder⟩ := write_spec h_first
      refine ⟨?_, fun other => ?_⟩
      · rw [h_files, h_file, List.map_cons, OrderedMap.insertAll_cons]
      · simp only [h_folders, h_folder, List.mem_cons, exists_eq_or_imp, or_assoc]

/-- What is written can be read unless something is written to the same place later. -/
theorem read_of_writeAll {before after : List (Path × String)}
    (h_written : writeAll t (before ++ (p, text) :: after) = .ok u)
    (h_later : ∀ item ∈ after, Place.ofPath item.1 ≠ Place.ofPath p) : u.read p = .ok text := by
  obtain ⟨h_files, h_folders⟩ := writeAll_spec h_written
  have h_free := (exists_writeAll_iff.1 ⟨u, h_written⟩).free p (by simp)
  rw [read_eq_ok_iff]
  constructor
  · rw [← List.dropLast_concat_getLast (parts_ne_nil h_free), waypoints_concat]
    refine List.forall_mem_cons.2 ⟨isFolder_startOf u p, fun stop h_stop => ?_⟩
    exact (h_folders stop).2 (Or.inr ⟨(p, text), by simp, h_stop⟩)
  · rw [h_files, List.map_append, List.map_cons, OrderedMap.get?_insertAll_append_cons]
    rw [List.map_map, List.mem_map]
    rintro ⟨item, member, same⟩
    exact h_later item member same

end FileTree

end ResourceGraph.CommandLine
