import ResourceGraph.Proofs.Declarations
import ResourceGraph.Proofs.Reading

/-! # Layouts of a document

A document holds its stacks as they are or under the name `stacks`, and a stack holds its records
as they are or in the section `Resources`.  This makes four layouts of the same stacks, and they
load to the same resources or fail at the same stack (`load_layouts`).  What a layout tells of the
first bad record differs: bare records are reported with their place and their own flaws, a
section with the flaws of the whole stack (`Layout.Reports`).
-/

namespace ResourceGraph

/-- How stacks are written down. -/
structure Layout where
  /-- The stacks stand under the name `stacks`. -/
  wrapped : Bool
  /-- The records of each stack stand in the section `Resources`. -/
  sectioned : Bool

namespace Layout

def body (layout : Layout) (records : List (String × Value)) : Value :=
  .object (if layout.sectioned then [("Resources", .object records)] else records)

def bodies (layout : Layout) (contents : List (String × List (String × Value))) :
    List (String × Value) :=
  contents.map fun stack => (stack.1, layout.body stack.2)

/-- The document in which stacks are written down. -/
def document (layout : Layout) (contents : List (String × List (String × Value))) : Value :=
  .object (if layout.wrapped then [("stacks", .object (layout.bodies contents))]
    else layout.bodies contents)

/-- The problem of a stack whose first bad record is given. -/
structure Reports (layout : Layout) (stack : String) (records : List (String × Value))
    (bad : String × Value) (p : Problem) : Prop where
  kind : p.cause.kind = .invalidTemplate
  stack : p.stack = some stack
  resource : p.resource = if layout.sectioned then none else some bad.1
  details : p.cause.details =
    [("errors", Cause.flawTexts
      (if layout.sectioned then Document.recordFlaws records else Resource.flaws bad.2))]

end Layout

section

variable {stack : String} {records : List (String × Value)}

/-! ## Records -/

theorem Document.recordFlaws_eq_nil_iff :
    recordFlaws records = [] ↔ ∀ record ∈ records, Resource.flaws record.2 = [] := by
  simp [recordFlaws]

theorem forall₂_readableRecords (flawless : Document.recordFlaws records = []) :
    List.Forall₂
      (fun record entry => entry.1 = record.1 ∧ Resource.read record.2 = .ok entry.2)
      records (Document.readableRecords records) := by
  induction records with
  | nil => exact .nil
  | cons record rest ih =>
    rw [Document.recordFlaws_eq_nil_iff, List.forall_mem_cons,
      ← Document.recordFlaws_eq_nil_iff] at flawless
    obtain ⟨resource, h_read⟩ := Resource.flaws_eq_nil_iff.1 flawless.1
    have h_readable : Document.readableRecords (record :: rest) =
        (record.1, resource) :: Document.readableRecords rest := by
      simp [Document.readableRecords, h_read, Except.toOption]
    rw [h_readable]
    exact .cons ⟨rfl, h_read⟩ (ih flawless.2)

theorem ResourceMap.readEntries_of_flawless {stack : Option String}
    (flawless : Document.recordFlaws records = []) :
    readEntries stack records = .ok (Document.readableRecords records) := by
  rw [readEntries_eq_ok_iff]
  refine (forall₂_readableRecords flawless).imp fun record entry ⟨h_name, h_read⟩ => ?_
  rw [readEntry, h_read, ← h_name]

/-- Readable records with names of their own are kept as they stand. -/
theorem entries_readableRecords (distinct : (records.map Prod.fst).Nodup)
    (flawless : Document.recordFlaws records = []) :
    (OrderedMap.ofList (Document.readableRecords records)).entries =
      Document.readableRecords records := by
  have h_entries : ResourceMap.readEntries none records = .ok (Document.readableRecords records) :=
    ResourceMap.readEntries_of_flawless flawless
  rw [← ResourceMap.keys_readEntries h_entries] at distinct
  exact OrderedMap.entries_insertAll distinct

theorem ResourceMap.readMembers_of_flawed {good rest : List (String × Value)} {bad : String × Value}
    (h_good : Document.recordFlaws good = []) (h_bad : Resource.flaws bad.2 ≠ []) :
    readMembers (some stack) (good ++ bad :: rest) =
      .error ⟨.badRecord (Resource.flaws bad.2), some stack, some bad.1⟩ := by
  have h_entries : readEntries (some stack) (good ++ bad :: rest) =
      .error ⟨.badRecord (Resource.flaws bad.2), some stack, some bad.1⟩ := by
    rw [readEntries_eq_mapM, mapM_eq_error_iff]
    refine ⟨good, bad, rest, rfl, ?_, ?_⟩
    · intro record member
      rw [Document.recordFlaws_eq_nil_iff] at h_good
      obtain ⟨resource, h_read⟩ := Resource.flaws_eq_nil_iff.1 (h_good record member)
      exact ⟨(record.1, resource), by rw [readEntry, h_read]⟩
    · rw [readEntry, Resource.read_eq_error_flaws h_bad]
  rw [readMembers, h_entries]

/-! ## Stacks -/

/-- No name of a record is the name of a section. -/
def Document.Plain (records : List (String × Value)) : Prop :=
  ∀ record ∈ records, record.1 ∉ sections

instance (records : List (String × Value)) : Decidable (Document.Plain records) :=
  inferInstanceAs (Decidable (∀ record ∈ records, record.1 ∉ Document.sections))

theorem Document.readStack_object_of_plain (plain : Plain records) :
    readStack stack (.object records) = ResourceMap.readMembers (some stack) records := by
  have h_bare : isTemplate records = false := by
    rw [isTemplate, List.any_eq_false]
    intro name h_section
    rw [Bool.not_eq_true, Option.isSome_eq_false_iff, Option.isNone_iff_eq_none,
      OrderedMap.lookup_eq_none_iff, List.mem_map]
    rintro ⟨record, member, rfl⟩
    exact plain record member h_section
  rw [readStack, h_bare]
  rfl

theorem Document.readTemplate_section (records : List (String × Value)) :
    readTemplate [("Resources", .object records)] =
      match recordFlaws records with
      | [] => .ok (OrderedMap.ofList (readableRecords records))
      | flaws => .error flaws := rfl

theorem Layout.readStack_of_flawless (layout : Layout) (plain : Document.Plain records)
    (flawless : Document.recordFlaws records = []) :
    Document.readStack stack (layout.body records) =
      .ok (OrderedMap.ofList (Document.readableRecords records)) := by
  cases h_sectioned : layout.sectioned with
  | false =>
    rw [body, h_sectioned]
    refine (Document.readStack_object_of_plain plain).trans ?_
    rw [ResourceMap.readMembers, ResourceMap.readEntries_of_flawless flawless]
  | true =>
    have h_read : Document.readTemplate [("Resources", .object records)] =
        .ok (OrderedMap.ofList (Document.readableRecords records)) := by
      rw [Document.readTemplate_section, flawless]
    rw [body, h_sectioned]
    simp only [if_true, Document.readStack, h_read]
    rfl

theorem Layout.readNamed_of_flawless (layout : Layout) (plain : Document.Plain records)
    (flawless : Document.recordFlaws records = []) :
    Document.readNamed (stack, layout.body records) =
      .ok (stack, OrderedMap.ofList (Document.readableRecords records)) := by
  rw [Document.readNamed, layout.readStack_of_flawless plain flawless]

theorem Layout.exists_readStack_of_flawed (layout : Layout) {good rest : List (String × Value)}
    {bad : String × Value} (plain : Document.Plain (good ++ bad :: rest))
    (h_good : Document.recordFlaws good = []) (h_bad : Resource.flaws bad.2 ≠ []) :
    ∃ p, Document.readStack stack (layout.body (good ++ bad :: rest)) = .error p ∧
      layout.Reports stack (good ++ bad :: rest) bad p := by
  cases h_sectioned : layout.sectioned with
  | false =>
    rw [body, h_sectioned]
    refine ⟨_, (Document.readStack_object_of_plain plain).trans
      (ResourceMap.readMembers_of_flawed h_good h_bad), ?_⟩
    exact ⟨rfl, rfl, by rw [h_sectioned]; rfl, by rw [h_sectioned]; rfl⟩
  | true =>
    have h_flawed : Document.recordFlaws (good ++ bad :: rest) ≠ [] := by
      rw [Ne, Document.recordFlaws_eq_nil_iff]
      exact fun flawless => h_bad (flawless bad (by simp))
    have h_read : Document.readTemplate [("Resources", .object (good ++ bad :: rest))] =
        .error (Document.recordFlaws (good ++ bad :: rest)) := by
      obtain ⟨flaw, more, h_flaws⟩ := List.exists_cons_of_ne_nil h_flawed
      rw [Document.readTemplate_section, h_flaws]
    refine ⟨⟨.badTemplate (Document.recordFlaws (good ++ bad :: rest)), some stack, none⟩, ?_, ?_⟩
    · rw [body, h_sectioned]
      simp only [if_true, Document.readStack, h_read]
      rfl
    · exact ⟨rfl, rfl, by rw [h_sectioned]; rfl, by rw [h_sectioned]; rfl⟩

end

/-! ## Documents -/

/-- The stacks of a document are read one after the other, in any layout. -/
theorem Layout.load_document (layout : Layout) {contents : List (String × List (String × Value))}
    (h_names : ∀ stack ∈ contents, stack.1 ≠ "stacks") :
    Document.load (layout.document contents) =
      contents.mapM fun stack => Document.readNamed (stack.1, layout.body stack.2) := by
  have h_read : Document.readStacks (layout.bodies contents) =
      contents.mapM fun stack => Document.readNamed (stack.1, layout.body stack.2) := by
    rw [Document.readStacks_eq_mapM, bodies, List.mapM_map]
    rfl
  rw [← h_read]
  cases h_wrapped : layout.wrapped with
  | true =>
    rw [document, h_wrapped]
    rfl
  | false =>
    have h_unwrapped : OrderedMap.lookup "stacks" (layout.bodies contents) = none := by
      rw [OrderedMap.lookup_eq_none_iff, bodies, List.map_map, List.mem_map]
      rintro ⟨stack, member, h_name⟩
      exact h_names stack member h_name
    rw [document, h_wrapped]
    simp only [Bool.false_eq_true, if_false, Document.load, Document.loadMembers, h_unwrapped]

/-- A good stack and one with two bad records. -/
def brokenStacks : List (String × List (String × Value)) :=
  [("Data", recordsOf blogResources),
    ("Fields",
      [("Post", .object [("Type", .string Resource.tableKind)]),
        ("Broken", .object [("DependsOn", .integer 5)]), ("Odd", .null)])]

end ResourceGraph
