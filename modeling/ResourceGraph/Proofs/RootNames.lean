import ResourceGraph.Settings

/-! # Root type names

Names written as text with commas between them, and what the settings make of such text.

The names in a text are those that its pieces list, blank pieces and blanks around a name aside.
As a relation this is `Settings.Lists`; it is sound and complete for `splitNames`, so one
equivalence, `splitNames_eq_iff`, serves both directions of the round trip.  Settings are read
field by field (`Settings.Reads`), hence a change to the root type names alone leaves all other
fields and their flaws as they are.
-/

namespace ResourceGraph

namespace Settings

/-! ## Names between commas -/

def IsBlank (s : String) : Prop := ∀ c ∈ s.toList, Text.isBlank c = true

instance (s : String) : Decidable (IsBlank s) :=
  List.decidableBAll (fun c => Text.isBlank c = true) s.toList

/-- Every piece between the commas of a text is blank. -/
def AllBlank (text : String) : Prop :=
  ∀ piece ∈ Text.pieces ',' text.toList, IsBlank (String.ofList piece)

instance (text : String) : Decidable (AllBlank text) :=
  List.decidableBAll (fun piece => IsBlank (String.ofList piece)) (Text.pieces ',' text.toList)

/-- A name has a character, no comma, and no blanks at its ends. -/
structure IsName (name : String) : Prop where
  nonempty : name ≠ ""
  no_comma : ',' ∉ name.toList
  first : ∀ c ∈ name.toList.head?, Text.isBlank c = false
  last : ∀ c ∈ name.toList.getLast?, Text.isBlank c = false

instance (name : String) : Decidable (IsName name) :=
  haveI : Decidable (∀ c ∈ name.toList.head?, Text.isBlank c = false) :=
    Option.decidableForallMem _
  haveI : Decidable (∀ c ∈ name.toList.getLast?, Text.isBlank c = false) :=
    Option.decidableForallMem _
  decidable_of_iff
    (name ≠ "" ∧ ',' ∉ name.toList ∧ (∀ c ∈ name.toList.head?, Text.isBlank c = false) ∧
      ∀ c ∈ name.toList.getLast?, Text.isBlank c = false)
    ⟨fun ⟨h_some, no_comma, first, last⟩ => ⟨h_some, no_comma, first, last⟩,
      fun ⟨h_some, no_comma, first, last⟩ => ⟨h_some, no_comma, first, last⟩⟩

/-- Pieces of text list names: each piece is blank, or the next name with blanks around it. -/
inductive Lists : List String → List String → Prop where
  | nil : Lists [] []
  | blank {piece : String} {pieces names : List String} (h_blank : IsBlank piece)
      (rest : Lists pieces names) : Lists (piece :: pieces) names
  | name {front name back : String} {pieces names : List String} (h_front : IsBlank front)
      (h_back : IsBlank back) (rest : Lists pieces names) :
      Lists ((front ++ name ++ back) :: pieces) (name :: names)

/-- The name in a piece of text, if there is one. -/
def nameIn? (piece : List Char) : Option String :=
  MappingTemplate.nonempty? (String.ofList (Text.trim piece))

variable {text name : String} {pieces names : List String} {piece : List Char}

theorem nameIn?_eq_some_iff :
    nameIn? piece = some name ↔ Text.trim piece = name.toList ∧ name ≠ "" := by
  rw [nameIn?, MappingTemplate.nonempty?_eq_some_iff, ← String.toList_inj, String.toList_ofList]

theorem nameIn?_eq_none_iff : nameIn? piece = none ↔ IsBlank (String.ofList piece) := by
  rw [IsBlank, String.toList_ofList, ← Text.trim_eq_nil_iff]
  simp [nameIn?, MappingTemplate.nonempty?]

theorem splitNames_eq_filterMap (text : String) :
    splitNames text = (Text.pieces ',' text.toList).filterMap nameIn? := by
  unfold splitNames
  induction Text.pieces ',' text.toList with
  | nil => rfl
  | cons piece rest ih =>
    by_cases h_piece : Text.trim piece = [] <;> simp_all [nameIn?, MappingTemplate.nonempty?]

theorem nameIn?_of_name (is_name : IsName name) {front back : String} (h_front : IsBlank front)
    (h_back : IsBlank back) : nameIn? (front ++ name ++ back).toList = some name := by
  refine nameIn?_eq_some_iff.2 ⟨?_, is_name.nonempty⟩
  rw [String.toList_append, String.toList_append, Text.trim_append h_front h_back,
    Text.trim_eq_self is_name.first is_name.last]

/-- A piece with a name in it is the name with blanks around it. -/
theorem exists_margins_of_nameIn? (found : nameIn? piece = some name) :
    ∃ front back, String.ofList piece = front ++ name ++ back ∧ IsBlank front ∧ IsBlank back := by
  obtain ⟨front, back, h_piece, h_front, h_back⟩ := Text.exists_margins piece
  rw [(nameIn?_eq_some_iff.1 found).1] at h_piece
  refine ⟨String.ofList front, String.ofList back, ?_, ?_, ?_⟩
  · simp [← String.toList_inj, h_piece]
  · simpa [IsBlank] using h_front
  · simpa [IsBlank] using h_back

theorem isName_of_nameIn? (no_comma : ',' ∉ piece) (found : nameIn? piece = some name) :
    IsName name := by
  obtain ⟨h_trim, h_some⟩ := nameIn?_eq_some_iff.1 found
  refine ⟨h_some, ?_, ?_, ?_⟩
  · obtain ⟨front, back, h_piece, -, -⟩ := Text.exists_margins piece
    rw [h_piece, h_trim] at no_comma
    exact fun h_comma => no_comma (by simp [h_comma])
  · exact h_trim ▸ Text.not_isBlank_of_head?_trim
  · exact h_trim ▸ Text.not_isBlank_of_getLast?_trim

/-! ## Listed names -/

theorem IsBlank.no_comma {s : String} (blank : IsBlank s) : ',' ∉ s.toList :=
  fun h_comma => absurd (blank ',' h_comma) (by decide)

theorem Lists.no_comma (lists : Lists pieces names) (are_names : ∀ name ∈ names, IsName name) :
    ∀ piece ∈ pieces, ',' ∉ piece.toList := by
  induction lists with
  | nil => simp
  | blank h_blank _ ih => exact List.forall_mem_cons.2 ⟨h_blank.no_comma, ih are_names⟩
  | name h_front h_back _ ih =>
    rw [List.forall_mem_cons] at are_names
    refine List.forall_mem_cons.2 ⟨?_, ih are_names.2⟩
    simp [h_front.no_comma, are_names.1.no_comma, h_back.no_comma]

theorem filterMap_of_lists (lists : Lists pieces names) (are_names : ∀ name ∈ names, IsName name) :
    (pieces.map String.toList).filterMap nameIn? = names := by
  induction lists with
  | nil => rfl
  | @blank piece _ _ h_blank _ ih =>
    have h_none : nameIn? piece.toList = none :=
      nameIn?_eq_none_iff.2 (by rwa [String.ofList_toList])
    rw [List.map_cons, List.filterMap_cons_none h_none, ih are_names]
  | name h_front h_back _ ih =>
    rw [List.forall_mem_cons] at are_names
    rw [List.map_cons, List.filterMap_cons_some (nameIn?_of_name are_names.1 h_front h_back),
      ih are_names.2]

theorem lists_filterMap (texts : List (List Char)) :
    Lists (texts.map String.ofList) (texts.filterMap nameIn?) := by
  induction texts with
  | nil => exact .nil
  | cons piece rest ih =>
    cases h_piece : nameIn? piece with
    | none =>
      rw [List.filterMap_cons_none h_piece]
      exact .blank (nameIn?_eq_none_iff.1 h_piece) ih
    | some name =>
      obtain ⟨front, back, h_margins, h_front, h_back⟩ := exists_margins_of_nameIn? h_piece
      rw [List.filterMap_cons_some h_piece, List.map_cons, h_margins]
      exact .name h_front h_back ih

theorem pieces_intercalate (h_some : pieces ≠ []) (no_comma : ∀ piece ∈ pieces, ',' ∉ piece.toList) :
    Text.pieces ',' (",".intercalate pieces).toList = pieces.map String.toList := by
  have h_text : (",".intercalate pieces).toList = Text.join ',' (pieces.map String.toList) := by
    rw [Text.join_eq_intercalate, String.toList_intercalate]
    rfl
  rw [h_text, Text.pieces_join (by simpa using h_some)]
  simpa using no_comma

theorem splitNames_intercalate (lists : Lists pieces names)
    (are_names : ∀ name ∈ names, IsName name) : splitNames (",".intercalate pieces) = names := by
  cases h_pieces : pieces with
  | nil =>
    subst h_pieces
    cases lists
    rfl
  | cons first rest =>
    rw [← h_pieces, splitNames_eq_filterMap,
      pieces_intercalate (by simp [h_pieces]) (lists.no_comma are_names),
      filterMap_of_lists lists are_names]

theorem isName_of_mem_splitNames (member : name ∈ splitNames text) : IsName name := by
  rw [splitNames_eq_filterMap] at member
  obtain ⟨piece, h_piece, found⟩ := List.mem_filterMap.1 member
  exact isName_of_nameIn? (Text.separator_not_mem_piece h_piece) found

theorem exists_lists_splitNames (text : String) :
    ∃ pieces, Lists pieces (splitNames text) ∧ text = ",".intercalate pieces := by
  refine ⟨(Text.pieces ',' text.toList).map String.ofList, ?_, ?_⟩
  · rw [splitNames_eq_filterMap]
    exact lists_filterMap _
  · have h_join : [','].intercalate (Text.pieces ',' text.toList) = text.toList := by
      rw [← Text.join_eq_intercalate, Text.join_pieces]
    simp [← String.toList_inj, Function.comp_def, h_join]

/-- The names in a text are those that are listed by the pieces between its commas. -/
theorem splitNames_eq_iff :
    splitNames text = names ↔
      (∀ name ∈ names, IsName name) ∧
        ∃ pieces, Lists pieces names ∧ text = ",".intercalate pieces := by
  constructor
  · rintro rfl
    exact ⟨fun _ => isName_of_mem_splitNames, exists_lists_splitNames text⟩
  · rintro ⟨are_names, pieces, lists, rfl⟩
    exact splitNames_intercalate lists are_names

/-- Names list themselves. -/
theorem lists_self (names : List String) : Lists names names := by
  induction names with
  | nil => exact .nil
  | cons name rest ih =>
    have h_empty : IsBlank "" := by simp [IsBlank]
    simpa using Lists.name h_empty h_empty ih

theorem splitNames_eq_nil_iff : splitNames text = [] ↔ AllBlank text := by
  rw [splitNames_eq_filterMap, List.filterMap_eq_nil_iff]
  simp only [nameIn?_eq_none_iff, AllBlank]

/-! ## Field by field -/

def rootNamesIn (sources : Sources) : Except (List SettingFlaw) (List String) :=
  readField sources "root_type_names" standard.rootTypeNames readRootTypeNames

def textIn (sources : Sources) (field otherwise : String) : Except (List SettingFlaw) String :=
  readField sources field otherwise (readText field)

def levelIn (sources : Sources) : Except (List SettingFlaw) String :=
  readField sources "log_level" standard.logLevel readLogLevel

/-- Every field of the settings is what is read of it. -/
structure Reads (sources : Sources) (settings : Settings) : Prop where
  rootTypeNames : rootNamesIn sources = .ok settings.rootTypeNames
  tableNameSuffix : textIn sources "table_name_suffix" standard.tableNameSuffix =
    .ok settings.tableNameSuffix
  templateExtension : textIn sources "template_extension" standard.templateExtension =
    .ok settings.templateExtension
  outputDir : textIn sources "output_dir" standard.outputDir = .ok settings.outputDir
  logLevel : levelIn sources = .ok settings.logLevel

variable {sources others : Sources} {settings rest : Settings} {field otherwise : String}
  {flaw : SettingFlaw}

theorem read_eq_ok_iff : read sources = .ok settings ↔ Reads sources settings := by
  unfold read
  dsimp only
  constructor
  · intro h_read
    split at h_read
    next h_roots h_suffix h_extension h_output h_level =>
      cases h_read
      exact ⟨h_roots, h_suffix, h_extension, h_output, h_level⟩
    next => cases h_read
  · rintro ⟨h_roots, h_suffix, h_extension, h_output, h_level⟩
    unfold rootNamesIn at h_roots
    unfold textIn at h_suffix h_extension h_output
    unfold levelIn at h_level
    simp only [h_roots, h_suffix, h_extension, h_output, h_level]

/-- The flaws of settings are those of their fields. -/
theorem flawsOf_read (sources : Sources) :
    flawsOf (read sources) =
      flawsOf (rootNamesIn sources) ++
        flawsOf (textIn sources "table_name_suffix" standard.tableNameSuffix) ++
        flawsOf (textIn sources "template_extension" standard.templateExtension) ++
        flawsOf (textIn sources "output_dir" standard.outputDir) ++ flawsOf (levelIn sources) := by
  unfold read rootNamesIn textIn levelIn
  dsimp only
  split
  next h_roots h_suffix h_extension h_output h_level =>
    simp only [h_roots, h_suffix, h_extension, h_output, h_level, flawsOf, List.append_nil]
  next => rfl

/-- A flaw of a field is one of the value that is given for it. -/
theorem exists_mem_of_readField {α : Type} {usual : α}
    {reader : Value → Except (List SettingFlaw) α}
    (member : flaw ∈ flawsOf (readField sources field usual reader)) :
    ∃ v, flaw ∈ flawsOf (reader v) := by
  unfold readField at member
  split at member
  next v _ => exact ⟨v, member⟩
  next => cases member

theorem location_of_mem_textIn (member : flaw ∈ flawsOf (textIn sources field otherwise)) :
    flaw.location = field := by
  obtain ⟨v, h_flaw⟩ := exists_mem_of_readField member
  unfold readText at h_flaw
  split at h_flaw
  next => cases h_flaw
  next => rw [List.mem_singleton.1 h_flaw]

theorem location_of_mem_levelIn (member : flaw ∈ flawsOf (levelIn sources)) :
    flaw.location = "log_level" := by
  obtain ⟨v, h_flaw⟩ := exists_mem_of_readField member
  unfold readLogLevel at h_flaw
  split at h_flaw
  next =>
    split at h_flaw
    next => cases h_flaw
    next => rw [List.mem_singleton.1 h_flaw]
  next => rw [List.mem_singleton.1 h_flaw]

/-- A flaw at the root type names is one of the root type names. -/
theorem mem_flawsOf_read_iff (h_location : flaw.location = "root_type_names") :
    flaw ∈ flawsOf (read sources) ↔ flaw ∈ flawsOf (rootNamesIn sources) := by
  have no_text : ∀ field otherwise, field ≠ "root_type_names" →
      flaw ∉ flawsOf (textIn sources field otherwise) :=
    fun _ _ h_field member => h_field (location_of_mem_textIn member ▸ h_location)
  have no_level : flaw ∉ flawsOf (levelIn sources) := by
    intro member
    rw [location_of_mem_levelIn member] at h_location
    exact absurd h_location (by decide)
  rw [flawsOf_read]
  simp [no_text, no_level]

/-! ## Given names -/

/-- Everything but the root type names is given alike. -/
def SameBesides (others sources : Sources) : Prop :=
  ∀ field, field ≠ "root_type_names" → sources.lookup field = others.lookup field

theorem SameBesides.readField_eq (same : SameBesides others sources)
    (h_field : field ≠ "root_type_names") {α : Type} (usual : α)
    (reader : Value → Except (List SettingFlaw) α) :
    readField sources field usual reader = readField others field usual reader := by
  rw [readField, same field h_field, readField]

theorem SameBesides.textIn_eq (same : SameBesides others sources)
    (h_field : field ≠ "root_type_names") (otherwise : String) :
    textIn sources field otherwise = textIn others field otherwise :=
  same.readField_eq h_field otherwise (readText field)

theorem SameBesides.levelIn_eq (same : SameBesides others sources) :
    levelIn sources = levelIn others :=
  same.readField_eq (by decide) standard.logLevel readLogLevel

/-- Only the root type names of settings depend on what is given for them. -/
theorem read_of_sameBesides (same : SameBesides others sources) (h_rest : read others = .ok rest) :
    read sources =
      (rootNamesIn sources).map fun names => { rest with rootTypeNames := names } := by
  have reads := read_eq_ok_iff.1 h_rest
  cases h_names : rootNamesIn sources with
  | ok names =>
    refine read_eq_ok_iff.2 ⟨h_names, ?_, ?_, ?_, ?_⟩
    · rw [same.textIn_eq (by decide), reads.tableNameSuffix]
    · rw [same.textIn_eq (by decide), reads.templateExtension]
    · rw [same.textIn_eq (by decide), reads.outputDir]
    · rw [same.levelIn_eq, reads.logLevel]
  | error flaws =>
    cases h_read : read sources with
    | ok settings =>
      have h_found := (read_eq_ok_iff.1 h_read).rootTypeNames
      rw [h_names] at h_found
      cases h_found
    | error found =>
      have h_flaws := flawsOf_read sources
      rw [h_read, h_names, same.textIn_eq (by decide), same.textIn_eq (by decide),
        same.textIn_eq (by decide), same.levelIn_eq, reads.tableNameSuffix,
        reads.templateExtension, reads.outputDir, reads.logLevel] at h_flaws
      simpa [flawsOf, Except.map] using h_flaws

theorem rootNamesIn_of_text (given : sources.lookup "root_type_names" = some (.string text)) :
    rootNamesIn sources = requireNames (splitNames text) := by
  rw [rootNamesIn, readField, given]
  rfl

theorem requireNames_eq_ok_iff {found : List String} :
    requireNames names = .ok found ↔ found = names ∧ names ≠ [] := by
  cases names <;> simp [requireNames, eq_comm]

theorem requireNames_eq_error_iff {flaws : List SettingFlaw} :
    requireNames names = .error flaws ↔
      flaws = [⟨"root_type_names", .noRootNames⟩] ∧ names = [] := by
  cases names <;> simp [requireNames, eq_comm]

theorem mem_flawsOf_requireNames_iff :
    ⟨"root_type_names", .noRootNames⟩ ∈ flawsOf (requireNames names) ↔ names = [] := by
  cases names <;> simp [requireNames, flawsOf]

/-- The names in a text are read if there are any. -/
theorem read_of_names (given : sources.lookup "root_type_names" = some (.string text))
    (same : SameBesides others sources) (h_rest : read others = .ok rest)
    (h_names : splitNames text = names) (h_some : names ≠ []) :
    read sources = .ok { rest with rootTypeNames := names } := by
  rw [read_of_sameBesides same h_rest, rootNamesIn_of_text given, h_names,
    requireNames_eq_ok_iff.2 ⟨rfl, h_some⟩]
  rfl

/-- Names that are listed with any blanks and any blank pieces are the root type names that are read.
    Whatever text is given, only names are read; it is refused if and only if all its pieces are
    blank, and what is read of it can be joined by commas and read again. -/
theorem rootTypeNames_survive {sources : Sources} {text : String}
    (given : sources.lookup "root_type_names" = some (.string text)) :
    (∀ others rest, SameBesides others sources → read others = .ok rest →
        (∀ pieces names, names ≠ [] → (∀ name ∈ names, IsName name) → Lists pieces names →
          text = ",".intercalate pieces →
            read sources = .ok { rest with rootTypeNames := names }) ∧
        ∀ flaws, read sources = .error flaws ↔
          flaws = [⟨"root_type_names", .noRootNames⟩] ∧ AllBlank text) ∧
      (⟨"root_type_names", .noRootNames⟩ ∈ flawsOf (read sources) ↔ AllBlank text) ∧
      ∀ settings, read sources = .ok settings →
        settings.rootTypeNames ≠ [] ∧ (∀ name ∈ settings.rootTypeNames, IsName name) ∧
          (∃ pieces, Lists pieces settings.rootTypeNames ∧ text = ",".intercalate pieces) ∧
          ∀ again, SameBesides sources again →
            again.lookup "root_type_names" =
                some (.string (",".intercalate settings.rootTypeNames)) →
              read again = .ok settings := by
  refine ⟨fun others rest same h_rest => ⟨?_, fun flaws => ?_⟩, ?_, fun settings h_read => ?_⟩
  · intro pieces names h_some are_names lists h_text
    have h_names : splitNames text = names := splitNames_eq_iff.2 ⟨are_names, pieces, lists, h_text⟩
    exact read_of_names given same h_rest h_names h_some
  · rw [read_of_sameBesides same h_rest, rootNamesIn_of_text given, ← splitNames_eq_nil_iff,
      ← requireNames_eq_error_iff]
    cases requireNames (splitNames text) <;> simp [Except.map]
  · rw [mem_flawsOf_read_iff rfl, rootNamesIn_of_text given, mem_flawsOf_requireNames_iff,
      splitNames_eq_nil_iff]
  · have h_found := (read_eq_ok_iff.1 h_read).rootTypeNames
    rw [rootNamesIn_of_text given, requireNames_eq_ok_iff] at h_found
    obtain ⟨h_names, h_some⟩ := h_found
    rw [← h_names] at h_some
    obtain ⟨are_names, h_lists⟩ := splitNames_eq_iff.1 h_names.symm
    have h_joined : splitNames (",".intercalate settings.rootTypeNames) = settings.rootTypeNames :=
      splitNames_intercalate (lists_self _) are_names
    refine ⟨h_some, are_names, h_lists, fun again same h_again => ?_⟩
    exact read_of_names h_again same h_read h_joined h_some

/-- Settings with root type names by hand and nothing else. -/
def namedByHand (text : String) : Sources := ⟨[("root_type_names", .string text)], [], ""⟩

/-- Settings with root type names in the environment and nothing else. -/
def namedByVariable (text : String) : Sources :=
  ⟨[], [("SCHEMAHOUND_ROOT_TYPE_NAMES", text)], ""⟩

theorem lookup_namedByHand (text field : String) :
    (namedByHand text).lookup field =
      if field = "root_type_names" then some (.string text) else none := by
  by_cases h_field : field = "root_type_names"
  · subst h_field
    rfl
  · have h_given : (namedByHand text).lookup field = none := by
      simp only [namedByHand, Sources.lookup, OrderedMap.lookup, Ne.symm h_field, if_false]
      rfl
    rw [h_given, if_neg h_field]

/-- The case of a variable does not matter. -/
theorem lookup_namedByVariable (text field : String) :
    (namedByVariable text).lookup field =
      if field = "root_type_names" then some (.string text) else none := by
  have h_lower : "SCHEMAHOUND_ROOT_TYPE_NAMES".toLower = variableStart ++ "root_type_names" := by
    decide +kernel
  have h_variable : (namedByVariable text).lookup field =
      (if "root_type_names" = field then some (.string text) else none).or none := by
    simp only [namedByVariable, Sources.lookup, OrderedMap.lookup, Option.none_or, variableFor,
      List.filter_cons, List.filter_nil, h_lower, String.append_right_inj, decide_eq_true_eq]
    congr 1
    split <;> rfl
  rw [h_variable, Option.or_none]
  simp only [eq_comm]

/-- Names with blanks and blank pieces among them in the environment, and the same names by hand. -/
theorem paddedNames_survive :
    let text := " Query ,,\u00a0Root Type\u3000,\t"
    let settings := { standard with rootTypeNames := ["Query", "Root Type"] }
    (namedByVariable text).lookup "root_type_names" = some (.string text) ∧
      read (namedByVariable text) = .ok settings ∧
      read (namedByHand "Query,Root Type") = .ok settings ∧
      ⟨"root_type_names", .noRootNames⟩ ∈ flawsOf (read (namedByVariable " ,\u3000,\t")) := by
  intro text settings
  have given : ∀ text, (namedByVariable text).lookup "root_type_names" = some (.string text) := by
    intro text
    rw [lookup_namedByVariable, if_pos rfl]
  have same : SameBesides ⟨[], [], ""⟩ (namedByVariable text) := by
    intro field h_field
    rw [lookup_namedByVariable, if_neg h_field]
    rfl
  have same_by_hand : SameBesides (namedByVariable text) (namedByHand "Query,Root Type") := by
    intro field h_field
    rw [lookup_namedByVariable, lookup_namedByHand, if_neg h_field, if_neg h_field]
  have are_names : ∀ name ∈ ["Query", "Root Type"], IsName name := by decide
  have lists : Lists [" " ++ "Query" ++ " ", "", "\u00a0" ++ "Root Type" ++ "\u3000", "\t"]
      ["Query", "Root Type"] :=
    .name (by decide) (by decide) (.blank (by decide)
      (.name (by decide) (by decide) (.blank (by decide) .nil)))
  obtain ⟨h_first, -, h_accepted⟩ := rootTypeNames_survive (given text)
  have h_read := (h_first _ standard same rfl).1 _ _ (by decide) are_names lists rfl
  obtain ⟨-, -, -, h_again⟩ := h_accepted _ h_read
  obtain ⟨-, h_refused, -⟩ := rootTypeNames_survive (given " ,\u3000,\t")
  refine ⟨given text, h_read, h_again _ same_by_hand ?_, h_refused.2 (by decide)⟩
  rw [lookup_namedByHand, if_pos rfl]
  rfl

end Settings

end ResourceGraph
