import ResourceGraph.Bundle.Normalization
import ResourceGraph.Text.Blank
import ResourceGraph.Text.UpperCase

/-! # Settings

What a user may set: by hand, in the environment, or in a file beside the work.  For each field
the first of these `Settings.Sources` that has a value decides.  `Settings.read` reads all fields
and collects the flaws of all of them in the order of the fields, so a user is told everything at
once.  Only the root type names have a notation of their own, names with commas between them
(`splitNames`).
-/

namespace ResourceGraph

structure Settings where
  rootTypeNames : List String
  tableNameSuffix : String
  templateExtension : String
  outputDir : String
  logLevel : String
deriving DecidableEq, Inhabited

/-! ## Flaws -/

inductive SettingFault where
  | notText
  | notList
  | noRootNames
  | unknownLevel (given : String)
deriving DecidableEq, Inhabited

def SettingFault.message : SettingFault → String
  | notText => "Input should be a valid string"
  | notList => "Input should be a valid list"
  | noRootNames => "Value error, At least one root type name is required"
  | unknownLevel given => "Value error, Invalid log level: " ++ given

/-- A fault and where it is: a field, or an item of one. -/
structure SettingFlaw where
  location : String
  fault : SettingFault
deriving DecidableEq, Inhabited

namespace Settings

/-! ## Root type names -/

/-- Names out of text with commas between them; blanks around a name and blank pieces do not
    count. -/
def splitNames (text : String) : List String :=
  (((Text.pieces ',' text.toList).map Text.trim).filter fun piece => !piece.isEmpty).map
    String.ofList

/-- The flaws of the names in a list, counted from a position. -/
def nameFlaws (position : Nat) : List Value → List SettingFlaw
  | [] => []
  | .string _ :: rest => nameFlaws (position + 1) rest
  | _ :: rest =>
    ⟨"root_type_names." ++ toString position, .notText⟩ :: nameFlaws (position + 1) rest

def requireNames (names : List String) : Except (List SettingFlaw) (List String) :=
  if names.isEmpty then .error [⟨"root_type_names", .noRootNames⟩] else .ok names

/-- The root type names in a value: text with commas, or a list of names. -/
def readRootTypeNames : Value → Except (List SettingFlaw) (List String)
  | .string text => requireNames (splitNames text)
  | .array names =>
    match nameFlaws 0 names with
    | [] => requireNames (names.filterMap Value.text?)
    | flaws => .error flaws
  | _ => .error [⟨"root_type_names", .notList⟩]

/-! ## Other fields -/

def readText (field : String) : Value → Except (List SettingFlaw) String
  | .string text => .ok text
  | _ => .error [⟨field, .notText⟩]

def levels : List String := ["DEBUG", "INFO", "WARNING", "ERROR", "CRITICAL"]

def upperCase (text : String) : String := String.ofList (Text.upper text.toList)

/-- The level of logging in a value, in any case. -/
def readLogLevel : Value → Except (List SettingFlaw) String
  | .string text =>
    if upperCase text ∈ levels then .ok (upperCase text)
    else .error [⟨"log_level", .unknownLevel text⟩]
  | _ => .error [⟨"log_level", .notText⟩]

/-! ## Sources -/

/-- The directory for written bundles unless another one is set. -/
def defaultOutputDir : String := "schemahound-output"

/-- What every variable of the environment that belongs to the settings starts with. -/
def variableStart : String := "schemahound_"

/-- The settings of a user who sets nothing. -/
def standard : Settings :=
  ⟨defaultRoots, Table.defaultSuffix, MappingTemplate.defaultExtension, defaultOutputDir, "INFO"⟩

/-- Names with their values: settings given by hand, variables of the environment, and the lines of
    the settings file. -/
structure Sources where
  given : List (String × Value)
  environment : List (String × String)
  file : String

/-- The lines `NAME=value` of a settings file; lines of another form and lines that start with `#` do
    not count.  Only such bare lines are understood.  Quotes, an `export` in front, a remark behind a
    value and references to other variables have no meaning here and stay in the name or the value as
    they are. -/
def fileVariables (file : String) : List (String × String) :=
  (Text.pieces '\n' file.toList).filterMap fun line =>
    match Text.trim line with
    | [] => none
    | '#' :: _ => none
    | cs =>
      match Text.pieces '=' cs with
      | name :: value :: more =>
        some (String.ofList (Text.trim name),
          String.ofList (Text.trim (Text.join '=' (value :: more))))
      | _ => none

/-- The last variable for a field; the case of its name does not matter. -/
def variableFor (field : String) (named : List (String × String)) : Option Value :=
  ((named.filter fun entry => entry.1.toLower = variableStart ++ field).getLast?).map
    fun entry => .string entry.2

/-- The value of a field: by hand, by the environment, by the settings file. -/
def Sources.lookup (sources : Sources) (field : String) : Option Value :=
  (OrderedMap.lookup field sources.given).or
    ((variableFor field sources.environment).or (variableFor field (fileVariables sources.file)))

/-- A field by its reader, or its standard value. -/
def readField {α : Type} (sources : Sources) (field : String) (otherwise : α)
    (read : Value → Except (List SettingFlaw) α) : Except (List SettingFlaw) α :=
  match sources.lookup field with
  | some v => read v
  | none => .ok otherwise

/-- All settings, or all flaws in the order of the fields. -/
def read (sources : Sources) : Except (List SettingFlaw) Settings :=
  let text (field otherwise : String) := readField sources field otherwise (readText field)
  let roots := readField sources "root_type_names" standard.rootTypeNames readRootTypeNames
  let suffix := text "table_name_suffix" standard.tableNameSuffix
  let extension := text "template_extension" standard.templateExtension
  let output := text "output_dir" standard.outputDir
  let level := readField sources "log_level" standard.logLevel readLogLevel
  match roots, suffix, extension, output, level with
  | .ok roots, .ok suffix, .ok extension, .ok output, .ok level =>
    .ok ⟨roots, suffix, extension, output, level⟩
  | roots, suffix, extension, output, level =>
    .error (flawsOf roots ++ flawsOf suffix ++ flawsOf extension ++ flawsOf output
      ++ flawsOf level)

def toValue (s : Settings) : Value :=
  .object
    [("root_type_names", .array (s.rootTypeNames.map .string)),
     ("table_name_suffix", .string s.tableNameSuffix),
     ("template_extension", .string s.templateExtension),
     ("output_dir", .string s.outputDir),
     ("log_level", .string s.logLevel)]

def options (s : Settings) : Options := ⟨s.rootTypeNames, s.tableNameSuffix, s.templateExtension⟩

end Settings

end ResourceGraph
