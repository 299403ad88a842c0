import ResourceGraph.CommandLine.Words
import ResourceGraph.Settings

namespace ResourceGraph.CommandLine

inductive Command where
  | normalize (input output : String) (merge : Bool) (roots : List String)
  | templates (directory : String) (bundle : Option String)
deriving DecidableEq, Inhabited

inductive Request where
  | help
  | version
  /-- Something that no command line may ask for. -/
  | refused
  /-- A command, or none, at a level of logging. -/
  | run (level : String) (command : Option Command)
deriving DecidableEq, Inhabited

/-- The keys of all switches. -/
inductive Key where
  | help
  | version
  | logLevel
  | output
  | merge
  | rootTypes
  | bundle
deriving DecidableEq, Inhabited

/-! ## Switches -/

/-- The switch that asks for help, known to every command. -/
def helpSwitch : Switch Key := ⟨.help, ["-h", "--help"], .flag⟩

/-- The switches before a command. -/
def topSwitches : List (Switch Key) :=
  [helpSwitch, ⟨.version, ["--version"], .flag⟩, ⟨.logLevel, ["--log-level"], .single⟩]

def normalizeSwitches : List (Switch Key) :=
  [helpSwitch, ⟨.output, ["--output", "-o"], .single⟩, ⟨.merge, ["--merge"], .flag⟩,
   ⟨.rootTypes, ["--root-types"], .several⟩]

def templatesSwitches : List (Switch Key) := [helpSwitch, ⟨.bundle, ["--bundle"], .single⟩]

/-! ## Commands -/

/-- What is known of the words of a command so far. -/
structure Gathered where
  operand : Option (List String)
  values : List (Key × List String)
  strays : Bool

/-- Nothing yet. -/
def Gathered.start : Gathered := ⟨none, [], false⟩

inductive Ending where
  | help
  | version
  | refused
  | gathered (g : Gathered)

/-- Take events in turn; a call for help or for the version ends everything. -/
def gather (g : Gathered) : List (Event Key) → Ending
  | [] => .gathered g
  | .switched .help _ :: _ => .help
  | .switched .version _ :: _ => .version
  | .switched key values :: rest => gather { g with values := g.values ++ [(key, values)] } rest
  | .operand words :: rest => gather { g with operand := some words } rest
  | .stray _ :: rest => gather { g with strays := true } rest
  | .refused :: _ => .refused

/-- The values of a switch the last time it came. -/
def Gathered.valuesOf (g : Gathered) (key : Key) : Option (List String) :=
  ((g.values.filter fun entry => entry.1 = key).getLast?).map Prod.snd

def Gathered.valueOf (g : Gathered) (key : Key) : Option String :=
  (g.valuesOf key).bind List.head?

def endingOf (switches : List (Switch Key)) (greedy : Bool) (words : List String) : Ending :=
  match classify switches words with
  | some words => gather .start (events switches greedy true words)
  | none => .refused

/-- The commands by name, each with its switches. -/
def switchesOf : String → Option (List (Switch Key))
  | "normalize" => some normalizeSwitches
  | "templates" => some templatesSwitches
  | _ => none

def commandOf (settings : Settings) (name operand : String) (g : Gathered) : Option Command :=
  match name with
  | "normalize" =>
    some (.normalize operand ((g.valueOf .output).getD settings.outputDir)
      (g.valuesOf .merge).isSome ((g.valuesOf .rootTypes).getD settings.rootTypeNames))
  | "templates" => some (.templates operand (g.valueOf .bundle))
  | _ => none

namespace Request

/-- The request of a command and the words behind it; a word that nothing takes spoils the line, but
    only at its end. -/
def ofCommand (settings : Settings) (level name : String) (words : List String)
    (strays : Bool) : Request :=
  match switchesOf name with
  | none => .refused
  | some switches =>
    match endingOf switches false words with
    | .help => .help
    | .version => .version
    | .refused => .refused
    | .gathered g =>
      match g.operand with
      | some [operand] =>
        if strays || g.strays then .refused
        else .run level (commandOf settings name operand g)
      | _ => .refused

/-- The request of a command line under given settings. -/
def ofWords (settings : Settings) (words : List String) : Request :=
  match endingOf topSwitches true words with
  | .help => .help
  | .version => .version
  | .refused => .refused
  | .gathered g =>
    let level := (g.valueOf .logLevel).getD settings.logLevel
    match g.operand with
    | some (name :: rest) => ofCommand settings level name rest g.strays
    | _ => if g.strays then .refused else .run level none

end Request

end ResourceGraph.CommandLine
