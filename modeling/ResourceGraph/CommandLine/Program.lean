import ResourceGraph.Bundle.Merging
import ResourceGraph.CommandLine.FileTree
import ResourceGraph.CommandLine.Request
import ResourceGraph.TemplateDirectory
import ResourceGraph.Value.Reader
import ResourceGraph.Value.Writer

/-! # The program

What a command line does to a tree of files, and what it says.

* `perform` — the settings are read first, then the command line, the level of logging is looked
  at, and at last the command is carried out.
* `bundleFiles` — the files of a normalization; they are known before the first one is written.
* `Reply` — an exit status with what is printed and the files afterwards, or the usage.
* `CommandFault` — how a command breaks off without a report; `Breakdown` adds the files that are
  left then.
* `run`, `filesAfter` — what is answered, and the files in the end.
-/

namespace ResourceGraph.CommandLine

/-- How a command breaks off without a report. -/
inductive CommandFault where
  | settings (flaws : List SettingFlaw)
  | unknownLevel
  | notJson
  | shape (fault : Fault)
  | file (fault : FileFault)

/-- A fault and the files that are left. -/
structure Breakdown where
  fault : CommandFault
  files : FileTree

inductive Reply where
  /-- The usage is shown, asked for or not. -/
  | usage (exit : Nat)
  | done (exit : Nat) (output : String) (files : FileTree)

def programName : String := "schemahound"

def version : String := "0.1.0"

def usage : String :=
  "usage: " ++ programName ++ " [-h] [--version] [--log-level LEVEL] COMMAND\n\n"
    ++ "commands:\n"
    ++ "  normalize INPUT [-o DIR] [--merge] [--root-types TYPE ...]\n"
    ++ "  templates DIRECTORY [--bundle FILE]\n"

def printed (v : Value) : String := v.indented ++ "\n"

def readJson (files : FileTree) (path : String) : Except CommandFault Value :=
  match files.read (.ofText path) with
  | .error fault => .error (.file fault)
  | .ok text =>
    match Value.parse? text with
    | some v => .ok v
    | none => .error .notJson

/-! ## Normalizing -/

/-- The name of the bundle into which all stacks are merged. -/
def mergedName : String := "bundle"

def bundlePath (output name : String) : Path :=
  (Path.ofText output).append (.ofText (name ++ ".json"))

def writtenBundles (merge : Bool) (bundles : List (String × Bundle)) :
    List (String × Bundle) :=
  if merge then [(mergedName, Bundle.merge mergedName (bundles.map Prod.snd))] else bundles

/-- The files of a normalization, each with its text. -/
def bundleFiles (output : String) (bundles : List (String × Bundle)) : List (Path × String) :=
  bundles.map fun entry => (bundlePath output entry.1, entry.2.toValue.indented)

/-- The summary that is printed: where each bundle went, and what each stack holds. -/
def normalizeSummary (output : String) (merge : Bool) (bundles : List (String × Bundle)) : Value :=
  .object
    [("bundles", .object ((writtenBundles merge bundles).map fun entry =>
       (entry.1, .string (bundlePath output entry.1).text))),
     ("stacks", .object (bundles.map fun entry => (entry.1, entry.2.summary.toValue)))]

/-- Files written one after the other, up to the first fault. -/
def writeAll (files : FileTree) :
    List (Path × String) → Except FileTree.Interruption FileTree
  | [] => .ok files
  | (path, text) :: rest =>
    match files.write path text with
    | .error interruption => .error interruption
    | .ok written => writeAll written rest

/-- Nothing is written before all stacks are known to be fine. -/
def normalizeDocument (options : Options) (output : String) (merge : Bool) (files : FileTree)
    (document : Value) : Except Breakdown Reply :=
  match (Bundle.ofDocument options document).outcome with
  | .error (.fault fault) => .error ⟨.shape fault, files⟩
  | .error (.problem problem) => .ok (.done 1 (printed problem.toValue) files)
  | .ok bundles =>
    match writeAll files (bundleFiles output (writtenBundles merge bundles)) with
    | .error interruption => .error ⟨.file interruption.fault, interruption.left⟩
    | .ok written => .ok (.done 0 (printed (normalizeSummary output merge bundles)) written)

/-! ## Grouping template files -/

def requiredMember (record : Value) (name : String) : Except Fault Value :=
  match record with
  | .object members =>
    match OrderedMap.lookup name members with
    | some v => .ok v
    | none => .error .missingMember
  | _ => .error .wrongType

def endpointOf (record : Value) : Except Fault (Value × Value) := do
  let typeName ← requiredMember record "type_name"
  let fieldName ← requiredMember record "field_name"
  return (typeName, fieldName)

def endpointsOf (bundle : Value) : Except Fault (List (Value × Value)) := do
  let lists ← bundle.field "http_resolvers"
  if lists.isVacant then return []
  match lists with
  | .object members =>
    let records ← members.mapM fun entry => do
      (← entry.2.items).mapM endpointOf
    return records.flatten
  | _ => .error .lacksOperation

/-- A type and a field, if both are text; both have to be fit for keys. -/
def textEndpoint (endpoint : Value × Value) : Except Fault (Option (String × String)) := do
  let typeName ← endpoint.1.scalar?
  let fieldName ← endpoint.2.scalar?
  match typeName, fieldName with
  | .text typeName, .text fieldName => return some (typeName, fieldName)
  | _, _ => return none

/-- The types and fields that are text; no other can be looked for. -/
def textEndpoints (endpoints : List (Value × Value)) : Except Fault (List (String × String)) :=
  (·.filterMap id) <$> endpoints.mapM textEndpoint

/-- The resolvers with endpoints, out of the bundle in a file if there is one. -/
def readEndpoints (files : FileTree) (bundle : Option String) :
    Except CommandFault (List (String × String)) :=
  match bundle.bind MappingTemplate.nonempty? with
  | none => .ok []
  | some path =>
    match readJson files path with
    | .error fault => .error fault
    | .ok v =>
      match (do textEndpoints (← endpointsOf v)) with
      | .error fault => .error (.shape fault)
      | .ok endpoints => .ok endpoints

def templateDirectory (settings : Settings) (files : FileTree) (path : String) :
    TemplateDirectory where
  path := (Path.ofText path).text
  files := files.filesIn (.ofText path)
  roots := settings.rootTypeNames
  extension := settings.templateExtension

/-- The report of the template files at a path, each by its own path. -/
def templatesReport (settings : Settings) (files : FileTree) (path : String)
    (endpoints : List (String × String)) : Value :=
  ((templateDirectory settings files path).grouped endpoints).toValue fun file =>
    ((Path.ofText path).append (.ofText file)).text

/-! ## Running -/

def execute (settings : Settings) (files : FileTree) : Command → Except Breakdown Reply
  | .normalize input output merge roots =>
    match readJson files input with
    | .error fault => .error ⟨fault, files⟩
    | .ok document =>
      normalizeDocument { settings.options with roots := roots } output merge files document
  | .templates directory bundle =>
    match readEndpoints files bundle with
    | .error fault => .error ⟨fault, files⟩
    | .ok endpoints =>
      .ok (.done 0 (printed (templatesReport settings files directory endpoints)) files)

def logLevels : List String :=
  ["CRITICAL", "FATAL", "ERROR", "WARN", "WARNING", "INFO", "DEBUG", "NOTSET"]

/-- What a request is answered.  The level is looked at before the command, even where there is
    none. -/
def answer (settings : Settings) (files : FileTree) : Request → Except Breakdown Reply
  | .help => .ok (.usage 0)
  | .refused => .ok (.usage 2)
  | .version => .ok (.done 0 (programName ++ " " ++ version ++ "\n") files)
  | .run level command =>
    if Settings.upperCase level ∈ logLevels then
      match command with
      | some command => execute settings files command
      | none => .ok (.usage 0)
    else .error ⟨.unknownLevel, files⟩

def settingsFile : String := ".env"

/-- The settings under which a command line is read. -/
def settingsFor (environment : List (String × String)) (files : FileTree) :
    Except CommandFault Settings :=
  let file := match files.read (.ofText settingsFile) with
    | .ok text => text
    | .error _ => ""
  match Settings.read ⟨[], environment, file⟩ with
  | .ok settings => .ok settings
  | .error flaws => .error (.settings flaws)

def perform (environment : List (String × String)) (files : FileTree) (words : List String) :
    Except Breakdown Reply :=
  match settingsFor environment files with
  | .error fault => .error ⟨fault, files⟩
  | .ok settings => answer settings files (Request.ofWords settings words)

/-- What a command line is answered. -/
def run (environment : List (String × String)) (files : FileTree) (words : List String) :
    Except CommandFault Reply :=
  match perform environment files words with
  | .error breakdown => .error breakdown.fault
  | .ok reply => .ok reply

/-- The files after a command, however it ended. -/
def filesAfter (files : FileTree) : Except Breakdown Reply → FileTree
  | .ok (.usage _) => files
  | .ok (.done _ _ after) => after
  | .error breakdown => breakdown.files

end ResourceGraph.CommandLine
