import ResourceGraph.CommandLine.Program

namespace ResourceGraph.CommandLine

/-- The text of a file, if it can be read. -/
def fileText? (path : String) : IO (Option String) := do
  try
    return some (← IO.FS.readFile path)
  catch _ => return none

/-- The variables of the environment that belong to the settings, in both cases. -/
def environment : IO (List (String × String)) := do
  let fields :=
    ["root_type_names", "table_name_suffix", "template_extension", "output_dir", "log_level"]
  let names := fields.flatMap fun field =>
    let name := Settings.variableStart ++ field
    [name, name.toUpper]
  let found ← names.mapM fun name => do
    return (← IO.getEnv name).map (name, ·)
  return found.filterMap id

/-- The files that a request may read, as a tree in which each stands at its own path. -/
def filesFor (settings : Settings) (words : List String) : IO FileTree := do
  let load (path : String) : IO (List (String × String)) := do
    return ((← fileText? path).map (path, ·)).toList
  match Request.ofWords settings words with
  | .run _ (some (.normalize input _ _ _)) => return .ofTexts (← load input) []
  | .run _ (some (.templates directory bundle)) =>
    let bundleFile ← match bundle with
      | some path => load path
      | none => pure []
    let here ← IO.currentDir
    let entries ← try (here / directory).readDir catch _ => pure #[]
    let names ← entries.toList.filterM fun entry => return !(← entry.path.isDir)
    return .ofTexts (bundleFile ++ names.map fun entry => (directory ++ "/" ++ entry.fileName, ""))
      [directory]
  | _ => return .ofTexts [] []

/-- Write the files that a run has left and that were not there before in this form. -/
def store (before after : FileTree) : IO Unit := do
  for (place, text) in after.files.entries do
    if before.files.get? place ≠ some text then
      let folder := Place.text place.dropLast
      unless folder.isEmpty do IO.FS.createDirAll folder
      IO.FS.writeFile (Place.text place) text

def CommandFault.text : CommandFault → String
  | settings flaws =>
    String.intercalate "\n" (flaws.map fun flaw => flaw.location ++ ": " ++ flaw.fault.message)
  | unknownLevel => "Unknown log level"
  | notJson => "The file holds no JSON text"
  | shape _ => "A value has the wrong shape"
  | file _ => "A file cannot be used"

end ResourceGraph.CommandLine

open ResourceGraph.CommandLine in
def main (words : List String) : IO UInt32 := do
  let found ← environment
  let settingsText ← fileText? settingsFile
  let settingsTree := FileTree.ofTexts (settingsText.toList.map (settingsFile, ·)) []
  match settingsFor found settingsTree with
  | .error fault =>
    IO.eprintln fault.text
    return 1
  | .ok settings =>
    let files ← filesFor settings words
    let ended := answer settings files (Request.ofWords settings words)
    store files (filesAfter files ended)
    match ended with
    | .error breakdown =>
      IO.eprintln breakdown.fault.text
      return 1
    | .ok (.usage exit) =>
      IO.print usage
      return exit.toUInt32
    | .ok (.done exit output _) =>
      IO.print output
      return exit.toUInt32
