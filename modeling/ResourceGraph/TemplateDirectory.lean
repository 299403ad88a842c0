import ResourceGraph.MappingTemplate
import ResourceGraph.OrderedMap
import ResourceGraph.Text.UpperCase

/-! # Template directories

A directory holds one file for each resolver and direction, called `type.field.req` or
`type.field.res` with an extension behind.  Its `index` has the files by bare name, in the order
of their full names; `findName` and `findTemplate` look there, and `grouped` puts the files of
each resolver together, in three groups.
-/

namespace ResourceGraph

/-- A directory with the names of its files, and how they are to be understood. -/
structure TemplateDirectory where
  path : String
  files : List String
  roots : List String
  extension : String

/-! ## What a name says -/

inductive TemplateDirection where
  | request
  | response
deriving DecidableEq, Inhabited

/-- The direction by the last part of a name. -/
def TemplateDirection.ofName? (part : String) : Option TemplateDirection :=
  if part = "req" then some request
  else if part = "res" then some response
  else none

structure TemplateFile where
  typeName : String
  fieldName : String
  direction : TemplateDirection
  file : String
deriving DecidableEq

namespace TemplateFile

/-- What the bare name of a file says: type and field in the first two parts, the direction in the
    last of three or more. -/
def ofName? (bare file : String) : Option TemplateFile :=
  match (Text.pieces '.' bare.toList).map String.ofList with
  | typeName :: fieldName :: third :: more =>
    (TemplateDirection.ofName? ((third :: more).getLast (List.cons_ne_nil _ _))).map
      (⟨typeName, fieldName, ·, file⟩)
  | _ => none

/-- The key under which a file is grouped. -/
def key (f : TemplateFile) : String := f.typeName ++ f.fieldName

end TemplateFile

/-! ## Groups -/

structure ResolverTemplates where
  typeName : String
  fieldName : String
  request : Option String
  response : Option String
  table : Option String

inductive TemplateGroup where
  | root
  | http
  | secondaryIndex
deriving DecidableEq, Inhabited

/-- The files of all resolvers, each in its group. -/
structure GroupedTemplates where
  root : OrderedMap String ResolverTemplates
  http : OrderedMap String ResolverTemplates
  secondaryIndex : OrderedMap String ResolverTemplates

/-- Text with its first character in upper case. -/
def capitalize (s : String) : String :=
  match s.toList with
  | [] => ""
  | c :: cs => String.ofList (Text.upperChar c ++ cs)

namespace ResolverTemplates

/-- The entry that a file opens: no direction is filled yet, and only resolvers of secondary indexes
    have a table, called like the field. -/
def opened (group : TemplateGroup) (f : TemplateFile) : ResolverTemplates where
  typeName := f.typeName
  fieldName := f.fieldName
  request := none
  response := none
  table := if group = .secondaryIndex then some (capitalize f.fieldName) else none

def fill (entry : ResolverTemplates) (f : TemplateFile) : ResolverTemplates :=
  match f.direction with
  | .request => { entry with request := some f.file }
  | .response => { entry with response := some f.file }

/-- The report of an entry, given how a file is reported. -/
def toValue (path : String → String) (entry : ResolverTemplates) : Value :=
  .object
    [("type_name", .string entry.typeName),
     ("field_name", .string entry.fieldName),
     ("request_path", Value.ofText? (entry.request.map path)),
     ("response_path", Value.ofText? (entry.response.map path)),
     ("table_name", Value.ofText? entry.table)]

end ResolverTemplates

namespace GroupedTemplates

/-- No files at all. -/
def empty : GroupedTemplates := ⟨.empty, .empty, .empty⟩

def get (groups : GroupedTemplates) : TemplateGroup → OrderedMap String ResolverTemplates
  | .root => groups.root
  | .http => groups.http
  | .secondaryIndex => groups.secondaryIndex

def addTo (group : TemplateGroup) (f : TemplateFile)
    (entries : OrderedMap String ResolverTemplates) : OrderedMap String ResolverTemplates :=
  entries.upsert f.key fun held => (held.getD (.opened group f)).fill f

def add (groups : GroupedTemplates) (group : TemplateGroup) (f : TemplateFile) :
    GroupedTemplates :=
  match group with
  | .root => { groups with root := addTo group f groups.root }
  | .http => { groups with http := addTo group f groups.http }
  | .secondaryIndex => { groups with secondaryIndex := addTo group f groups.secondaryIndex }

/-- The report of the groups, given how a file is reported. -/
def toValue (path : String → String) (groups : GroupedTemplates) : Value :=
  let report (entries : OrderedMap String ResolverTemplates) : Value :=
    .object (entries.entries.map fun entry => (entry.1, entry.2.toValue path))
  .object
    [("root", report groups.root),
     ("http", report groups.http),
     ("secondary_index", report groups.secondaryIndex)]

end GroupedTemplates

/-! ## The directory -/

/-- Why no file is found. -/
inductive TemplateLookupFailure where
  | inlineTemplate
  | noSuchFile (name directory : String)
deriving DecidableEq, Inhabited

def TemplateLookupFailure.message : TemplateLookupFailure → String
  | inlineTemplate => "Inline templates have no file"
  | noSuchFile name directory => "No mapping template '" ++ name ++ "' in " ++ directory

namespace TemplateDirectory

/-- The files in the order of their names. -/
def sortedFiles (d : TemplateDirectory) : List String :=
  d.files.mergeSort fun a b => decide (a ≤ b)

/-- The files by their bare names; of two files with one bare name the later one counts. -/
def index (d : TemplateDirectory) : OrderedMap String String :=
  OrderedMap.ofList (d.sortedFiles.map fun file =>
    (MappingTemplate.bareName d.extension file, file))

def findBare (d : TemplateDirectory) (name : String) : Except TemplateLookupFailure String :=
  match d.index.get? name with
  | some file => .ok file
  | none => .error (.noSuchFile name d.path)

/-- The file of a name, which may carry the extension. -/
def findName (d : TemplateDirectory) (name : String) : Except TemplateLookupFailure String :=
  d.findBare (MappingTemplate.bareName d.extension name)

def findTemplate (d : TemplateDirectory) : MappingTemplate → Except TemplateLookupFailure String
  | .file name => d.findBare name
  | .inline _ => .error .inlineTemplate

/-- The files whose names say what they are for, in order. -/
def templateFiles (d : TemplateDirectory) : List TemplateFile :=
  d.index.entries.filterMap fun entry => TemplateFile.ofName? entry.1 entry.2

/-- The group of a file: by a root type first, then by a known endpoint resolver. -/
def groupOf (d : TemplateDirectory) (endpoints : List (String × String)) (f : TemplateFile) :
    TemplateGroup :=
  if f.typeName ∈ d.roots then .root
  else if (f.typeName, f.fieldName) ∈ endpoints then .http
  else .secondaryIndex

/-- The files of each resolver together, given type and field of the resolvers with endpoints. -/
def grouped (d : TemplateDirectory) (endpoints : List (String × String)) : GroupedTemplates :=
  d.templateFiles.foldl (fun groups f => groups.add (d.groupOf endpoints f) f) .empty

end TemplateDirectory

end ResourceGraph
