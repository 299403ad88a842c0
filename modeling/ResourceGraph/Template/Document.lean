import ResourceGraph.Template.Resource

/-! # Deployment documents

A document names stacks.  A stack is given bare, as an object of records, or as a template whose
`Resources` section holds them; the names in `sections` mark a template.  Bare records are read up
to the first bad one, while a template is refused with the flaws of all its records together.
-/

namespace ResourceGraph

namespace Document

/-- The sections by any of which a stack is known to be a template. -/
def sections : List String :=
  ["AWSTemplateFormatVersion", "Description", "Metadata", "Parameters", "Mappings", "Conditions",
   "Transform", "Resources", "Outputs"]

/-- Whether the members of a stack make it a template. -/
def isTemplate (members : List (String × Value)) : Bool :=
  sections.any fun name => (OrderedMap.lookup name members).isSome

/-- The records of a template; null counts as none. -/
def templateRecords (members : List (String × Value)) :
    Except (List RecordFlaw) (List (String × Value)) :=
  match Resource.memberEither members "Resources" "resources" with
  | some (.object records) => .ok records
  | some .null | none => .ok []
  | some _ => .error [.notObject]

/-- The flaws of several records, one after the other. -/
def recordFlaws (records : List (String × Value)) : List RecordFlaw :=
  records.flatMap fun entry => Resource.flaws entry.2

/-- The records that can be read, in their order. -/
def readableRecords (records : List (String × Value)) : List (String × Resource) :=
  records.filterMap fun entry => (Resource.read entry.2).toOption.map (entry.1, ·)

/-- The resources of a template, or all flaws of all its records. -/
def readTemplate (members : List (String × Value)) : Except (List RecordFlaw) ResourceMap :=
  match templateRecords members with
  | .error flaws => .error flaws
  | .ok records =>
    match recordFlaws records with
    | [] => .ok (OrderedMap.ofList (readableRecords records))
    | flaws => .error flaws

/-- The resources of one stack, in any of the accepted shapes. -/
def readStack (stack : String) (body : Value) : Except Problem ResourceMap :=
  match body with
  | .object members =>
    if isTemplate members then
      match readTemplate members with
      | .ok resources => .ok resources
      | .error flaws => .error ⟨.badTemplate flaws, some stack, none⟩
    else ResourceMap.readMembers (some stack) members
  | _ => .error ⟨.resourcesNotObject, some stack, none⟩

/-- Named stacks in their order, up to the first bad one. -/
def readStacks : List (String × Value) → Except Problem (List (String × ResourceMap))
  | [] => .ok []
  | (stack, body) :: rest =>
    match readStack stack body with
    | .error problem => .error problem
    | .ok resources =>
      match readStacks rest with
      | .error problem => .error problem
      | .ok loaded => .ok ((stack, resources) :: loaded)

/-- The stacks of an object: those under the name `stacks` if there is one, else its members. -/
def loadMembers (members : List (String × Value)) :
    Except Problem (List (String × ResourceMap)) :=
  match OrderedMap.lookup "stacks" members with
  | some (.object bodies) => readStacks bodies
  | some _ => .error ⟨.stacksNotObject, none, none⟩
  | none => readStacks members

def load : Value → Except Problem (List (String × ResourceMap))
  | .object members => loadMembers members
  | _ => .error ⟨.documentNotObject, none, none⟩

end Document

end ResourceGraph
