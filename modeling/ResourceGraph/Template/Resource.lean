import ResourceGraph.Problem

namespace ResourceGraph

structure Resource where
  kind : String
  properties : List (String × Value)
  dependencies : List String
deriving Inhabited

namespace Resource

/-- The property of that name, null if there is none. -/
def property (r : Resource) (name : String) : Value := Value.member r.properties name

/-! ## Kinds that matter -/

def tableKind : String := "AWS::DynamoDB::Table"

def resolverKind : String := "AWS::AppSync::Resolver"

def functionKind : String := "AWS::AppSync::FunctionConfiguration"

def lambdaKind : String := "AWS::Lambda::Function"

/-! ## Reading a record -/

/-- The member under a name, or under a second name if the first is not there at all. -/
def memberEither (members : List (String × Value)) (name second : String) : Option Value :=
  match OrderedMap.lookup name members with
  | some v => some v
  | none => OrderedMap.lookup second members

def readKind (members : List (String × Value)) : Except (List RecordFlaw) String :=
  match memberEither members "Type" "kind" with
  | some (.string kind) => if kind.isEmpty then .error [.kindEmpty] else .ok kind
  | some _ => .error [.kindNotText]
  | none => .error [.kindMissing]

/-- The properties are an object; null counts as the empty one. -/
def readProperties (members : List (String × Value)) :
    Except (List RecordFlaw) (List (String × Value)) :=
  match memberEither members "Properties" "properties" with
  | some (.object properties) => .ok properties
  | some .null | none => .ok []
  | some _ => .error [.notObject]

def dependencyFlaws (names : List Value) : List RecordFlaw :=
  names.filterMap fun name => if name.text?.isSome then none else some .dependencyNotText

/-- The dependencies are absent, one name, or a list of names; anything else is flawed both as a name
    and as a list. -/
def readDependencies (members : List (String × Value)) :
    Except (List RecordFlaw) (List String) :=
  match memberEither members "DependsOn" "depends_on" with
  | some .null | none => .ok []
  | some (.string name) => .ok [name]
  | some (.array names) =>
    match dependencyFlaws names with
    | [] => .ok (names.filterMap Value.text?)
    | flaws => .error (.dependencyNotText :: flaws)
  | some _ => .error [.dependencyNotText, .dependenciesNotList]

/-- A record out of a value, or all flaws of the value. -/
def read : Value → Except (List RecordFlaw) Resource
  | .object members =>
    match readKind members, readProperties members, readDependencies members with
    | .ok kind, .ok properties, .ok dependencies => .ok ⟨kind, properties, dependencies⟩
    | kind, properties, dependencies =>
      .error (flawsOf kind ++ flawsOf properties ++ flawsOf dependencies)
  | _ => .error [.notRecord]

def flaws (raw : Value) : List RecordFlaw := flawsOf (read raw)

end Resource

/-! ## The resources of a stack -/

/-- The resources of a stack by name, in declared order. -/
abbrev ResourceMap := OrderedMap String Resource

namespace ResourceMap

/-- One named record, or the problem with it. -/
def readEntry (stack : Option String) (entry : String × Value) :
    Except Problem (String × Resource) :=
  match Resource.read entry.2 with
  | .ok resource => .ok (entry.1, resource)
  | .error flaws => .error ⟨.badRecord flaws, stack, some entry.1⟩

/-- Named records in their order, up to the first bad one. -/
def readEntries (stack : Option String) :
    List (String × Value) → Except Problem (List (String × Resource))
  | [] => .ok []
  | entry :: rest =>
    match readEntry stack entry with
    | .error problem => .error problem
    | .ok resource =>
      match readEntries stack rest with
      | .error problem => .error problem
      | .ok resources => .ok (resource :: resources)

def readMembers (stack : Option String) (members : List (String × Value)) :
    Except Problem ResourceMap :=
  match readEntries stack members with
  | .ok entries => .ok (OrderedMap.ofList entries)
  | .error problem => .error problem

/-- The resources that a value declares, which has to be an object. -/
def read (stack : Option String) : Value → Except Problem ResourceMap
  | .object members => readMembers stack members
  | _ => .error ⟨.resourcesNotObject, stack, none⟩

/-- Reading keeps the names. -/
theorem keys_readEntries {stack : Option String} {members : List (String × Value)}
    {entries : List (String × Resource)} (accepted : readEntries stack members = .ok entries) :
    entries.map Prod.fst = members.map Prod.fst := by
  induction members generalizing entries with
  | nil =>
    simp only [readEntries, Except.ok.injEq] at accepted
    simp [← accepted]
  | cons entry rest ih =>
    simp only [readEntries, readEntry] at accepted
    split at accepted
    · simp at accepted
    · rename_i h_entry
      split at h_entry
      · split at accepted
        · simp at accepted
        · rename_i h_rest
          simp only [Except.ok.injEq] at accepted h_entry
          simp [← accepted, ← h_entry, ih h_rest]
      · simp at h_entry

end ResourceMap

end ResourceGraph
