import ResourceGraph.Problem
import ResourceGraph.Table

/-! # Key schemas

A key schema names attributes, whose types stand in separate definitions, and gives each a role.
On both sides the later one counts, the last definition of an attribute and the last key of a
role, so a schema of many entries still declares one partition key and one sort key at most.
-/

namespace ResourceGraph

inductive KeyRole where
  | partition
  | sort
deriving DecidableEq, Inhabited

def KeyRole.ofName? (name : String) : Option KeyRole :=
  if name = "HASH" then some partition
  else if name = "RANGE" then some sort
  else none

/-- Definitions by attribute name. -/
abbrev AttributeDefinitions := OrderedMap Scalar (List (String × Value))

namespace AttributeDefinitions

def readEntry : Value → Except Fault (Scalar × List (String × Value))
  | .object members =>
    match (Value.member members "AttributeName").scalar? with
    | .ok name => .ok (name, members)
    | .error fault => .error fault
  | _ => .error .lacksOperation

/-- Definitions in their order, up to the first one of a wrong shape. -/
def readEntries : List Value → Except Fault (List (Scalar × List (String × Value)))
  | [] => .ok []
  | v :: vs =>
    match readEntry v with
    | .error fault => .error fault
    | .ok entry =>
      match readEntries vs with
      | .error fault => .error fault
      | .ok entries => .ok (entry :: entries)

/-- The definitions that a value holds; a value that counts as not given holds none. -/
def read (v : Value) : Except Fault AttributeDefinitions :=
  match v.itemsIfGiven with
  | .error fault => .error fault
  | .ok items =>
    match readEntries items with
    | .error fault => .error fault
    | .ok entries => .ok (OrderedMap.ofList entries)

end AttributeDefinitions

namespace KeySchema

/-- A problem of a key schema, at a resource. -/
def problem {α : Type} (resource : Option String) (cause : Cause) : Outcome α :=
  .error (.problem ⟨cause, none, resource⟩)

/-- The type in a definition. -/
def readType (resource : Option String) (definition : List (String × Value)) :
    Outcome AttributeType :=
  let type := Value.member definition "AttributeType"
  match type.text?.bind AttributeType.ofLetter? with
  | some type => .ok type
  | none =>
    problem resource (.unsupportedAttributeType type (Value.member definition "AttributeName"))

def readRole (resource : Option String) (name : Value) (entry : List (String × Value)) :
    Outcome KeyRole :=
  let role := Value.member entry "KeyType"
  match role.text?.bind KeyRole.ofName? with
  | some role => .ok role
  | none => problem resource (.unknownKeyRole name role)

/-- The key of a schema entry with its role: the name is looked up first, then the type is read, then
    the role. -/
def readEntry (resource : Option String) (definitions : AttributeDefinitions) (entry : Value) :
    Outcome (KeyRole × TableKey) :=
  match entry with
  | .object members =>
    let name := Value.member members "AttributeName"
    match name.scalar? with
    | .error fault => .error (.fault fault)
    | .ok scalar =>
      match definitions.get? scalar with
      | none => problem resource (.undefinedKeyAttribute name)
      | some definition =>
        match readType resource definition with
        | .error failure => .error failure
        | .ok type =>
          match readRole resource name members with
          | .error failure => .error failure
          | .ok role => .ok (role, ⟨name, type⟩)
  | _ => .error (.fault .lacksOperation)

/-- The keys of schema entries in their order, up to the first bad one. -/
def readEntries (resource : Option String) (definitions : AttributeDefinitions) :
    List Value → Outcome (List (KeyRole × TableKey))
  | [] => .ok []
  | entry :: rest =>
    match readEntry resource definitions entry with
    | .error failure => .error failure
    | .ok key =>
      match readEntries resource definitions rest with
      | .error failure => .error failure
      | .ok keys => .ok (key :: keys)

/-- The last key of a role. -/
def lastOfRole (role : KeyRole) (keys : List (KeyRole × TableKey)) : Option TableKey :=
  ((keys.filter fun key => key.1 = role).map Prod.snd).getLast?

def ofKeys (keys : List (KeyRole × TableKey)) : KeySchema :=
  ⟨lastOfRole .partition keys, lastOfRole .sort keys⟩

def readWith (resource : Option String) (definitions : AttributeDefinitions) (schema : Value) :
    Outcome KeySchema :=
  match schema.itemsIfGiven with
  | .error fault => .error (.fault fault)
  | .ok entries =>
    match readEntries resource definitions entries with
    | .error failure => .error failure
    | .ok keys => .ok (ofKeys keys)

/-- The schema that a value declares, with the definitions in another value. -/
def read (resource : Option String) (schema definitions : Value) : Outcome KeySchema :=
  match AttributeDefinitions.read definitions with
  | .error fault => .error (.fault fault)
  | .ok definitions => readWith resource definitions schema

end KeySchema

end ResourceGraph
