import ResourceGraph.Text.Cut
import ResourceGraph.Value

/-! # Tables

A table with its keys, its indexes and the resolvers that work on it.  A table is kept under a
canonical name: `Table.deriveName` takes the resource name up to the first occurrence of the
suffix, or all of it, and puts the suffix behind.
-/

namespace ResourceGraph

inductive AttributeType where
  | text
  | number
  | binary
deriving DecidableEq, Inhabited

namespace AttributeType

/-- All types in order of declaration. -/
def all : List AttributeType := [text, number, binary]

/-- The letter for a type. -/
def letter : AttributeType → String
  | text => "S"
  | number => "N"
  | binary => "B"

def ofLetter? (letter : String) : Option AttributeType := all.find? fun type => type.letter = letter

theorem ofLetter?_letter (type : AttributeType) : ofLetter? type.letter = some type := by
  cases type <;> decide

end AttributeType

structure TableKey where
  name : Value
  type : AttributeType

structure KeySchema where
  partition : Option TableKey
  sort : Option TableKey

structure TimeToLive where
  attributeName : Value
  enabled : Bool

/-- A further index; a local one shares the partition key of its table and has none of its own. -/
structure SecondaryIndex where
  name : Value
  projection : Value
  partitionKey : Option TableKey
  sortKey : Option TableKey

structure Table where
  name : String
  partitionKey : TableKey
  sortKey : Option TableKey
  timeToLive : Option TimeToLive
  localIndexes : List SecondaryIndex
  globalIndexes : List SecondaryIndex
  resolverNames : List String
  secondaryIndexResolverNames : List String

/-! ## Reports -/

def TableKey.toValue (key : TableKey) : Value :=
  .object [("name", key.name), ("type", .string key.type.letter)]

/-- The report of a key that may be absent. -/
def TableKey.optionToValue : Option TableKey → Value
  | some key => key.toValue
  | none => .null

def TimeToLive.toValue (ttl : TimeToLive) : Value :=
  .object [("attribute_name", ttl.attributeName), ("enabled", .bool ttl.enabled)]

def SecondaryIndex.toValue (index : SecondaryIndex) : Value :=
  .object
    [("index_name", index.name),
     ("projection", index.projection),
     ("partition_key", TableKey.optionToValue index.partitionKey),
     ("sort_key", TableKey.optionToValue index.sortKey)]

def Table.toValue (table : Table) : Value :=
  .object
    [("name", .string table.name),
     ("partition_key", table.partitionKey.toValue),
     ("sort_key", TableKey.optionToValue table.sortKey),
     ("ttl", (table.timeToLive.map TimeToLive.toValue).getD .null),
     ("local_indexes", .array (table.localIndexes.map SecondaryIndex.toValue)),
     ("global_indexes", .array (table.globalIndexes.map SecondaryIndex.toValue)),
     ("resolver_names", .array (table.resolverNames.map .string)),
     ("secondary_index_resolver_names", .array (table.secondaryIndexResolverNames.map .string))]

/-! ## Names -/

def Table.defaultSuffix : String := "Table"

/-- The canonical name of a table: what stands before the first occurrence of the suffix, and the
    suffix. -/
def Table.deriveName (identifier suffix : String) : String :=
  match Text.before? suffix.toList identifier.toList with
  | some base => String.ofList base ++ suffix
  | none => identifier ++ suffix

end ResourceGraph
