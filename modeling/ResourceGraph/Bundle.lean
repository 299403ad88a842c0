import ResourceGraph.Resolver
import ResourceGraph.Table

/-! # Bundles

Everything that is known of one stack, or of several stacks merged: its tables, and its resolvers
in buckets.  Resolvers of models, of secondary indexes and the dropped ones stand under keys;
those of endpoints and functions stand in lists by target, in order of arrival.  `resolvers` goes
through all of them but the dropped ones, and `summary` counts them.
-/

namespace ResourceGraph

/-- The tables and resolvers of a stack.  Resolvers of endpoints and of functions are kept in lists,
    one for each target; a target is absent only in hand-made bindings. -/
structure Bundle where
  name : String
  tables : OrderedMap String Table
  models : OrderedMap String Resolver
  functions : OrderedMap (Option String) (List Resolver)
  endpoints : OrderedMap (Option String) (List Resolver)
  secondary : OrderedMap String Resolver
  secondaryTables : OrderedMap String (Option String)
  dropped : OrderedMap String Resolver

namespace Bundle

/-- The bundle of a stack without resources. -/
def empty (name : String) : Bundle :=
  ⟨name, .empty, .empty, .empty, .empty, .empty, .empty, .empty⟩

/-! ## Contents -/

/-- All resolvers in lists by target, one list after the other. -/
def listed (lists : OrderedMap (Option String) (List Resolver)) : List Resolver :=
  lists.values.flatten

/-- All resolvers but the dropped ones, bucket by bucket. -/
def resolvers (b : Bundle) : List Resolver :=
  b.models.values ++ listed b.endpoints ++ listed b.functions ++ b.secondary.values

structure Summary where
  tables : Nat
  models : Nat
  functions : Nat
  endpoints : Nat
  secondary : Nat
  dropped : Nat
deriving DecidableEq, Inhabited

/-- The summary of a bundle; lists count by their members. -/
def summary (b : Bundle) : Summary where
  tables := b.tables.size
  models := b.models.size
  functions := (listed b.functions).length
  endpoints := (listed b.endpoints).length
  secondary := b.secondary.size
  dropped := b.dropped.size

/-! ## Reports -/

def Summary.toValue (s : Summary) : Value :=
  .object
    [("tables", .integer s.tables),
     ("model_resolvers", .integer s.models),
     ("function_resolvers", .integer s.functions),
     ("http_resolvers", .integer s.endpoints),
     ("secondary_index_resolvers", .integer s.secondary),
     ("dropped_resolvers", .integer s.dropped)]

/-- The name under which an optional target is reported. -/
def targetName (target : Option String) : String := target.getD "null"

def mapToValue {β : Type} (report : β → Value) (m : OrderedMap String β) : Value :=
  .object (m.entries.map fun entry => (entry.1, report entry.2))

def listsToValue (lists : OrderedMap (Option String) (List Resolver)) : Value :=
  .object (lists.entries.map fun entry =>
    (targetName entry.1, .array (entry.2.map Resolver.toValue)))

def toMembers (b : Bundle) : List (String × Value) :=
  [("name", .string b.name),
   ("tables", mapToValue Table.toValue b.tables),
   ("model_resolvers", mapToValue Resolver.toValue b.models),
   ("function_resolvers", listsToValue b.functions),
   ("http_resolvers", listsToValue b.endpoints),
   ("secondary_index_resolvers", mapToValue Resolver.toValue b.secondary),
   ("secondary_index_resolver_tables", mapToValue Value.ofText? b.secondaryTables),
   ("dropped_resolvers", mapToValue Resolver.toValue b.dropped)]

def toValue (b : Bundle) : Value := .object b.toMembers

end Bundle

end ResourceGraph
