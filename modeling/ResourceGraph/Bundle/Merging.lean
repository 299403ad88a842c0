import ResourceGraph.Bundle
import ResourceGraph.Logged

/-! # Merging

Bundles merge into one, a later bundle going over an earlier one: entries by name are overridden,
lists by target are joined.  Only tables, models and resolvers of secondary indexes are warned of
when an earlier bundle held the name already.  A list of bundles is merged from the left, starting
with an empty one (`absorbAll_append`).
-/

namespace ResourceGraph

namespace Bundle

/-- Lists by target, those of the second map at the end of those of the first. -/
def joinLists (first second : OrderedMap (Option String) (List Resolver)) :
    OrderedMap (Option String) (List Resolver) :=
  second.entries.foldl
    (fun acc entry => acc.upsert entry.1 fun held => held.getD [] ++ entry.2) first

def absorb (b other : Bundle) : Bundle where
  name := b.name
  tables := b.tables.insertAll other.tables.entries
  models := b.models.insertAll other.models.entries
  functions := joinLists b.functions other.functions
  endpoints := joinLists b.endpoints other.endpoints
  secondary := b.secondary.insertAll other.secondary.entries
  secondaryTables := b.secondaryTables.insertAll other.secondaryTables.entries
  dropped := b.dropped.insertAll other.dropped.entries

/-- The names of one part that both bundles hold. -/
def partWarnings {β : Type} (bundle : String) (part : MergedPart)
    (held incoming : OrderedMap String β) : List Warning :=
  (incoming.keys.filter held.contains).map (.overridden bundle part)

def absorbWarnings (b other : Bundle) : List Warning :=
  partWarnings other.name .table b.tables other.tables
    ++ partWarnings other.name .modelResolver b.models other.models
    ++ partWarnings other.name .secondaryIndexResolver b.secondary other.secondary

/-- A bundle with the contents of several others on top, in order. -/
def absorbAll (b : Bundle) (others : List Bundle) : Bundle := others.foldl absorb b

def absorbAllWarnings (b : Bundle) : List Bundle → List Warning
  | [] => []
  | other :: rest => b.absorbWarnings other ++ absorbAllWarnings (b.absorb other) rest

/-- The name of a merged bundle unless another one is given. -/
def defaultMergedName : String := "merged"

def merge (name : String) (bundles : List Bundle) : Bundle := (empty name).absorbAll bundles

def mergeWarnings (name : String) (bundles : List Bundle) : List Warning :=
  (empty name).absorbAllWarnings bundles

theorem absorbAll_append (b : Bundle) (first second : List Bundle) :
    b.absorbAll (first ++ second) = (b.absorbAll first).absorbAll second :=
  List.foldl_append

end Bundle

end ResourceGraph
