import ResourceGraph.Bundle

namespace ResourceGraph

namespace Bundle

/-- The fields, in order, whose model resolver has a stage bound to a table. -/
def modelNames (b : Bundle) (table : String) : List String :=
  b.models.entries.filterMap fun entry =>
    if table ∈ entry.2.tableNames then some entry.1 else none

def secondaryNames (b : Bundle) (table : String) : List String :=
  b.secondaryTables.entries.filterMap fun entry =>
    if entry.2 = some table then some entry.1 else none

def linkTable (b : Bundle) (name : String) (table : Table) : Table :=
  { table with
    resolverNames := table.resolverNames ++ b.modelNames name
    secondaryIndexResolverNames := table.secondaryIndexResolverNames ++ b.secondaryNames name }

/-- The bundle in which every table lists its resolvers, behind what it lists already. -/
def link (b : Bundle) : Bundle := { b with tables := b.tables.mapValues b.linkTable }

/-- Linking keeps the names of the tables and their order. -/
theorem keys_tables_link (b : Bundle) : b.link.tables.keys = b.tables.keys :=
  OrderedMap.keys_mapValues _ _

/-- A table after linking. -/
theorem get?_tables_link (b : Bundle) (name : String) :
    b.link.tables.get? name = (b.tables.get? name).map (b.linkTable name) :=
  OrderedMap.get?_mapValues _ _ _

end Bundle

end ResourceGraph
