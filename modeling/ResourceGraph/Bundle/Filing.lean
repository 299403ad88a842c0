import ResourceGraph.Bundle
import ResourceGraph.Logged

/-! # Filing

A bundle grows by one table or one resolver at a time.  What is to be said about an entry that
takes the place of another is a function of its own, `tableWarnings` or `resolverWarnings`, of the
bundle as it was before.
-/

namespace ResourceGraph

namespace Bundle

/-! ## Tables -/

/-- A bundle with a table under its name; an earlier table of that name gives way. -/
def addTable (b : Bundle) (table : Table) : Bundle :=
  { b with tables := b.tables.insert table.name table }

/-- A stack that declares a table again is warned of it. -/
def tableWarnings (b : Bundle) (stack : String) (table : Table) : List Warning :=
  if b.tables.contains table.name then [.tableTwice stack table.name] else []

/-! ## Resolvers -/

def addToList (lists : OrderedMap (Option String) (List Resolver)) (target : Option String)
    (r : Resolver) : OrderedMap (Option String) (List Resolver) :=
  lists.upsert target fun held => held.getD [] ++ [r]

def put (b : Bundle) (r : Resolver) : Bucket → Bundle
  | .model => { b with models := b.models.insert r.fieldName r }
  | .secondaryIndex =>
    { b with
      secondary := b.secondary.insert r.key r
      secondaryTables := b.secondaryTables.insert r.key r.firstTable? }
  | .http => { b with endpoints := addToList b.endpoints r.firstEndpoint? r }
  | .function => { b with functions := addToList b.functions r.firstFunction? r }
  | .dropped => { b with dropped := b.dropped.insert r.key r }

def addResolver (b : Bundle) (roots : List String) (r : Resolver) : Bundle :=
  b.put r (r.bucket roots)

/-- A bundle that has a model resolver for the field already is warned of a second one. -/
def resolverWarnings (b : Bundle) (roots : List String) (r : Resolver) : List Warning :=
  if r.bucket roots = .model ∧ b.models.contains r.fieldName = true
  then [.modelTwice b.name r.fieldName] else []

/-- Filing a resolver does not rename the bundle. -/
theorem name_addResolver (b : Bundle) (roots : List String) (r : Resolver) :
    (b.addResolver roots r).name = b.name := by
  unfold addResolver put
  split <;> rfl

end Bundle

end ResourceGraph
