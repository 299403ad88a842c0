import ResourceGraph.Table.KeySchema
import ResourceGraph.Template.Resource

namespace ResourceGraph

/-- The time to live that a value declares, none if it counts as not given. -/
def TimeToLive.read (v : Value) : Except Fault (Option TimeToLive) :=
  if v.isVacant then .ok none
  else match v with
    | .object members =>
      .ok (some ⟨Value.member members "AttributeName",
        !(Value.member members "Enabled").isVacant⟩)
    | _ => .error .lacksOperation

namespace SecondaryIndex

/-- The projection of an index, empty if it counts as not given. -/
def readProjection (members : List (String × Value)) : Value :=
  let projection := Value.member members "Projection"
  if projection.isVacant then .object [] else projection

/-- A local index, which keeps only its sort key. -/
def readLocal (resource : String) (definitions : AttributeDefinitions) (v : Value) :
    Outcome SecondaryIndex :=
  match v with
  | .object members =>
    match KeySchema.readWith (some resource) definitions (Value.member members "KeySchema") with
    | .error failure => .error failure
    | .ok keys =>
      .ok ⟨Value.member members "IndexName", readProjection members, none, keys.sort⟩
  | _ => .error (.fault .lacksOperation)

/-- A global index, which needs a partition key of its own. -/
def readGlobal (resource : String) (definitions : AttributeDefinitions) (v : Value) :
    Outcome SecondaryIndex :=
  match v with
  | .object members =>
    match KeySchema.readWith (some resource) definitions (Value.member members "KeySchema") with
    | .error failure => .error failure
    | .ok ⟨none, _⟩ =>
      KeySchema.problem (some resource)
        (.indexWithoutPartitionKey (Value.member members "IndexName"))
    | .ok ⟨some partition, sort⟩ =>
      .ok ⟨Value.member members "IndexName", readProjection members, some partition, sort⟩
  | _ => .error (.fault .lacksOperation)

/-- Indexes in their order, up to the first bad one. -/
def readEach (read : Value → Outcome SecondaryIndex) :
    List Value → Outcome (List SecondaryIndex)
  | [] => .ok []
  | v :: vs =>
    match read v with
    | .error failure => .error failure
    | .ok index =>
      match readEach read vs with
      | .error failure => .error failure
      | .ok indexes => .ok (index :: indexes)

/-- The indexes that a value declares, none if it counts as not given. -/
def readAll (read : Value → Outcome SecondaryIndex) (v : Value) :
    Outcome (List SecondaryIndex) :=
  match v.itemsIfGiven with
  | .error fault => .error (.fault fault)
  | .ok items => readEach read items

end SecondaryIndex

namespace Table

/-- The table that a resource declares: keys first, then the time to live, local indexes and global
    ones. -/
def ofResource (name suffix : String) (resource : Resource) : Outcome Table :=
  match AttributeDefinitions.read (resource.property "AttributeDefinitions") with
  | .error fault => .error (.fault fault)
  | .ok definitions =>
    match KeySchema.readWith (some name) definitions (resource.property "KeySchema") with
    | .error failure => .error failure
    | .ok ⟨none, _⟩ => KeySchema.problem (some name) .noPartitionKey
    | .ok ⟨some partition, sort⟩ =>
      match TimeToLive.read (resource.property "TimeToLiveSpecification") with
      | .error fault => .error (.fault fault)
      | .ok ttl =>
        match SecondaryIndex.readAll (SecondaryIndex.readLocal name definitions)
            (resource.property "LocalSecondaryIndexes") with
        | .error failure => .error failure
        | .ok localIndexes =>
          match SecondaryIndex.readAll (SecondaryIndex.readGlobal name definitions)
              (resource.property "GlobalSecondaryIndexes") with
          | .error failure => .error failure
          | .ok globalIndexes =>
            .ok ⟨deriveName name suffix, partition, sort, ttl, localIndexes, globalIndexes, [], []⟩

theorem ofResource_eq_ok {name suffix : String} {resource : Resource} {t : Table}
    (built : ofResource name suffix resource = .ok t) :
    t.name = deriveName name suffix ∧ t.resolverNames = [] ∧
      t.secondaryIndexResolverNames = [] := by
  unfold ofResource at built
  split at built
  · cases built
  · split at built
    · cases built
    · cases built
    · split at built
      · cases built
      · split at built
        · cases built
        · split at built
          · cases built
          · cases built
            exact ⟨rfl, rfl, rfl⟩

end Table

end ResourceGraph
