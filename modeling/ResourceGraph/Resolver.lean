import ResourceGraph.DataSource

/-! # Resolvers

A resolver answers one field of one type by a pipeline of stages, and its bucket depends on what
the stages talk to and on whether the type is a root.  `bucket_spec` reads a bucket back as a
statement about bindings.  Where a kind is used there is a first binding of that kind, by which
the resolver is listed.
-/

namespace ResourceGraph

structure Stage where
  name : Value
  binding : Binding
  request : MappingTemplate
  response : MappingTemplate

/-- A resolver with its stages in order. -/
structure Resolver where
  typeName : String
  fieldName : String
  stages : List Stage
  request : Option MappingTemplate
  response : Option MappingTemplate

def Stage.toValue (stage : Stage) : Value :=
  .object
    [("name", stage.name),
     ("data_source", stage.binding.toValue),
     ("request_template", stage.request.toValue),
     ("response_template", stage.response.toValue)]

namespace Resolver

def toValue (r : Resolver) : Value :=
  .object
    [("type_name", .string r.typeName),
     ("field_name", .string r.fieldName),
     ("stages", .array (r.stages.map Stage.toValue)),
     ("request_template", (r.request.map MappingTemplate.toValue).getD .null),
     ("response_template", (r.response.map MappingTemplate.toValue).getD .null)]

/-- The key of a resolver that does not belong to a root type. -/
def key (r : Resolver) : String := r.typeName ++ r.fieldName

/-- The type and the field with a dot between them. -/
def path (r : Resolver) : String := r.typeName ++ "." ++ r.fieldName

/-- The bindings of one kind in the order of the stages. -/
def bindings (r : Resolver) (kind : DataSourceKind) : List Binding :=
  (r.stages.map Stage.binding).filter fun b => b.kind = kind

/-- The tables that have a name, one for each stage bound to them. -/
def tableNames (r : Resolver) : List String :=
  ((r.bindings .dynamodb).filterMap Binding.table?).filter fun name => !name.isEmpty

/-- The table of the first stage bound to one. -/
def firstTable? (r : Resolver) : Option String :=
  (r.bindings .dynamodb).head?.bind Binding.table?

/-- The endpoint of the first stage bound to one. -/
def firstEndpoint? (r : Resolver) : Option String :=
  (r.bindings .http).head?.bind Binding.endpoint?

/-- The function of the first stage bound to one. -/
def firstFunction? (r : Resolver) : Option String :=
  (r.bindings .lambda).head?.bind Binding.function?

end Resolver

/-! ## Buckets -/

/-- Where a resolver belongs. -/
inductive Bucket where
  | model
  | secondaryIndex
  | http
  | function
  | dropped
deriving DecidableEq, Inhabited

namespace Bucket

/-- All buckets in order of declaration. -/
def all : List Bucket := [model, secondaryIndex, http, function, dropped]

def name : Bucket → String
  | model => "model"
  | secondaryIndex => "secondary_index"
  | http => "http"
  | function => "function"
  | dropped => "dropped"

end Bucket

/-- The root types unless others are given. -/
def defaultRoots : List String := ["Query", "Mutation", "Subscription"]

def Resolver.uses (r : Resolver) (kind : DataSourceKind) : Bool :=
  r.stages.any fun stage => stage.binding.kind = kind

/-- The bucket of a resolver: a table goes before an endpoint, an endpoint before a function,
    whatever the order of the stages. -/
def Resolver.bucket (r : Resolver) (roots : List String) : Bucket :=
  if r.uses .dynamodb then if r.typeName ∈ roots then .model else .secondaryIndex
  else if r.uses .http then .http
  else if r.uses .lambda then .function
  else .dropped

namespace Resolver

theorem bindings_eq_nil_iff {r : Resolver} {kind : DataSourceKind} :
    r.bindings kind = [] ↔ r.uses kind = false := by
  simp [bindings, uses]

theorem bucket_spec (r : Resolver) (roots : List String) :
    match r.bucket roots with
    | .model => r.uses .dynamodb = true ∧ r.typeName ∈ roots
    | .secondaryIndex => r.uses .dynamodb = true ∧ r.typeName ∉ roots
    | .http => r.uses .dynamodb = false ∧ r.uses .http = true
    | .function => r.uses .dynamodb = false ∧ r.uses .http = false ∧ r.uses .lambda = true
    | .dropped => r.uses .dynamodb = false ∧ r.uses .http = false ∧ r.uses .lambda = false := by
  unfold bucket
  cases h_table : r.uses .dynamodb with
  | true => by_cases h_root : r.typeName ∈ roots <;> simp [h_root]
  | false => cases h_http : r.uses .http <;> cases h_lambda : r.uses .lambda <;> simp

/-! ## First bindings -/

/-- A kind that is used has a first binding, which is of that kind. -/
theorem exists_bindings_eq_cons {r : Resolver} {kind : DataSourceKind}
    (h_uses : r.uses kind = true) : ∃ b more, r.bindings kind = b :: more ∧ b.kind = kind := by
  cases h_bindings : r.bindings kind with
  | nil =>
    rw [bindings_eq_nil_iff] at h_bindings
    rw [h_bindings] at h_uses
    cases h_uses
  | cons b more =>
    have h_member : b ∈ r.bindings kind := by
      rw [h_bindings]
      exact List.mem_cons_self
    exact ⟨b, more, rfl, of_decide_eq_true (List.mem_filter.1 h_member).2⟩

theorem bindings_dynamodb {r : Resolver} (h_uses : r.uses .dynamodb = true) :
    ∃ more, r.bindings .dynamodb = .dynamodb r.firstTable? :: more := by
  obtain ⟨b, more, h_bindings, h_kind⟩ := exists_bindings_eq_cons h_uses
  cases b <;> cases h_kind
  exact ⟨more, by simp [firstTable?, h_bindings, Binding.table?]⟩

theorem bindings_http {r : Resolver} (h_uses : r.uses .http = true) :
    ∃ more, r.bindings .http = .http r.firstEndpoint? :: more := by
  obtain ⟨b, more, h_bindings, h_kind⟩ := exists_bindings_eq_cons h_uses
  cases b <;> cases h_kind
  exact ⟨more, by simp [firstEndpoint?, h_bindings, Binding.endpoint?]⟩

theorem bindings_lambda {r : Resolver} (h_uses : r.uses .lambda = true) :
    ∃ more, r.bindings .lambda = .lambda r.firstFunction? :: more := by
  obtain ⟨b, more, h_bindings, h_kind⟩ := exists_bindings_eq_cons h_uses
  cases b <;> cases h_kind
  exact ⟨more, by simp [firstFunction?, h_bindings, Binding.function?]⟩

end Resolver

end ResourceGraph
