import ResourceGraph.MappingTemplate
import ResourceGraph.Reference

/-! # Data sources

A pipeline function talks to a table, a function, an endpoint or nothing at all, by way of the
data source that it names.  `Binding.ofFunction` reads this off the resources of a stack: a source
that is not there binds to nothing, while one of a foreign type, or without a target, is a
problem.
-/

namespace ResourceGraph

inductive DataSourceKind where
  | dynamodb
  | lambda
  | http
  | none
deriving DecidableEq, Inhabited

namespace DataSourceKind

/-- All kinds in order of declaration. -/
def all : List DataSourceKind := [dynamodb, lambda, http, none]

def name : DataSourceKind → String
  | dynamodb => "AMAZON_DYNAMODB"
  | lambda => "AWS_LAMBDA"
  | http => "HTTP"
  | none => "NONE"

def ofName? (name : String) : Option DataSourceKind := all.find? fun kind => kind.name = name

theorem ofName?_name (kind : DataSourceKind) : ofName? kind.name = some kind := by
  cases kind <;> decide

theorem ofName?_eq_some_iff {name : String} {kind : DataSourceKind} :
    ofName? name = some kind ↔ name = kind.name := by
  constructor
  · intro found
    have h_name := List.find?_some (p := fun kind : DataSourceKind => kind.name = name) found
    exact (of_decide_eq_true h_name).symm
  · rintro rfl
    exact ofName?_name kind

end DataSourceKind

/-- What a pipeline function is bound to: a table, a lambda function, an endpoint or nothing. -/
inductive Binding where
  | dynamodb (table : Option String)
  | lambda (function : Option String)
  | http (endpoint : Option String)
  | none
deriving DecidableEq, Inhabited

namespace Binding

def kind : Binding → DataSourceKind
  | dynamodb _ => .dynamodb
  | lambda _ => .lambda
  | http _ => .http
  | none => .none

def ofKind : DataSourceKind → Option String → Binding
  | .dynamodb, target => dynamodb target
  | .lambda, target => lambda target
  | .http, target => http target
  | .none, _ => none

def table? : Binding → Option String
  | dynamodb table => table
  | _ => .none

def function? : Binding → Option String
  | lambda function => function
  | _ => .none

def endpoint? : Binding → Option String
  | http endpoint => endpoint
  | _ => .none

def target? : Binding → Option String
  | dynamodb table => table
  | lambda function => function
  | http endpoint => endpoint
  | none => .none

def toValue (b : Binding) : Value :=
  .object (("kind", .string b.kind.name) :: match b with
    | dynamodb table => [("table_name", Value.ofText? table)]
    | lambda function => [("function_name", Value.ofText? function)]
    | http endpoint => [("endpoint", Value.ofText? endpoint)]
    | none => [])

end Binding

/-! ## Lambda functions -/

/-- The name of the function that a value invokes: the last segment of an address, or the name
    given to a function that is declared in the same stack. -/
def lambdaName? (resources : ResourceMap) (address : Value) : Option String :=
  match Reference.ofValue address with
  | .error _ | .ok none => none
  | .ok (some (.literal _)) | .ok (some (.interpolated _ _)) =>
    address.carrier?.bind Expression.lastSegment?
  | .ok (some (.named resource)) => declared resource
  | .ok (some (.attributeOf resource _)) => declared resource
where
  declared (resource : String) : Option String :=
    match resources.get? resource with
    | some record =>
      if record.kind = Resource.lambdaKind then (record.property "FunctionName").render? else none
    | none => none

/-! ## Bindings -/

namespace Binding

/-- Text that is rendered and not empty. -/
def renderedText? (v : Value) : Option String := v.render?.bind MappingTemplate.nonempty?

/-- The binding to a table, which must have a name. -/
def ofTable (stack : Option String) (name : String) (source : Resource) : Outcome Binding :=
  match renderedText? (source.property "Name") with
  | some table => .ok (dynamodb (some table))
  | .none => .error (.problem ⟨.unnamedTable, stack, some name⟩)

/-- The binding to a lambda function, whose name must be found. -/
def ofLambda (resources : ResourceMap) (stack : Option String) (function name : String)
    (source : Resource) : Outcome Binding :=
  match (source.property "LambdaConfig").fieldIfGiven "LambdaFunctionArn" with
  | .error fault => .error (.fault fault)
  | .ok address =>
    match (lambdaName? resources address).bind MappingTemplate.nonempty? with
    | some target => .ok (lambda (some target))
    | .none => .error (.problem ⟨.unresolvableFunction function address, stack, some name⟩)

/-- The binding to an endpoint, which must be plain text. -/
def ofHttp (stack : Option String) (name : String) (source : Resource) : Outcome Binding :=
  match (source.property "HttpConfig").fieldIfGiven "Endpoint" with
  | .error fault => .error (.fault fault)
  | .ok endpoint =>
    match renderedText? endpoint with
    | some target => .ok (http (some target))
    | .none => .error (.problem ⟨.unresolvableEndpoint endpoint, stack, some name⟩)

def declaredKind? (source : Resource) : Option DataSourceKind :=
  (source.property "Type").text?.bind DataSourceKind.ofName?

def ofSource (resources : ResourceMap) (stack : Option String) (function name : String)
    (source : Resource) : Outcome Binding :=
  match declaredKind? source with
  | some .dynamodb => ofTable stack name source
  | some .lambda => ofLambda resources stack function name source
  | some .http => ofHttp stack name source
  | some .none => .ok none
  | .none =>
    .error (.problem ⟨.unsupportedDataSource (source.property "Type"), stack, some name⟩)

/-- The name of the data source that a function names, as far as it leads somewhere. -/
def sourceName? (resources : ResourceMap) (function : Resource) : Option String :=
  match Reference.resolveValue .lenient resources .none (function.property "DataSourceName") with
  | .ok name => name.bind MappingTemplate.nonempty?
  | .error _ => .none

/-- The binding of a function; a data source that is absent or unknown is no failure. -/
def ofFunction (resources : ResourceMap) (stack : Option String) (name : String)
    (function : Resource) : Outcome Binding :=
  match Reference.fetch resources (sourceName? resources function) with
  | some (source, record) => ofSource resources stack name source record
  | .none => .ok none

end Binding

end ResourceGraph
