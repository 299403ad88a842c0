import ResourceGraph.Value.Display

/-! # Problems

Why a resource graph could not be read, and where.

* `RecordFlaw` — what is wrong with one resource record.
* `ProblemKind` — the taxonomy.
* `Cause` — the ways to fail; each belongs to one kind and has its own wording and details.
* `Problem` — a cause and the place, as far as it is known; `within` fills in what is missing.
* `Failure` — a problem, or a fault in the shape of a value on which no wording hangs.
-/

namespace ResourceGraph

/-! ## Flaws -/

/-- What is wrong with one resource record, or with the template around it. -/
inductive RecordFlaw where
  | notRecord
  | kindMissing
  | kindNotText
  | kindEmpty
  | notObject
  | dependencyNotText
  | dependenciesNotList
deriving DecidableEq, Inhabited

def RecordFlaw.message : RecordFlaw → String
  | notRecord => "Input should be a valid dictionary or instance of TemplateResource"
  | kindMissing => "Field required"
  | kindNotText => "Input should be a valid string"
  | kindEmpty => "String should have at least 1 character"
  | notObject => "Input should be a valid dictionary"
  | dependencyNotText => "Input should be a valid string"
  | dependenciesNotList => "Input should be a valid list"

/-- The flaws of something that has been read, none if it is accepted. -/
def flawsOf {ε α : Type} : Except (List ε) α → List ε
  | .ok _ => []
  | .error flaws => flaws

/-- Where nothing is refused without a flaw, what has no flaw is accepted. -/
theorem flawsOf_eq_nil_iff {ε α : Type} {read : Except (List ε) α} (h_some : read ≠ .error []) :
    flawsOf read = [] ↔ ∃ a, read = .ok a := by
  cases read with
  | ok a => simp [flawsOf]
  | error flaws => simpa [flawsOf] using h_some

/-! ## Kinds and causes -/

inductive ProblemKind where
  | general
  | invalidTemplate
  | malformedKeySchema
  | unsupportedResolverShape
  | unsupportedDataSourceType
  | unresolvableFunctionTarget
  | unresolvableEndpoint
  | ambiguousTemplateReference
  | danglingReference
deriving DecidableEq, Inhabited

namespace ProblemKind

/-- All kinds, the general one first. -/
def all : List ProblemKind :=
  [general, invalidTemplate, malformedKeySchema, unsupportedResolverShape,
   unsupportedDataSourceType, unresolvableFunctionTarget, unresolvableEndpoint,
   ambiguousTemplateReference, danglingReference]

/-- The name under which a kind is reported. -/
def name : ProblemKind → String
  | general => "NormalizationError"
  | invalidTemplate => "InvalidTemplate"
  | malformedKeySchema => "MalformedKeySchema"
  | unsupportedResolverShape => "UnsupportedResolverShape"
  | unsupportedDataSourceType => "UnsupportedDataSourceType"
  | unresolvableFunctionTarget => "UnresolvableFunctionTarget"
  | unresolvableEndpoint => "UnresolvableEndpoint"
  | ambiguousTemplateReference => "AmbiguousTemplateReference"
  | danglingReference => "DanglingReference"

def ofName? (name : String) : Option ProblemKind := all.find? fun kind => kind.name = name

theorem ofName?_name (kind : ProblemKind) : ofName? kind.name = some kind := by
  cases kind <;> decide

end ProblemKind

/-- The way in which something failed. -/
inductive Cause where
  | stated (kind : ProblemKind) (message : String) (details : List (String × Value))
  | resourcesNotObject
  | badRecord (flaws : List RecordFlaw)
  | documentNotObject
  | stacksNotObject
  | badTemplate (flaws : List RecordFlaw)
  | unrecognisedExpression (expression : Value)
  | malformedAttributeLookup (payload : Value)
  | danglingLookup (target member : String)
  | undefinedKeyAttribute (name : Value)
  | unsupportedAttributeType (type name : Value)
  | unknownKeyRole (name role : Value)
  | noPartitionKey
  | indexWithoutPartitionKey (index : Value)
  | templateTwice (direction : String)
  | templateNowhere (direction : String)
  | templateWithoutFile (direction : String) (location : Value)
  | templateNotExactlyOne (hasInline : Bool) (file : Option String)
  | unnamedTable
  | unresolvableFunction (function : String) (arn : Value)
  | unresolvableEndpoint (endpoint : Value)
  | unsupportedDataSource (type : Value)
  | notPipeline (kind : Value)
  | unnamedResolver (missing : List String)

namespace Cause

/-- The kind to which a cause belongs. -/
def kind : Cause → ProblemKind
  | stated kind _ _ => kind
  | resourcesNotObject | badRecord _ | documentNotObject | stacksNotObject | badTemplate _
  | unrecognisedExpression _ | malformedAttributeLookup _ | templateWithoutFile _ _
  | unnamedTable | unnamedResolver _ => .invalidTemplate
  | danglingLookup _ _ => .danglingReference
  | undefinedKeyAttribute _ | unsupportedAttributeType _ _ | unknownKeyRole _ _
  | noPartitionKey | indexWithoutPartitionKey _ => .malformedKeySchema
  | templateTwice _ | templateNowhere _ | templateNotExactlyOne _ _ => .ambiguousTemplateReference
  | unresolvableFunction _ _ => .unresolvableFunctionTarget
  | unresolvableEndpoint _ => .unresolvableEndpoint
  | unsupportedDataSource _ => .unsupportedDataSourceType
  | notPipeline _ => .unsupportedResolverShape

/-- The wording of a look-up that finds nothing. -/
def danglingMessage (target : String) : String :=
  "Reference to unknown resource '" ++ target ++ "'"

/-- The wording for a type that no data source has. -/
def dataSourceMessage (type : Value) : String := "Unsupported data source type: " ++ type.display

def message : Cause → String
  | stated _ message _ => message
  | resourcesNotObject => "Resource map must be an object"
  | badRecord _ => "Resource is not a template resource"
  | documentNotObject => "Deployment document must be an object"
  | stacksNotObject => "'stacks' must be an object"
  | badTemplate _ => "Stack template is invalid"
  | unrecognisedExpression _ => "Unrecognised reference expression"
  | malformedAttributeLookup _ => "Malformed Fn::GetAtt"
  | danglingLookup target _ => danglingMessage target
  | undefinedKeyAttribute name =>
    "Key attribute '" ++ name.display ++ "' has no attribute definition"
  | unsupportedAttributeType type _ => "Unsupported attribute type '" ++ type.display ++ "'"
  | unknownKeyRole name role =>
    "Unknown key type '" ++ role.display ++ "' for attribute '" ++ name.display ++ "'"
  | noPartitionKey => "Table has no partition key"
  | indexWithoutPartitionKey index =>
    "Global index '" ++ index.display ++ "' has no partition key"
  | templateTwice direction => direction ++ " template declared both inline and as a file"
  | templateNowhere direction => direction ++ " template declared neither inline nor as a file"
  | templateWithoutFile direction _ => direction ++ " template location has no file name"
  | templateNotExactlyOne _ _ =>
    "Template reference needs exactly one of inline template or file name"
  | unnamedTable => "DynamoDB data source has no name"
  | unresolvableFunction _ _ => "Cannot extract lambda function name"
  | unresolvableEndpoint _ => "HTTP data source endpoint is not a plain string"
  | unsupportedDataSource type => dataSourceMessage type
  | notPipeline _ => "Invalid resolver type. All resolvers should be pipelines."
  | unnamedResolver _ => "Resolver has no type or field name"

def flawTexts (flaws : List RecordFlaw) : Value :=
  .array (flaws.map fun flaw => .string flaw.message)

def details : Cause → List (String × Value)
  | stated _ _ details => details
  | badRecord flaws | badTemplate flaws => [("errors", flawTexts flaws)]
  | unrecognisedExpression expression => [("value", expression)]
  | malformedAttributeLookup payload => [("value", payload)]
  | danglingLookup _ member => [("attribute", .string member)]
  | undefinedKeyAttribute name => [("attribute", name)]
  | unsupportedAttributeType _ name =>
    [("attribute", name), ("allowed", .array [.string "S", .string "N", .string "B"])]
  | unknownKeyRole name role => [("attribute", name), ("key_type", role)]
  | templateWithoutFile _ location => [("location", location)]
  | templateNotExactlyOne hasInline file =>
    [("inline", .bool hasInline), ("file_name", Value.ofText? file)]
  | unresolvableFunction function arn => [("function", .string function), ("arn", arn)]
  | unresolvableEndpoint endpoint => [("endpoint", endpoint)]
  | notPipeline kind => [("kind", kind)]
  | unnamedResolver missing => [("missing", .array (missing.map .string))]
  | resourcesNotObject | documentNotObject | stacksNotObject | noPartitionKey
  | indexWithoutPartitionKey _ | templateTwice _ | templateNowhere _ | unnamedTable
  | unsupportedDataSource _ => []

/-- A cause of a given kind about a subject: a data-source type and a reference target are worded
    by their kind, any other subject is the wording itself. -/
def about (kind : ProblemKind) (subject : Value) (details : List (String × Value)) : Cause :=
  .stated kind
    (match kind with
      | .unsupportedDataSourceType => dataSourceMessage subject
      | .danglingReference => danglingMessage subject.display
      | _ => subject.display)
    details

end Cause

/-! ## Problems -/

/-- A cause and the place of the failure, as far as it is known. -/
structure Problem where
  cause : Cause
  stack : Option String
  resource : Option String

namespace Problem

def shown (place : Option String) : List String :=
  match place with
  | some name => if name.isEmpty then [] else [name]
  | none => []

/-- The report of a problem; empty places and details are left out. -/
def toMembers (p : Problem) : List (String × Value) :=
  [("error", .string p.cause.kind.name), ("message", .string p.cause.message)]
    ++ (shown p.stack).map (fun name => ("stack", .string name))
    ++ (shown p.resource).map (fun name => ("resource", .string name))
    ++ (if p.cause.details.isEmpty then [] else [("details", .object p.cause.details)])

def toValue (p : Problem) : Value := .object p.toMembers

def text (p : Problem) : String :=
  match shown p.stack ++ shown p.resource with
  | [] => p.cause.message
  | places => p.cause.message ++ " (" ++ String.intercalate "/" places ++ ")"

/-- Say where a problem arose; a place that is known already stays. -/
def within (p : Problem) (stack resource : String) : Problem :=
  { p with stack := some (p.stack.getD stack), resource := some (p.resource.getD resource) }

@[simp] theorem within_stack (p : Problem) (stack resource : String) :
    (p.within stack resource).stack = some (p.stack.getD stack) := rfl

@[simp] theorem within_resource (p : Problem) (stack resource : String) :
    (p.within stack resource).resource = some (p.resource.getD resource) := rfl

@[simp] theorem within_cause (p : Problem) (stack resource : String) :
    (p.within stack resource).cause = p.cause := rfl

end Problem

/-! ## Failures -/

/-- What ends a computation early: a problem with a wording, or a fault in the shape of a value. -/
inductive Failure where
  | problem (p : Problem)
  | fault (f : Fault)

namespace Failure

def within (stack resource : String) : Failure → Failure
  | problem p => problem (p.within stack resource)
  | fault f => fault f

end Failure

abbrev Outcome (α : Type) := Except Failure α

namespace Outcome

variable {α : Type}

def ofShape : Except Fault α → Outcome α
  | .ok a => .ok a
  | .error f => .error (.fault f)

def ofProblem : Except Problem α → Outcome α
  | .ok a => .ok a
  | .error p => .error (.problem p)

/-- Say where a failure arose, if there is one. -/
def within (stack resource : String) : Outcome α → Outcome α
  | .ok a => .ok a
  | .error failure => .error (failure.within stack resource)

end Outcome

end ResourceGraph
