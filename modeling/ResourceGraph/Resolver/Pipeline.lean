import ResourceGraph.Resolver

/-! # Pipelines

The resolver that a resource declares, with a stage for each function of its pipeline.  Entries of
the pipeline that lead to no function of the stack are passed over; without entries the
dependencies of the resolver stand in.  A stage is read in a fixed order, and so is a resolver,
because the first part that fails decides the problem.
-/

namespace ResourceGraph

namespace Pipeline

def function? (resources : ResourceMap) (name : String) : Option (String × Resource) :=
  match resources.get? name with
  | some record => if record.kind = Resource.functionKind then some (name, record) else none
  | none => none

theorem function?_eq_some_iff {resources : ResourceMap} {name : String}
    {function : String × Resource} :
    function? resources name = some function ↔
      function.1 = name ∧ resources.get? name = some function.2 ∧
        function.2.kind = Resource.functionKind := by
  obtain ⟨found, record⟩ := function
  unfold function?
  constructor
  · intro h_found
    split at h_found
    next held h_held =>
      split at h_found
      next h_kind =>
        cases h_found
        exact ⟨rfl, h_held, h_kind⟩
      next => cases h_found
    next => cases h_found
  · rintro ⟨h_name, h_held, h_kind⟩
    subst h_name
    rw [h_held]
    exact if_pos h_kind

/-- The function to which an entry of a pipeline leads. -/
def readEntry (resources : ResourceMap) (stack : Option String) (entry : Value) :
    Except Problem (Option (String × Resource)) :=
  match Reference.resolveValue .strict resources stack entry with
  | .ok name => .ok ((name.bind MappingTemplate.nonempty?).bind (function? resources))
  | .error problem => .error problem

/-- The functions to which several entries lead, up to the first bad entry. -/
def readEntries (resources : ResourceMap) (stack : Option String) :
    List Value → Except Problem (List (String × Resource))
  | [] => .ok []
  | entry :: rest =>
    match readEntry resources stack entry with
    | .error problem => .error problem
    | .ok function =>
      match readEntries resources stack rest with
      | .error problem => .error problem
      | .ok functions => .ok (function.toList ++ functions)

/-- The functions of a pipeline resolver in order. -/
def functions (resource : Resource) (resources : ResourceMap) (stack : Option String) :
    Outcome (List (String × Resource)) :=
  match (resource.property "PipelineConfig").fieldIfGiven "Functions" with
  | .error fault => .error (.fault fault)
  | .ok entries =>
    if entries.isVacant then .ok (resource.dependencies.filterMap (function? resources))
    else match entries.items with
      | .error fault => .error (.fault fault)
      | .ok entries => Outcome.ofProblem (readEntries resources stack entries)

end Pipeline

/-- The name of a stage: the one that the function declares, or the name of its resource. -/
def Stage.nameOf (name : String) (function : Resource) : Value :=
  let declared := function.property "Name"
  if declared.isVacant then .string name else declared

def Stage.ofFunction (resources : ResourceMap) (extension : String) (stack : Option String)
    (name : String) (function : Resource) : Outcome Stage :=
  match Binding.ofFunction resources stack name function with
  | .error failure => .error failure
  | .ok binding =>
    match MappingTemplate.readRequired MappingTemplate.request extension stack name
        function.properties with
    | .error problem => .error (.problem problem)
    | .ok request =>
      match MappingTemplate.readRequired MappingTemplate.response extension stack name
          function.properties with
      | .error problem => .error (.problem problem)
      | .ok response => .ok ⟨Stage.nameOf name function, binding, request, response⟩

/-- The stages of several functions, up to the first bad one. -/
def Stage.ofFunctions (resources : ResourceMap) (extension : String) (stack : Option String) :
    List (String × Resource) → Outcome (List Stage)
  | [] => .ok []
  | (name, function) :: rest =>
    match Stage.ofFunction resources extension stack name function with
    | .error failure => .error failure
    | .ok stage =>
      match Stage.ofFunctions resources extension stack rest with
      | .error failure => .error failure
      | .ok stages => .ok (stage :: stages)

theorem Stage.binding_ofFunction {resources : ResourceMap} {extension : String}
    {stack : Option String} {name : String} {function : Resource} {stage : Stage}
    (built : Stage.ofFunction resources extension stack name function = .ok stage) :
    Binding.ofFunction resources stack name function = .ok stage.binding := by
  unfold ofFunction at built
  split at built
  · cases built
  next h_bound =>
    split at built
    · cases built
    · split at built
      · cases built
      · cases built
        exact h_bound

namespace Resolver

/-- Text of a property that is neither missing nor empty. -/
def requiredText? (resource : Resource) (name : String) : Option String :=
  (resource.property name).text?.bind MappingTemplate.nonempty?

/-- The type and the field that a resolver answers, or the names of the properties that are
    missing. -/
def readNames (resource : Resource) : Except (List String) (String × String) :=
  match requiredText? resource "TypeName", requiredText? resource "FieldName" with
  | some typeName, some fieldName => .ok (typeName, fieldName)
  | typeName, fieldName =>
    .error ((if typeName.isNone then ["TypeName"] else [])
      ++ (if fieldName.isNone then ["FieldName"] else []))

def isPipeline (resource : Resource) : Bool := (resource.property "Kind").text? = some "PIPELINE"

def ofResource (name : String) (resource : Resource) (resources : ResourceMap)
    (extension : String) (stack : Option String) : Outcome Resolver :=
  if !isPipeline resource then
    .error (.problem ⟨.notPipeline (resource.property "Kind"), stack, some name⟩)
  else match readNames resource with
    | .error missing => .error (.problem ⟨.unnamedResolver missing, stack, some name⟩)
    | .ok (typeName, fieldName) =>
      match MappingTemplate.readOptional MappingTemplate.request extension stack name
          resource.properties with
      | .error problem => .error (.problem problem)
      | .ok request =>
        match MappingTemplate.readOptional MappingTemplate.response extension stack name
            resource.properties with
        | .error problem => .error (.problem problem)
        | .ok response =>
          match Pipeline.functions resource resources stack with
          | .error failure => .error failure
          | .ok functions =>
            match Stage.ofFunctions resources extension stack functions with
            | .error failure => .error failure
            | .ok stages => .ok ⟨typeName, fieldName, stages, request, response⟩

theorem property_of_requiredText? {resource : Resource} {name text : String}
    (found : requiredText? resource name = some text) :
    resource.property name = .string text := by
  obtain ⟨held, h_held, h_text⟩ := Option.bind_eq_some_iff.1 found
  rw [← (MappingTemplate.nonempty?_eq_some_iff.1 h_text).1]
  exact Value.text?_eq_some_iff.1 h_held

theorem ofResource_eq_ok {name : String} {resource : Resource} {resources : ResourceMap}
    {extension : String} {stack : Option String} {r : Resolver}
    (built : ofResource name resource resources extension stack = .ok r) :
    resource.property "TypeName" = .string r.typeName ∧
      resource.property "FieldName" = .string r.fieldName ∧
      ∃ functions, Pipeline.functions resource resources stack = .ok functions ∧
        Stage.ofFunctions resources extension stack functions = .ok r.stages := by
  unfold ofResource at built
  split at built
  · cases built
  · split at built
    · cases built
    next typeName fieldName h_names =>
      split at built
      · cases built
      · split at built
        · cases built
        · split at built
          · cases built
          next functions h_functions =>
            split at built
            · cases built
            next stages h_stages =>
              cases built
              unfold readNames at h_names
              split at h_names
              next h_type h_field =>
                cases h_names
                exact ⟨property_of_requiredText? h_type, property_of_requiredText? h_field,
                  functions, h_functions, h_stages⟩
              · cases h_names

end Resolver

end ResourceGraph
