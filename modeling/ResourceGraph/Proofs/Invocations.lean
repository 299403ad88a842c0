import ResourceGraph.Proofs.Bindings
import ResourceGraph.Proofs.Classification
import ResourceGraph.Proofs.Rendering

/-! # Invocations

A function is invoked by an address in any notation, or as a resource of the stack, and all ways
to invoke it come to the same.  `Value.Invokes` has one constructor for each notation, and a
function is read off a value exactly if the value invokes it (`lambdaName?_eq_some_iff`).
Pipeline functions and resolvers inherit the relation, so the resolvers listed at a function are
those that reach it in whatever notation (`Bundle.functions_of_reaches`).
-/

namespace ResourceGraph

open Expression (IsParent IsSegment)

/-! ## Values -/

/-- A value invokes a function: by an address that is carried through any nesting of text functions
    and ends in its name, or by reference to a function of the stack that is given that name. -/
inductive Value.Invokes (resources : ResourceMap) : Value → String → Prop where
  | address {v : Value} {directory target : String} (carries : v.Carries (directory ++ target))
      (parent : IsParent directory) (segment : IsSegment target) : Invokes resources v target
  | named {v : Value} {name target : String} {record : Resource}
      (spells : Reference.Spells v (.named name)) (found : resources.get? name = some record)
      (h_kind : record.kind = Resource.lambdaKind)
      (rendered : (record.property "FunctionName").render? = some target) :
      Invokes resources v target
  | attributeOf {v : Value} {name member target : String} {record : Resource}
      (spells : Reference.Spells v (.attributeOf name member))
      (found : resources.get? name = some record) (h_kind : record.kind = Resource.lambdaKind)
      (rendered : (record.property "FunctionName").render? = some target) :
      Invokes resources v target

/-- What is carried is spelled out as text or by a text function. -/
theorem Value.Carries.spells {v : Value} {s : String} (carries : v.Carries s) :
    (∃ t, Reference.Spells v (.literal t)) ∨
      ∃ function payload, Reference.Spells v (.interpolated function payload) := by
  cases carries with
  | text s => exact Or.inl ⟨s, .literal s⟩
  | choice _ _ _ => exact Or.inr ⟨.choose, _, .interpolated .choose _⟩
  | format _ => exact Or.inr ⟨.substitute, _, .interpolated .substitute _⟩
  | formatWith _ _ => exact Or.inr ⟨.substitute, _, .interpolated .substitute _⟩
  | join _ _ _ => exact Or.inr ⟨.join, _, .interpolated .join _⟩

section

variable {resources : ResourceMap} {v : Value} {name target : String}

theorem declared_eq_some_iff :
    lambdaName?.declared resources name = some target ↔
      ∃ record, resources.get? name = some record ∧ record.kind = Resource.lambdaKind ∧
        (record.property "FunctionName").render? = some target := by
  unfold lambdaName?.declared
  cases resources.get? name with
  | none => simp
  | some record => simp

theorem invokes_of_lambdaName? (found : lambdaName? resources v = some target) :
    v.Invokes resources target := by
  have h_carried : v.carrier?.bind Expression.lastSegment? = some target →
      v.Invokes resources target := by
    intro carried
    obtain ⟨directory, carries, parent, segment⟩ := Value.carriedSegment?_eq_some_iff.1 carried
    exact .address carries parent segment
  unfold lambdaName? at found
  split at found
  next => cases found
  next => cases found
  next => exact h_carried found
  next => exact h_carried found
  next name h_value =>
    obtain ⟨record, h_record, h_kind, rendered⟩ := declared_eq_some_iff.1 found
    exact .named (Reference.ofValue_eq_ok_some_iff.1 h_value) h_record h_kind rendered
  next name member h_value =>
    obtain ⟨record, h_record, h_kind, rendered⟩ := declared_eq_some_iff.1 found
    exact .attributeOf (Reference.ofValue_eq_ok_some_iff.1 h_value) h_record h_kind rendered

/-- The function read off a value is the one that it invokes. -/
theorem lambdaName?_eq_some_iff :
    lambdaName? resources v = some target ↔ v.Invokes resources target := by
  refine ⟨invokes_of_lambdaName?, fun invokes => ?_⟩
  unfold lambdaName?
  cases invokes with
  | address carries parent segment =>
    have carried := Value.carriedSegment?_eq_some_iff.2 ⟨_, carries, parent, segment⟩
    rcases carries.spells with ⟨t, spells⟩ | ⟨function, payload, spells⟩
    · rw [Reference.ofValue_eq_ok_some_iff.2 spells]
      exact carried
    · rw [Reference.ofValue_eq_ok_some_iff.2 spells]
      exact carried
  | named spells found h_kind rendered =>
    rw [Reference.ofValue_eq_ok_some_iff.2 spells]
    exact declared_eq_some_iff.2 ⟨_, found, h_kind, rendered⟩
  | attributeOf spells found h_kind rendered =>
    rw [Reference.ofValue_eq_ok_some_iff.2 spells]
    exact declared_eq_some_iff.2 ⟨_, found, h_kind, rendered⟩

end

/-! ## Pipeline functions -/

namespace Binding

variable {resources : ResourceMap} {stack : Option String} {owner target : String}
  {function : Resource} {b : Binding}

/-- The data source of a function is one of functions, and its address invokes that one. -/
def Invokes (resources : ResourceMap) (function : Resource) (target : String) : Prop :=
  ∃ name record address, IsSource resources function name record ∧
    record.property "Type" = .string DataSourceKind.lambda.name ∧
    (record.property "LambdaConfig").fieldIfGiven "LambdaFunctionArn" = .ok address ∧
    address.Invokes resources target

theorem eq_lambda_iff_invokes (bound : ofFunction resources stack owner function = .ok b) :
    b = .lambda (some target) ↔ Invokes resources function target := by
  constructor
  · rintro rfl
    rcases ofFunction_eq_ok_iff.1 bound with ⟨name, record, source, makes⟩ | ⟨-, h_none⟩
    · cases makes with
      | function type given invoked _ =>
        exact ⟨name, record, _, source, type, given, lambdaName?_eq_some_iff.1 invoked⟩
    · cases h_none
  · rintro ⟨name, record, address, source, type, given, invokes⟩
    rw [source.ofFunction_eq, ofSource, declaredKind?_eq_some_iff.2 type] at bound
    obtain ⟨address', target', given', invoked, -, rfl⟩ := ofLambda_eq_ok_iff.1 bound
    rw [given, Except.ok.injEq] at given'
    subst given'
    rw [lambdaName?_eq_some_iff.2 invokes] at invoked
    rw [invoked]

theorem kind_ne_lambda_iff (bound : ofFunction resources stack owner function = .ok b) :
    b.kind ≠ .lambda ↔ ∀ target, ¬ Invokes resources function target := by
  simp only [← eq_lambda_iff_invokes bound]
  constructor
  · rintro h_kind target rfl
    exact h_kind rfl
  · intro h_none h_kind
    obtain ⟨target, h_target, -⟩ := (wellFormed_of_ofFunction bound).own (by simp [h_kind])
    cases b with
    | lambda function => exact h_none target (congrArg Binding.lambda h_target)
    | dynamodb _ | http _ | none => cases h_kind

end Binding

/-! ## Resolvers -/

section

variable {α β : Type} {P M : α → Prop} {Q N : β → Prop}

theorem exists_first_cons_iff {a : α} {rest : List α} :
    (∃ before x after, a :: rest = before ++ x :: after ∧ P x ∧ ∀ e ∈ before, M e) ↔
      P a ∨ M a ∧ ∃ before x after, rest = before ++ x :: after ∧ P x ∧ ∀ e ∈ before, M e := by
  constructor
  · rintro ⟨before, x, after, h_split, h_x, h_before⟩
    cases before with
    | nil =>
      cases h_split
      exact Or.inl h_x
    | cons e more =>
      cases h_split
      rw [List.forall_mem_cons] at h_before
      exact Or.inr ⟨h_before.1, more, x, after, rfl, h_x, h_before.2⟩
  · rintro (h_a | ⟨h_a, before, x, after, rfl, h_x, h_before⟩)
    · exact ⟨[], a, rest, rfl, h_a, nofun⟩
    · exact ⟨a :: before, x, after, rfl, h_x, List.forall_mem_cons.2 ⟨h_a, h_before⟩⟩

/-- Of two lists related one by one, the first items with related properties stand together. -/
theorem exists_first_congr {R : α → β → Prop} {xs : List α} {ys : List β}
    (related : List.Forall₂ R xs ys) (h_first : ∀ x y, R x y → (P x ↔ Q y))
    (h_before : ∀ x y, R x y → (M x ↔ N y)) :
    (∃ before x after, xs = before ++ x :: after ∧ P x ∧ ∀ e ∈ before, M e) ↔
      ∃ before y after, ys = before ++ y :: after ∧ Q y ∧ ∀ e ∈ before, N e := by
  induction related with
  | nil => simp
  | cons h_head _ ih =>
    rw [exists_first_cons_iff, exists_first_cons_iff, h_first _ _ h_head, h_before _ _ h_head, ih]

end

namespace Resolver

variable {stack : String} {options : Options} {resources : ResourceMap}
  {entry : String × Resource} {r : Resolver} {target : String}

/-- A resource of the stack declares the resolver, and the first function in its pipeline that
    invokes anything invokes that function. -/
def Reaches (stack : String) (options : Options) (resources : ResourceMap) (r : Resolver)
    (target : String) : Prop :=
  ∃ entry ∈ resources.entries, Declares stack options resources entry (.resolver r) ∧
    ∃ functions, Pipeline.functions entry.2 resources (some stack) = .ok functions ∧
      ∃ before function after, functions = before ++ function :: after ∧
        Binding.Invokes resources function.2 target ∧
        ∀ earlier ∈ before, ∀ other, ¬ Binding.Invokes resources earlier.2 other

theorem firstFunction?_eq_some_iff :
    r.firstFunction? = some target ↔ r.Leads (.lambda (some target)) := by
  rw [leads_iff]
  constructor
  · intro found
    obtain ⟨b, h_head, h_target⟩ := Option.bind_eq_some_iff.1 found
    obtain ⟨more, h_bindings⟩ := List.head?_eq_some_iff.1 h_head
    cases b with
    | lambda function =>
      cases h_target
      exact ⟨more, h_bindings⟩
    | dynamodb _ | http _ | none => cases h_target
  · rintro ⟨more, h_bindings⟩
    have h_head : (r.bindings .lambda).head? = some (.lambda (some target)) := by
      rw [show r.bindings .lambda = _ from h_bindings, List.head?_cons]
    rw [firstFunction?, h_head, Option.bind_some, Binding.function?]

theorem leads_iff_exists_invokes {extension : String} {functions : List (String × Resource)}
    (built : Stage.ofFunctions resources extension (some stack) functions = .ok r.stages) :
    r.Leads (.lambda (some target)) ↔
      ∃ before function after, functions = before ++ function :: after ∧
        Binding.Invokes resources function.2 target ∧
        ∀ earlier ∈ before, ∀ other, ¬ Binding.Invokes resources earlier.2 other := by
  refine (exists_first_congr (Stage.ofFunctions_eq_ok_iff.1 built) ?_ ?_).symm
  · intro function stage h_stage
    exact (Binding.eq_lambda_iff_invokes (Stage.binding_ofFunction h_stage)).symm
  · intro function stage h_stage
    exact (Binding.kind_ne_lambda_iff (Stage.binding_ofFunction h_stage)).symm

theorem reaches_iff (member : entry ∈ resources.entries)
    (declares : Declares stack options resources entry (.resolver r)) :
    r.Reaches stack options resources target ↔ r.firstFunction? = some target := by
  rw [firstFunction?_eq_some_iff]
  exact declares.exists_functions_iff member fun _ built => (leads_iff_exists_invokes built).symm

end Resolver

/-! ## Stacks -/

namespace Bundle

variable {stack : String} {options : Options} {resources : ResourceMap}
  {warnings : List Warning} {b : Bundle} {r : Resolver} {target : String}

theorem mem_functions_iff (accepted : ofResources stack options resources = ⟨warnings, .ok b⟩) :
    (∃ rs, b.functions.get? (some target) = some rs ∧ r ∈ rs) ↔
      r.bucket options.roots = .function ∧ r.Reaches stack options resources target := by
  obtain ⟨ds, declared, h_holds, -, -⟩ := ofResources_holds accepted
  rw [h_holds.functions.mem_list_iff, Declaration.mem_filed_iff, mem_declared_iff declared]
  constructor
  · rintro ⟨⟨⟨entry, member, declares⟩, h_bucket⟩, h_first⟩
    exact ⟨h_bucket, (Resolver.reaches_iff member declares).2 h_first⟩
  · rintro ⟨h_bucket, reaches⟩
    have h_entry := reaches
    obtain ⟨entry, member, declares, -⟩ := h_entry
    exact ⟨⟨⟨entry, member, declares⟩, h_bucket⟩, (Resolver.reaches_iff member declares).1 reaches⟩

/-- The function read off a value is the one that it invokes, whatever the notation.  So the
    resolvers listed at a function are those without tables and endpoints that reach it, and they
    are listed together. -/
theorem functions_of_reaches (resources : ResourceMap) (target : String) :
    (∀ v, lambdaName? resources v = some target ↔ v.Invokes resources target) ∧
      ∀ stack options warnings b, ofResources stack options resources = ⟨warnings, .ok b⟩ →
        ∀ r, (∃ rs, b.functions.get? (some target) = some rs ∧ r ∈ rs) ↔
          r.bucket options.roots = .function ∧ r.Reaches stack options resources target :=
  ⟨fun _ => lambdaName?_eq_some_iff, fun _ _ _ _ accepted _ => mem_functions_iff accepted⟩

/-- An address that is chosen, joined and substituted, with a variable in front of the name. -/
def nestedAddress : Value :=
  .object [("Fn::If", .array [.string "Live", .null,
    .object [("Fn::Join", .array [.string ":", .array [.string "arn:aws:lambda",
      .object [("Fn::Sub", .array
        [.string "$\x7bAWS::Region\x7d:function/echo", .object []])]]])]])]

/-- A stack with one function, which two fields invoke, one by its address and one by reference. -/
def echoResources : ResourceMap :=
  let sourceAt (address : Value) : Resource := ⟨"AWS::AppSync::DataSource",
    [("Type", .string "AWS_LAMBDA"),
      ("LambdaConfig", .object [("LambdaFunctionArn", address)])], []⟩
  let callerOf (source : String) : Resource := ⟨Resource.functionKind,
    [("DataSourceName", .string source), ("RequestMappingTemplate", .string ""),
      ("ResponseMappingTemplate", .string "")], []⟩
  .ofList
    [("Echo", ⟨Resource.lambdaKind, [("FunctionName", .object [("Fn::Sub", .string "echo")])], []⟩),
      ("AddressSource", sourceAt nestedAddress),
      ("ReferenceSource", sourceAt (Reference.lookUp "Echo" "Arn")),
      ("CallAddress", callerOf "AddressSource"),
      ("CallReference", callerOf "ReferenceSource"),
      ("First", pipelineResource "Query" "echo" ["CallAddress"]),
      ("Second", pipelineResource "Query" "shout" ["CallReference"])]

theorem echoResources_reached :
    ∃ b rs, ofResources "Blog" Options.standard echoResources = ⟨[], .ok b⟩ ∧
      b.functions.get? (some "echo") = some rs ∧
      rs.map Resolver.fieldName = ["echo", "shout"] ∧
      (∀ r ∈ rs, r.Reaches "Blog" Options.standard echoResources "echo") ∧
      lambdaName? echoResources nestedAddress = some "echo" := by
  have h_left : ∃ b rs, ofResources "Blog" Options.standard echoResources = ⟨[], .ok b⟩ ∧
      b.functions.get? (some "echo") = some rs ∧
      rs.map Resolver.fieldName = ["echo", "shout"] := ⟨_, _, rfl, rfl, rfl⟩
  obtain ⟨b, rs, accepted, h_list, h_fields⟩ := h_left
  obtain ⟨h_values, h_resolvers⟩ := functions_of_reaches echoResources "echo"
  refine ⟨b, rs, accepted, h_list, h_fields, ?_, (h_values nestedAddress).2 ?_⟩
  · intro r member
    exact ((h_resolvers "Blog" Options.standard [] b accepted r).1 ⟨rs, h_list, member⟩).2
  · have carries : nestedAddress.Carries ("$\x7bAWS::Region\x7d:function/" ++ "echo") :=
      .choice _ _ (.join _ [_] (.formatWith _ _))
    have segment : IsSegment "echo" := ⟨by decide, by decide, by decide⟩
    exact .address carries (Or.inr ⟨"$\x7bAWS::Region\x7d:function", Or.inr rfl⟩) segment

end Bundle

end ResourceGraph
