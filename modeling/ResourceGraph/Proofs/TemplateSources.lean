import ResourceGraph.Proofs.Declarations
import ResourceGraph.Proofs.Reading
import ResourceGraph.Proofs.Rendering
import ResourceGraph.Proofs.TemplateLookup

/-! # Where templates come from

A direction has its template inline or in a file, and never both.

* `MappingTemplate.Holds` — what an inline template is read as.
* `MappingTemplate.Locates` — the bare name of the file at the end of a location.
* `MappingTemplate.Refuses` — what is wrong where neither is read.
* `MappingTemplate.ExactlyOne` — one of two optional fields is given; `ofFields_eq_ok_iff` says
  that the fields of a template are such.
-/

namespace ResourceGraph

namespace MappingTemplate

open Expression (IsParent IsSegment)

variable {direction extension name : String} {required : Bool} {template location v : Value}
  {properties : List (String × Value)} {cause : Cause} {t : MappingTemplate}

/-! ## Inline templates -/

/-- An inline template is read as its text, or as it stands if it is no text in disguise. -/
inductive Holds (template : Value) : Value → Prop where
  | rendered {text : String} (rendered : template.render? = some text) :
      Holds template (.string text)
  | raw (unrendered : template.render? = none) : Holds template template

theorem ofInline_eq_inline_iff : ofInline template = .inline v ↔ Holds template v := by
  unfold ofInline
  constructor
  · intro same
    split at same
    next text h_text =>
      cases same
      exact .rendered h_text
    next h_none =>
      cases same
      exact .raw h_none
  · intro holds
    cases holds with
    | rendered rendered => simp [rendered]
    | raw unrendered => simp [unrendered]

theorem exists_holds (template : Value) : ∃ v, Holds template v := by
  cases h_text : template.render? with
  | some text => exact ⟨_, .rendered h_text⟩
  | none => exact ⟨_, .raw h_text⟩

theorem Holds.ne_null (holds : Holds template v) (given : template ≠ .null) : v ≠ .null := by
  cases holds with
  | rendered _ => exact nofun
  | raw _ => exact given

/-! ## Locations -/

/-- A location carries a path to a file, of which this is the name without the extension. -/
inductive Locates (extension : String) (location : Value) (name : String) : Prop where
  /-- More than the extension stands behind the last separator. -/
  | extended {directory : String} (carries : location.Carries (directory ++ (name ++ extension)))
      (parent : IsParent directory) (segment : IsSegment (name ++ extension)) (h_some : name ≠ "")
  | bare {directory : String} (carries : location.Carries (directory ++ name))
      (parent : IsParent directory) (segment : IsSegment name)
      (unextended : ∀ rest, name ≠ rest ++ extension)

theorem fileName?_eq_some_iff :
    fileName? extension location = some name ↔ Locates extension location name := by
  rw [fileName?, Option.bind_eq_some_iff]
  simp only [Value.carriedSegment?_eq_some_iff, nonempty?_eq_some_iff]
  constructor
  · rintro ⟨file, ⟨directory, carries, parent, segment⟩, h_name, h_some⟩
    rcases bareName_eq_iff.1 h_name with rfl | ⟨rfl, unextended⟩
    · exact .extended carries parent segment h_some
    · exact .bare carries parent segment unextended
  · intro locates
    cases locates with
    | extended carries parent segment h_some =>
      exact ⟨_, ⟨_, carries, parent, segment⟩, bareName_append _ _, h_some⟩
    | bare carries parent segment unextended =>
      exact ⟨_, ⟨_, carries, parent, segment⟩, bareName_of_bare unextended, segment.nonempty⟩

/-! ## Reading a direction -/

/-- What is wrong with the two ways to give the template of one direction. -/
inductive Refuses (direction extension : String) (required : Bool) (template location : Value) :
    Cause → Prop where
  | twice (h_template : template ≠ .null) (h_location : location ≠ .null) :
      Refuses direction extension required template location (.templateTwice direction)
  | nowhere (h_template : template = .null) (h_location : location = .null)
      (h_required : required = true) :
      Refuses direction extension required template location (.templateNowhere direction)
  | fileless (h_template : template = .null) (h_location : location ≠ .null)
      (unlocated : ∀ name, ¬ Locates extension location name) :
      Refuses direction extension required template location
        (.templateWithoutFile direction location)

/-- A template is ambiguous if both ways to give it are taken or neither, and invalid if its
    location names no file. -/
theorem Refuses.kind (refuses : Refuses direction extension required template location cause) :
    (cause.kind = .ambiguousTemplateReference ∧ (template = .null ↔ location = .null)) ∨
      cause.kind = .invalidTemplate ∧ template = .null ∧ location ≠ .null := by
  cases refuses with
  | twice h_template h_location => exact Or.inl ⟨rfl, iff_of_false h_template h_location⟩
  | nowhere h_template h_location _ => exact Or.inl ⟨rfl, iff_of_true h_template h_location⟩
  | fileless h_template h_location _ => exact Or.inr ⟨rfl, h_template, h_location⟩

/-- What is read of the template of one direction. -/
inductive Reads (direction extension : String) (required : Bool) (template location : Value) :
    Except Cause (Option MappingTemplate) → Prop where
  | inline {v : Value} (h_template : template ≠ .null) (h_location : location = .null)
      (holds : Holds template v) :
      Reads direction extension required template location (.ok (some (.inline v)))
  | file {name : String} (h_template : template = .null) (h_location : location ≠ .null)
      (locates : Locates extension location name) :
      Reads direction extension required template location (.ok (some (.file name)))
  | nothing (h_template : template = .null) (h_location : location = .null)
      (optional : required = false) :
      Reads direction extension required template location (.ok none)
  | refused {cause : Cause}
      (refuses : Refuses direction extension required template location cause) :
      Reads direction extension required template location (.error cause)

theorem reads_read (direction extension : String) (required : Bool)
    (properties : List (String × Value)) :
    Reads direction extension required (Value.member properties (inlineProperty direction))
      (Value.member properties (locationProperty direction))
      (read direction extension required properties) := by
  unfold read
  split
  next h_inline h_location =>
    obtain ⟨-, h_inline⟩ := Value.given?_eq_some_iff.1 h_inline
    obtain ⟨-, h_location⟩ := Value.given?_eq_some_iff.1 h_location
    exact .refused (.twice h_inline h_location)
  next location h_inline h_location =>
    rw [Value.given?_eq_none_iff] at h_inline
    obtain ⟨rfl, h_given⟩ := Value.given?_eq_some_iff.1 h_location
    split
    next name h_name => exact .file h_inline h_given (fileName?_eq_some_iff.1 h_name)
    next h_none =>
      refine .refused (.fileless h_inline h_given fun name locates => ?_)
      rw [fileName?_eq_some_iff.2 locates] at h_none
      cases h_none
  next template h_inline h_location =>
    rw [Value.given?_eq_none_iff] at h_location
    obtain ⟨rfl, h_given⟩ := Value.given?_eq_some_iff.1 h_inline
    cases h_read : ofInline (Value.member properties (inlineProperty direction)) with
    | inline v => exact .inline h_given h_location (ofInline_eq_inline_iff.1 h_read)
    | file name =>
      unfold ofInline at h_read
      split at h_read <;> cases h_read
  next h_inline h_location =>
    rw [Value.given?_eq_none_iff] at h_inline h_location
    cases required with
    | true => exact .refused (.nowhere h_inline h_location rfl)
    | false => exact .nothing h_inline h_location rfl

/-- A direction is read as one of these, and as no other. -/
theorem read_eq_iff {outcome : Except Cause (Option MappingTemplate)} :
    read direction extension required properties = outcome ↔
      Reads direction extension required (Value.member properties (inlineProperty direction))
        (Value.member properties (locationProperty direction)) outcome := by
  constructor
  · rintro rfl
    exact reads_read direction extension required properties
  · intro reads
    unfold read
    cases reads with
    | inline h_template h_location holds =>
      simp only [Value.given?_of_ne_null h_template, Value.given?_eq_none_iff.2 h_location,
        ofInline_eq_inline_iff.2 holds]
    | file h_template h_location locates =>
      simp only [Value.given?_eq_none_iff.2 h_template, Value.given?_of_ne_null h_location,
        fileName?_eq_some_iff.2 locates]
    | nothing h_template h_location optional =>
      simp [Value.given?_eq_none_iff.2 h_template, Value.given?_eq_none_iff.2 h_location, optional]
    | refused refuses =>
      cases refuses with
      | twice h_template h_location =>
        simp only [Value.given?_of_ne_null h_template, Value.given?_of_ne_null h_location]
      | nowhere h_template h_location h_required =>
        simp [Value.given?_eq_none_iff.2 h_template, Value.given?_eq_none_iff.2 h_location,
          h_required]
      | fileless h_template h_location unlocated =>
        have h_none : fileName? extension
            (Value.member properties (locationProperty direction)) = none :=
          Option.eq_none_iff_forall_not_mem.2 fun name member =>
            unlocated name (fileName?_eq_some_iff.1 member)
        simp only [Value.given?_eq_none_iff.2 h_template, Value.given?_of_ne_null h_location,
          h_none]

theorem read_eq_ok_inline_iff :
    read direction extension required properties = .ok (some (.inline v)) ↔
      Value.member properties (inlineProperty direction) ≠ .null ∧
        Value.member properties (locationProperty direction) = .null ∧
        Holds (Value.member properties (inlineProperty direction)) v := by
  rw [read_eq_iff]
  constructor
  · intro reads
    cases reads with
    | inline h_template h_location holds => exact ⟨h_template, h_location, holds⟩
  · rintro ⟨h_template, h_location, holds⟩
    exact .inline h_template h_location holds

theorem read_eq_ok_file_iff :
    read direction extension required properties = .ok (some (.file name)) ↔
      Value.member properties (inlineProperty direction) = .null ∧
        Value.member properties (locationProperty direction) ≠ .null ∧
        Locates extension (Value.member properties (locationProperty direction)) name := by
  rw [read_eq_iff]
  constructor
  · intro reads
    cases reads with
    | file h_template h_location locates => exact ⟨h_template, h_location, locates⟩
  · rintro ⟨h_template, h_location, locates⟩
    exact .file h_template h_location locates

theorem read_eq_ok_none_iff :
    read direction extension required properties = .ok none ↔
      Value.member properties (inlineProperty direction) = .null ∧
        Value.member properties (locationProperty direction) = .null ∧ required = false := by
  rw [read_eq_iff]
  constructor
  · intro reads
    cases reads with
    | nothing h_template h_location optional => exact ⟨h_template, h_location, optional⟩
  · rintro ⟨h_template, h_location, optional⟩
    exact .nothing h_template h_location optional

theorem read_eq_error_iff :
    read direction extension required properties = .error cause ↔
      Refuses direction extension required (Value.member properties (inlineProperty direction))
        (Value.member properties (locationProperty direction)) cause := by
  rw [read_eq_iff]
  constructor
  · intro reads
    cases reads with
    | refused refuses => exact refuses
  · exact .refused

/-! ## Exactly one -/

/-- The inline template, null if there is none. -/
def inlineField : MappingTemplate → Value
  | inline template => template
  | file _ => .null

def fileField : MappingTemplate → Option String
  | inline _ => none
  | file name => some name

/-- Of an inline template and a file name one is given and the other is not. -/
def ExactlyOne (template : Value) (file : Option String) : Prop :=
  (template ≠ .null ∧ file = none) ∨ (template = .null ∧ file ≠ none)

/-- Two fields make a template if and only if exactly one of them is given, and then they are the
    fields of the template. -/
theorem ofFields_eq_ok_iff {file : Option String} :
    ofFields template file = .ok t ↔
      ExactlyOne template file ∧ t.inlineField = template ∧ t.fileField = file := by
  constructor
  · intro made
    unfold ofFields at made
    split at made
    next v h_given =>
      cases made
      obtain ⟨rfl, given⟩ := Value.given?_eq_some_iff.1 h_given
      exact ⟨Or.inl ⟨given, rfl⟩, rfl, rfl⟩
    next name h_absent =>
      cases made
      rw [Value.given?_eq_none_iff] at h_absent
      exact ⟨Or.inr ⟨h_absent, nofun⟩, h_absent.symm, rfl⟩
    next => cases made
  · rintro ⟨one, rfl, rfl⟩
    cases t with
    | inline v =>
      rcases one with ⟨given, -⟩ | ⟨-, h_file⟩
      · have h_given : v.given? = some v := Value.given?_of_ne_null given
        show ofFields v none = .ok (inline v)
        unfold ofFields
        rw [h_given]
      · exact absurd rfl h_file
    | file name => rfl

/-- The fields of a template that was read make that template again. -/
theorem ofFields_of_read
    (accepted : read direction extension required properties = .ok (some t)) :
    ofFields t.inlineField t.fileField = .ok t := by
  have reads := reads_read direction extension required properties
  rw [accepted] at reads
  rw [ofFields_eq_ok_iff]
  cases reads with
  | inline given _ holds => exact ⟨Or.inl ⟨holds.ne_null given, rfl⟩, rfl, rfl⟩
  | file _ _ _ => exact ⟨Or.inr ⟨rfl, nofun⟩, rfl, rfl⟩

theorem readRequired_eq_ok_iff {stack : Option String} {owner : String} :
    readRequired direction extension stack owner properties = .ok t ↔
      read direction extension true properties = .ok (some t) := by
  unfold readRequired
  split
  next template h_read => simp [h_read]
  next h_read => simp [h_read]
  next cause h_read => simp [h_read]

end MappingTemplate

/-! ## Stages -/

open MappingTemplate
open Expression (IsParent IsSegment)

/-- Both templates of a stage are read off the properties of its function. -/
theorem Stage.templates_ofFunction {resources : ResourceMap} {extension : String}
    {stack : Option String} {name : String} {function : Resource} {stage : Stage}
    (built : ofFunction resources extension stack name function = .ok stage) :
    MappingTemplate.read MappingTemplate.request extension true function.properties =
        .ok (some stage.request) ∧
      MappingTemplate.read MappingTemplate.response extension true function.properties =
        .ok (some stage.response) := by
  unfold ofFunction at built
  split at built
  next => cases built
  next =>
    split at built
    next => cases built
    next h_request =>
      split at built
      next => cases built
      next h_response =>
        cases built
        exact ⟨readRequired_eq_ok_iff.1 h_request, readRequired_eq_ok_iff.1 h_response⟩

namespace Resolver

/-- The template of a direction is inline if only an inline one is given, in a file if only a
    location is given that names one, absent if neither is given nor required, and refused
    otherwise.  A template that is read has exactly one of its two fields, in every stage of a
    resolver. -/
theorem templates_exactlyOne (direction extension : String) (required : Bool)
    (properties : List (String × Value)) :
    let template := Value.member properties (inlineProperty direction)
    let location := Value.member properties (locationProperty direction)
    let outcome := MappingTemplate.read direction extension required properties
    ((∃ v, outcome = .ok (some (.inline v))) ↔ template ≠ .null ∧ location = .null) ∧
      (∀ v, outcome = .ok (some (.inline v)) → Holds template v) ∧
      (∀ name, outcome = .ok (some (.file name)) ↔
        template = .null ∧ location ≠ .null ∧ Locates extension location name) ∧
      (outcome = .ok none ↔ template = .null ∧ location = .null ∧ required = false) ∧
      (∀ cause, outcome = .error cause ↔
        Refuses direction extension required template location cause) ∧
      (∀ cause, Refuses direction extension required template location cause →
        (cause.kind = .ambiguousTemplateReference ∧ (template = .null ↔ location = .null)) ∨
          cause.kind = .invalidTemplate ∧ template = .null ∧ location ≠ .null) ∧
      (∀ t, outcome = .ok (some t) → ofFields t.inlineField t.fileField = .ok t) ∧
      ∀ name resource resources stack r,
        ofResource name resource resources extension stack = .ok r →
          ∀ stage ∈ r.stages, ∀ t ∈ [stage.request, stage.response],
            ExactlyOne t.inlineField t.fileField := by
  intro template location outcome
  refine ⟨⟨?_, ?_⟩, ?_, fun _ => read_eq_ok_file_iff, read_eq_ok_none_iff,
    fun _ => read_eq_error_iff, fun _ => Refuses.kind, fun _ => ofFields_of_read, ?_⟩
  · rintro ⟨v, accepted⟩
    obtain ⟨h_template, h_location, -⟩ := read_eq_ok_inline_iff.1 accepted
    exact ⟨h_template, h_location⟩
  · rintro ⟨h_template, h_location⟩
    obtain ⟨v, holds⟩ := exists_holds template
    exact ⟨v, read_eq_ok_inline_iff.2 ⟨h_template, h_location, holds⟩⟩
  · exact fun v accepted => (read_eq_ok_inline_iff.1 accepted).2.2
  · intro name resource resources stack r built stage member t h_t
    obtain ⟨-, -, functions, -, h_stages⟩ := ofResource_eq_ok built
    obtain ⟨function, -, h_stage⟩ :=
      exists_left_of_forall₂ (Stage.ofFunctions_eq_ok_iff.1 h_stages) member
    obtain ⟨h_request, h_response⟩ := Stage.templates_ofFunction h_stage
    rw [List.mem_cons, List.mem_singleton] at h_t
    rcases h_t with rfl | rfl
    · exact (ofFields_eq_ok_iff.1 (ofFields_of_read h_request)).1
    · exact (ofFields_eq_ok_iff.1 (ofFields_of_read h_response)).1

/-- A function whose request template is in a file and whose response template is inline. -/
def sourcedFunction : Resource :=
  ⟨Resource.functionKind,
    [("RequestMappingTemplateS3Location", TemplateDirectory.nestedLocation "Query.post.req.vtl"),
      ("ResponseMappingTemplate", .object [("Fn::Sub", .string "$context.result")])], []⟩

theorem sourcedFunction_exactlyOne :
    MappingTemplate.read "Request" ".vtl" true sourcedFunction.properties =
        .ok (some (.file "Query.post.req")) ∧
      (∃ v, MappingTemplate.read "Response" ".vtl" true sourcedFunction.properties =
        .ok (some (.inline v)) ∧ Holds (.object [("Fn::Sub", .string "$context.result")]) v) ∧
      MappingTemplate.read "Request" ".vtl" true [] = .error (.templateNowhere "Request") ∧
      ∃ r stage, ofResource "Post" (pipelineResource "Query" "post" ["Read"])
          (.ofList [("Read", sourcedFunction)]) ".vtl" (some "Blog") = .ok r ∧
        stage ∈ r.stages ∧ ExactlyOne stage.request.inlineField stage.request.fileField := by
  have h_built : ∃ r stage, ofResource "Post" (pipelineResource "Query" "post" ["Read"])
      (.ofList [("Read", sourcedFunction)]) ".vtl" (some "Blog") = .ok r ∧ r.stages = [stage] :=
    ⟨_, _, rfl, rfl⟩
  obtain ⟨r, stage, built, h_stages⟩ := h_built
  have member : stage ∈ r.stages := by simp [h_stages]
  obtain ⟨-, -, h_file, -, -, -, -, h_one⟩ :=
    templates_exactlyOne "Request" ".vtl" true sourcedFunction.properties
  obtain ⟨h_inline, h_holds, -⟩ :=
    templates_exactlyOne "Response" ".vtl" true sourcedFunction.properties
  obtain ⟨-, -, -, -, h_error, -⟩ := templates_exactlyOne "Request" ".vtl" true []
  obtain ⟨v, h_v⟩ := h_inline.2 ⟨nofun, rfl⟩
  refine ⟨(h_file _).2 ⟨rfl, nofun, ?_⟩, ⟨v, h_v, h_holds v h_v⟩,
    (h_error _).2 (.nowhere rfl rfl rfl), r, stage, built, member,
    h_one _ _ _ _ r built stage member _ List.mem_cons_self⟩
  have parent : IsParent "/resolvers/" := Or.inr ⟨"/resolvers", Or.inr rfl⟩
  have segment : IsSegment ("Query.post.req" ++ ".vtl") := ⟨by decide, by decide, by decide⟩
  exact .extended (TemplateDirectory.nestedLocation_carries _) parent segment (by decide)

end Resolver

end ResourceGraph
