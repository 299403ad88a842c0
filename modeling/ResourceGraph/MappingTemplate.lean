import ResourceGraph.Expression
import ResourceGraph.Problem

/-! # Mapping templates

Each direction of a resolver or of a pipeline function has a mapping template, written inline or
kept in a file.  A set of properties has one property for either way, and `MappingTemplate.read`
refuses both at once, as it does neither where a template is required.  Of a file only the bare
name is kept, which is the last segment of its location without the extension.
-/

namespace ResourceGraph

/-- A mapping template: inline, text or an expression that is no plain text, or a bare file name. -/
inductive MappingTemplate where
  | inline (template : Value)
  | file (name : String)

namespace MappingTemplate

/-- The directions by the names that properties carry. -/
def request : String := "Request"

def response : String := "Response"

def defaultExtension : String := ".vtl"

def isFile : MappingTemplate → Bool
  | inline _ => false
  | file _ => true

def toValue : MappingTemplate → Value
  | inline template => .object [("inline", template)]
  | file name => .object [("file_name", .string name)]

/-- A template out of two optional fields, of which exactly one must be given. -/
def ofFields (template : Value) (name : Option String) : Except Problem MappingTemplate :=
  match template.given?, name with
  | some template, none => .ok (inline template)
  | none, some name => .ok (file name)
  | given, name => .error ⟨.templateNotExactlyOne given.isSome name, none, none⟩

/-! ## File names -/

/-- Text without the extension at its end; the empty extension and empty text change nothing. -/
def bareName (extension name : String) : String :=
  if extension.isEmpty then name
  else match Text.dropEnd? extension.toList name.toList with
    | some rest => String.ofList rest
    | none => name

/-- Text, unless it is empty. -/
def nonempty? (s : String) : Option String := if s.isEmpty then none else some s

theorem nonempty?_eq_some_iff {s t : String} : nonempty? s = some t ↔ s = t ∧ t ≠ "" := by
  unfold nonempty?
  constructor
  · intro found
    split at found
    · cases found
    next h_some =>
      cases found
      exact ⟨rfl, fun h_empty => h_some (String.isEmpty_iff.2 h_empty)⟩
  · rintro ⟨rfl, h_some⟩
    rw [if_neg fun h_empty => h_some (String.isEmpty_iff.1 h_empty)]

def fileName? (extension : String) (location : Value) : Option String :=
  (location.carrier?.bind Expression.lastSegment?).bind fun name =>
    nonempty? (bareName extension name)

/-! ## Properties -/

def inlineProperty (direction : String) : String := direction ++ "MappingTemplate"

def locationProperty (direction : String) : String := direction ++ "MappingTemplateS3Location"

/-- An inline template out of its property: text where the property is text in disguise. -/
def ofInline (v : Value) : MappingTemplate :=
  match v.render? with
  | some s => inline (.string s)
  | none => inline v

/-- The template of one direction.  Null counts as absent, both ways of writing it down exclude each
    other, and a required template has to be there. -/
def read (direction extension : String) (required : Bool) (properties : List (String × Value)) :
    Except Cause (Option MappingTemplate) :=
  match (Value.member properties (inlineProperty direction)).given?,
      (Value.member properties (locationProperty direction)).given? with
  | some _, some _ => .error (.templateTwice direction)
  | none, some location =>
    match fileName? extension location with
    | some name => .ok (some (file name))
    | none => .error (.templateWithoutFile direction location)
  | some template, none => .ok (some (ofInline template))
  | none, none => if required then .error (.templateNowhere direction) else .ok none

def readOptional (direction extension : String) (stack : Option String) (owner : String)
    (properties : List (String × Value)) : Except Problem (Option MappingTemplate) :=
  match read direction extension false properties with
  | .ok template => .ok template
  | .error cause => .error ⟨cause, stack, some owner⟩

def readRequired (direction extension : String) (stack : Option String) (owner : String)
    (properties : List (String × Value)) : Except Problem MappingTemplate :=
  match read direction extension true properties with
  | .ok (some template) => .ok template
  | .ok none => .error ⟨.templateNowhere direction, stack, some owner⟩
  | .error cause => .error ⟨cause, stack, some owner⟩

end MappingTemplate

end ResourceGraph
