import ResourceGraph.Expression
import ResourceGraph.Template.Resource

/-! # References

A property points at another resource by literal text, by name, by one of its attributes, or by an
expression whose last segment is the name.  A reference is read off a value first and resolved
then.  A value that spells no reference and an attribute of an unknown resource are problems to
strict resolution, and no name to lenient resolution.
-/

namespace ResourceGraph

inductive Reference where
  | literal (s : String)
  | named (resource : String)
  | attributeOf (resource member : String)
  | interpolated (function : TextFunction) (payload : Value)

/-- Whether a reference has to lead somewhere. -/
inductive Strictness where
  | strict
  | lenient
deriving DecidableEq, Inhabited

namespace Reference

/-! ## Spelling -/

/-- The resource and the attribute in dotted text, cut at the first dot. -/
def splitDot (s : String) : Option (String × String) :=
  match Text.pieces '.' s.toList with
  | resource :: member :: more =>
    some (String.ofList resource, String.ofList (Text.join '.' (member :: more)))
  | _ => none

def ofAttributePayload (payload : Value) : Except Cause Reference :=
  match payload with
  | .string s =>
    match splitDot s with
    | some (resource, member) => .ok (.attributeOf resource member)
    | none => .error (.malformedAttributeLookup payload)
  | .array [.string resource, .string member] => .ok (.attributeOf resource member)
  | _ => .error (.malformedAttributeLookup payload)

def ofGiven (v : Value) : Except Cause Reference :=
  match v with
  | .string s => .ok (.literal s)
  | .object [(name, payload)] =>
    if name = "Ref" then
      match payload with
      | .string resource => .ok (.named resource)
      | _ => .error (.unrecognisedExpression v)
    else if name = "Fn::GetAtt" then ofAttributePayload payload
    else match TextFunction.ofName? name with
      | some function => .ok (.interpolated function payload)
      | none => .error (.unrecognisedExpression v)
  | _ => .error (.unrecognisedExpression v)

/-- The reference that a value spells; null spells none. -/
def ofValue (v : Value) : Except Cause (Option Reference) :=
  match v with
  | .null => .ok none
  | _ =>
    match ofGiven v with
    | .ok reference => .ok (some reference)
    | .error cause => .error cause

def toValue : Reference → Value
  | literal s => .string s
  | named resource => .object [("Ref", .string resource)]
  | attributeOf resource member =>
    .object [("Fn::GetAtt", .array [.string resource, .string member])]
  | interpolated function payload => .object [(function.name, payload)]

/-- Every reference is spelled by some value. -/
theorem ofValue_toValue (reference : Reference) :
    ofValue reference.toValue = .ok (some reference) := by
  cases reference with
  | literal s => rfl
  | named resource => rfl
  | attributeOf resource member => rfl
  | interpolated function payload => cases function <;> rfl

/-! ## Resolving -/

def resolve (mode : Strictness) (resources : ResourceMap) (stack : Option String) :
    Reference → Except Problem (Option String)
  | literal s => .ok (some s)
  | named resource => .ok (some resource)
  | attributeOf resource member =>
    if resources.contains resource then .ok (some resource)
    else match mode with
      | .strict => .error ⟨.danglingLookup resource member, stack, none⟩
      | .lenient => .ok none
  | interpolated function payload =>
    .ok ((Value.object [(function.name, payload)]).carrier?.bind Expression.lastSegment?)

def resolveOption (mode : Strictness) (resources : ResourceMap) (stack : Option String)
    (reference : Option Reference) : Except Problem (Option String) :=
  match reference with
  | none => .ok none
  | some reference => reference.resolve mode resources stack

/-- The name that a value stands for; a value that spells no reference is a problem or stands for
    nothing. -/
def resolveValue (mode : Strictness) (resources : ResourceMap) (stack : Option String)
    (v : Value) : Except Problem (Option String) :=
  match ofValue v with
  | .ok reference => resolveOption mode resources stack reference
  | .error cause =>
    match mode with
    | .strict => .error ⟨cause, none, none⟩
    | .lenient => .ok none

/-- The resource of an optional name, together with the name. -/
def fetch (resources : ResourceMap) (name : Option String) : Option (String × Resource) :=
  name.bind fun name => (resources.get? name).map (name, ·)

/-- The resource to which a value points, together with its name. -/
def find (mode : Strictness) (resources : ResourceMap) (stack : Option String) (v : Value) :
    Except Problem (Option (String × Resource)) :=
  match resolveValue mode resources stack v with
  | .ok name => .ok (fetch resources name)
  | .error problem => .error problem

end Reference

end ResourceGraph
