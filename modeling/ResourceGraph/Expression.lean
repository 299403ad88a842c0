import ResourceGraph.Text.Cut
import ResourceGraph.Value

/-! # Text expressions

Text in a template is given plainly or by one of the functions that choose, substitute and join;
all other shapes are `other`.  There are two ways to look at such an expression: `carrier?` picks
the one text that carries the value (the last choice, the format, the last part), `render?` puts
the whole text together, as long as it holds no variable.  The name that stands behind the last
colon or slash is `lastSegment?`.
-/

namespace ResourceGraph

inductive TextFunction where
  | choose
  | substitute
  | join
deriving DecidableEq, Inhabited

namespace TextFunction

def name : TextFunction → String
  | choose => "Fn::If"
  | substitute => "Fn::Sub"
  | join => "Fn::Join"

def ofName? (s : String) : Option TextFunction :=
  if s = "Fn::If" then some choose
  else if s = "Fn::Sub" then some substitute
  else if s = "Fn::Join" then some join
  else none

theorem ofName?_name (f : TextFunction) : ofName? f.name = some f := by
  cases f <;> decide

theorem ofName?_eq_some_iff {s : String} {f : TextFunction} : ofName? s = some f ↔ s = f.name := by
  unfold ofName?
  constructor
  · intro found
    split at found
    · cases found; assumption
    · split at found
      · cases found; assumption
      · split at found
        · cases found; assumption
        · simp at found
  · rintro rfl
    cases f <;> decide

end TextFunction

/-- A value seen as an expression for text. -/
inductive Expression where
  | text (s : String)
  /-- A choice between two expressions, of which the second one stands. -/
  | choice (otherwise : Expression)
  /-- A format with or without values for its variables beside it. -/
  | format (s : String) (bound : Bool)
  /-- Parts joined by a separator; it is absent if it is not text. -/
  | join (separator : Option String) (parts : List Expression)
  | other
deriving Inhabited

namespace Expression

/-! ## Expressions out of values -/

mutual

def ofValue : Value → Expression
  | .string s => .text s
  | .object members => match members with
    | [(name, payload)] => match TextFunction.ofName? name with
      | some .choose => match payload with
        | .array [_, _, otherwise] => .choice (ofValue otherwise)
        | _ => .other
      | some .substitute => match payload with
        | .string s => .format s false
        | .array (.string s :: values) => .format s (!values.isEmpty)
        | _ => .other
      | some .join => match payload with
        | .array [separator, .array parts] => .join separator.text? (ofItems parts)
        | _ => .other
      | none => .other
    | _ => .other
  | _ => .other
termination_by structural v => v

def ofItems : List Value → List Expression
  | [] => []
  | v :: vs => ofValue v :: ofItems vs
termination_by structural vs => vs

end

/-! ## The carrier -/

mutual

/-- The text that carries the value of an expression: of a choice the second one, of a format the
    format itself, of joined parts the last one. -/
def carrier? : Expression → Option String
  | text s => some s
  | choice otherwise => carrier? otherwise
  | format s _ => some s
  | join _ parts => lastCarrier? parts
  | other => none
termination_by structural e => e

/-- The carrier of the last part. -/
def lastCarrier? : List Expression → Option String
  | [] => none
  | e :: rest => match rest with
    | [] => carrier? e
    | _ :: _ => lastCarrier? rest
termination_by structural es => es

end

/-! ## Rendering -/

def mentionsVariable (s : String) : Bool := Text.holds ['$', '\x7b'] s.toList

mutual

/-- The text of an expression, if it is text in disguise. -/
def render? : Expression → Option String
  | text s => some s
  | choice otherwise => render? otherwise
  | format s bound => if bound || mentionsVariable s then none else some s
  | join separator parts =>
    match renderAll? parts, separator with
    | some texts, some s => some (String.intercalate s texts)
    | _, _ => none
  | other => none
termination_by structural e => e

/-- The texts of several expressions, if each is text in disguise. -/
def renderAll? : List Expression → Option (List String)
  | [] => some []
  | e :: rest =>
    match render? e, renderAll? rest with
    | some s, some texts => some (s :: texts)
    | _, _ => none
termination_by structural es => es

end

/-! ## Segments -/

def endsSegment (c : Char) : Bool := c == ':' || c == '/'

/-- What follows the last colon or slash, if anything does. -/
def lastSegment? (s : String) : Option String :=
  match Text.afterLast endsSegment s.toList with
  | [] => none
  | c :: cs => some (String.ofList (c :: cs))

end Expression

namespace Value

def carrier? (v : Value) : Option String := (Expression.ofValue v).carrier?

/-- The text of an expression, if it is text in disguise. -/
def render? (v : Value) : Option String := (Expression.ofValue v).render?

end Value

end ResourceGraph
