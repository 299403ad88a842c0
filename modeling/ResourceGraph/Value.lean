import ResourceGraph.Decimal
import ResourceGraph.OrderedMap

/-! # Values

The data that templates, settings and answers are made of: null, truth values, numbers, text,
arrays, and objects whose members keep their order.

The functions here ask something of a value.  Some always have an answer, such as `isVacant`,
which holds of values that count as not given, and `member`, for which an absent member is null.
Others (`field`, `items`, `scalar?`) can fail with a `Fault`, when a value has the wrong shape for
what is asked of it.
-/

namespace ResourceGraph

inductive Value where
  | null
  | bool (b : Bool)
  | integer (n : Int)
  | decimal (d : Decimal)
  | string (s : String)
  | array (items : List Value)
  | object (members : List (String × Value))
deriving Inhabited

/-- What goes wrong when a value has the wrong shape for what is asked of it. -/
inductive Fault where
  /-- Members or text operations were asked of a value that has none. -/
  | lacksOperation
  /-- A loop, an index or a look-up was asked of a value that supports none. -/
  | wrongType
  | notPairs
  /-- A member that has to be there is missing. -/
  | missingMember
deriving DecidableEq, Inhabited

namespace Value

/-! ## Simple views -/

/-- Values that count as not given: null, false, zero, and empty text, arrays and objects. -/
def isVacant : Value → Bool
  | null => true
  | bool b => !b
  | integer n => n == 0
  | decimal d => d.isZero
  | string s => s.isEmpty
  | array items => items.isEmpty
  | object members => members.isEmpty

def text? : Value → Option String
  | string s => some s
  | _ => none

def members? : Value → Option (List (String × Value))
  | object members => some members
  | _ => none

/-- The value itself, unless it is null. -/
def given? : Value → Option Value
  | null => none
  | v => some v

def ofText? : Option String → Value
  | some s => string s
  | none => null

/-- The member of that name in a list of members, null if there is none. -/
def member (members : List (String × Value)) (name : String) : Value :=
  (OrderedMap.lookup name members).getD null

/-- The member of that name, null if there is none; only objects have members. -/
def field (v : Value) (name : String) : Except Fault Value :=
  match v with
  | object members => .ok (member members name)
  | _ => .error .lacksOperation

/-- What a loop meets: the items of an array, the names in an object, the characters of text. -/
def items : Value → Except Fault (List Value)
  | array items => .ok items
  | object members => .ok (members.map fun entry => string entry.1)
  | string s => .ok (s.toList.map fun c => string (String.ofList [c]))
  | _ => .error .wrongType

/-- What a loop meets, nothing if the value counts as not given. -/
def itemsIfGiven (v : Value) : Except Fault (List Value) :=
  if v.isVacant then .ok [] else v.items

/-- The member of an object, nothing at all if the object counts as not given. -/
def fieldIfGiven (v : Value) (name : String) : Except Fault Value :=
  if v.isVacant then .ok null else v.field name

@[simp] theorem text?_string (s : String) : (string s).text? = some s := rfl

theorem text?_eq_some_iff {v : Value} {s : String} : v.text? = some s ↔ v = string s := by
  cases v <;> simp [text?]

theorem given?_eq_none_iff {v : Value} : v.given? = none ↔ v = null := by
  cases v <;> simp [given?]

theorem given?_eq_some_iff {v w : Value} : v.given? = some w ↔ v = w ∧ v ≠ null := by
  cases v <;> simp [given?]

theorem given?_of_ne_null {v : Value} (h : v ≠ null) : v.given? = some v :=
  given?_eq_some_iff.2 ⟨rfl, h⟩

end Value

/-! ## Keys -/

/-- A value that can serve as a key, truth values as the numbers zero and one. -/
inductive Scalar where
  | null
  | number (d : Decimal)
  | text (s : String)
deriving DecidableEq, Inhabited

/-- The key that a value makes; arrays and objects make none. -/
def Value.scalar? : Value → Except Fault Scalar
  | .null => .ok .null
  | .bool b => .ok (.number (Decimal.ofInt (if b then 1 else 0)))
  | .integer n => .ok (.number (Decimal.ofInt n))
  | .decimal d => .ok (.number d.canonical)
  | .string s => .ok (.text s)
  | .array _ => .error .wrongType
  | .object _ => .error .wrongType

namespace Value

def pair (item : Value) : Except Fault (Value × Value) := do
  match ← item.items with
  | [key, value] => (fun _ => (key, value)) <$> key.scalar?
  | _ => .error .notPairs

/-- The list of pairs that a value stands for: an object gives its members, anything else that can
    be looped over gives its items, each of which must hold a key and a value. -/
def pairs : Value → Except Fault (List (Value × Value))
  | object members => .ok (members.map fun entry => (string entry.1, entry.2))
  | v => do (← v.items).mapM pair

end Value

end ResourceGraph
