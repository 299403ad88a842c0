import ResourceGraph.Text.Quoted
import ResourceGraph.Value

/-! # Writing values

The JSON form of a value, in ASCII only and with the members of an object in their order:
`compact` on one line, `indented` over several.  Other characters are written by their UTF-16
units.
-/

namespace ResourceGraph

namespace Value

/-! ## Text -/

def unitEscape (unit : Nat) : List Char := '\\' :: 'u' :: Text.hex 4 unit

def escapeChar (c : Char) : List Char :=
  if c = '"' ∨ c = '\\' then ['\\', c]
  else if c = '\n' then ['\\', 'n']
  else if c = '\r' then ['\\', 'r']
  else if c = '\t' then ['\\', 't']
  else if c = '\x08' then ['\\', 'b']
  else if c = '\x0c' then ['\\', 'f']
  else if ' ' ≤ c ∧ c ≤ '~' then [c]
  else if c.toNat < 0x10000 then unitEscape c.toNat
  else
    unitEscape (0xd800 + (c.toNat - 0x10000) / 0x400)
      ++ unitEscape (0xdc00 + (c.toNat - 0x10000) % 0x400)

def escape (s : String) : String :=
  String.ofList ('"' :: s.toList.flatMap escapeChar ++ ['"'])

/-! ## One line -/

mutual

def compact : Value → String
  | null => "null"
  | bool b => if b then "true" else "false"
  | integer n => toString n
  | decimal d => d.render
  | string s => escape s
  | array items => "[" ++ String.intercalate ", " (compactItems items) ++ "]"
  | object members => "\x7b" ++ String.intercalate ", " (compactMembers members) ++ "\x7d"
termination_by structural v => v

def compactItems : List Value → List String
  | [] => []
  | v :: vs => compact v :: compactItems vs
termination_by structural vs => vs

def compactMembers : List (String × Value) → List String
  | [] => []
  | (name, v) :: rest => (escape name ++ ": " ++ compact v) :: compactMembers rest
termination_by structural ms => ms

end

/-! ## Several lines -/

/-- The start of a line at a depth, two spaces for each level. -/
def lineStart (depth : Nat) : String := String.ofList ('\n' :: List.replicate (2 * depth) ' ')

/-- Lines between an opening and a closing mark, all one level deeper than the marks. -/
def block (depth : Nat) (opening closing : String) (lines : List String) : String :=
  opening ++ lineStart (depth + 1) ++ String.intercalate ("," ++ lineStart (depth + 1)) lines
    ++ lineStart depth ++ closing

mutual

def indentedAt (depth : Nat) : Value → String
  | array [] => "[]"
  | array (v :: vs) => block depth "[" "]" (indentedItems (depth + 1) (v :: vs))
  | object [] => "\x7b\x7d"
  | object (m :: ms) => block depth "\x7b" "\x7d" (indentedMembers (depth + 1) (m :: ms))
  | null => "null"
  | bool b => if b then "true" else "false"
  | integer n => toString n
  | decimal d => d.render
  | string s => escape s
termination_by structural v => v

def indentedItems (depth : Nat) : List Value → List String
  | [] => []
  | v :: vs => indentedAt depth v :: indentedItems depth vs
termination_by structural vs => vs

def indentedMembers (depth : Nat) : List (String × Value) → List String
  | [] => []
  | (name, v) :: rest => (escape name ++ ": " ++ indentedAt depth v) :: indentedMembers depth rest
termination_by structural ms => ms

end

def indented (v : Value) : String := indentedAt 0 v

end Value

end ResourceGraph
