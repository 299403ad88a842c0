import ResourceGraph.Text.Quoted
import ResourceGraph.Value

/-! # Values inside messages

How a value reads inside a message: text as it is, anything else in the one-line form `spell` with
quoted text, brackets and commas.  The words for null and the truth values are in a `Spelling`.
-/

namespace ResourceGraph

/-- The words for the values that have no digits and no characters of their own. -/
structure Spelling where
  null : String
  yes : String
  no : String

def Spelling.messages : Spelling := ⟨"None", "True", "False"⟩

namespace Value

mutual

def spell (words : Spelling) : Value → String
  | null => words.null
  | bool b => if b then words.yes else words.no
  | integer n => toString n
  | decimal d => d.render
  | string s => String.ofList (Text.quote s.toList)
  | array items => "[" ++ String.intercalate ", " (spellItems words items) ++ "]"
  | object members => "\x7b" ++ String.intercalate ", " (spellMembers words members) ++ "\x7d"
termination_by structural v => v

def spellItems (words : Spelling) : List Value → List String
  | [] => []
  | v :: vs => spell words v :: spellItems words vs
termination_by structural vs => vs

/-- The one-line forms of several members, each with its name. -/
def spellMembers (words : Spelling) : List (String × Value) → List String
  | [] => []
  | (name, v) :: rest =>
    (String.ofList (Text.quote name.toList) ++ ": " ++ spell words v) :: spellMembers words rest
termination_by structural ms => ms

end

def display : Value → String
  | string s => s
  | v => v.spell Spelling.messages

end Value

end ResourceGraph
