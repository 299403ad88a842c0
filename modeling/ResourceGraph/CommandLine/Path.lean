import ResourceGraph.Text.Cut

/-! # Paths

A path is a root, if it has one, and the names on the way.  Empty names and single dots do not
count when a path is read, so its text need not come back.  `append` goes on from the end of a
path, but a path with a root starts afresh.
-/

namespace ResourceGraph.CommandLine

/-- A path; two slashes at its front are a root of their own. -/
structure Path where
  root : String
  parts : List String
deriving DecidableEq, Inhabited

namespace Path

def rootOf (cs : List Char) : String :=
  match cs with
  | '/' :: '/' :: '/' :: _ => "/"
  | '/' :: '/' :: _ => "//"
  | '/' :: _ => "/"
  | _ => ""

/-- The names that count among the pieces of a text. -/
def partsOf (cs : List Char) : List String :=
  ((Text.pieces '/' cs).filter fun piece => piece ≠ [] ∧ piece ≠ ['.']).map String.ofList

def ofText (text : String) : Path := ⟨rootOf text.toList, partsOf text.toList⟩

/-- The text of a path; a path without names is the place itself. -/
def text (p : Path) : String :=
  match p.root, p.parts with
  | "", [] => "."
  | root, parts => root ++ String.intercalate "/" parts

def isAbsolute (p : Path) : Bool := p.root ≠ ""

/-- A path from the end of another one. -/
def append (p q : Path) : Path := if q.isAbsolute then q else ⟨p.root, p.parts ++ q.parts⟩

/-- The path without its last name. -/
def parent (p : Path) : Path := ⟨p.root, p.parts.dropLast⟩

/-- Names on the way are kept by appending a path without a root. -/
theorem parts_append {p q : Path} (h_relative : q.isAbsolute = false) :
    (p.append q).parts = p.parts ++ q.parts := by
  simp [append, h_relative]

end Path

end ResourceGraph.CommandLine
