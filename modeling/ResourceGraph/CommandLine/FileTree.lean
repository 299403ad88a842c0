import ResourceGraph.CommandLine.Path
import ResourceGraph.OrderedMap

/-! # File trees

Files as seen from a working directory.  Each has a place, which is a list of names: two dots at
the front lead above the working directory, and a slash at the front starts from the root.  Any
name is as good as another; no file system is asked how long names may be or which characters they
may hold.

What can be done with a tree is `read`, `filesIn` and `write`, and `FileFault` says how it can
fail.  A change that is interrupted leaves what it has done until then.
-/

namespace ResourceGraph.CommandLine

/-! ## Places -/

/-- Names from the working directory on. -/
abbrev Place := List String

namespace Place

def top : Place := ["/"]

/-- The folder around a place; nothing is around the root. -/
def back (place : Place) : Place :=
  match place.getLast? with
  | none => [".."]
  | some name => if name = ".." then place ++ [".."] else if name = "/" then place else place.dropLast

/-- The place to which a name leads from a place. -/
def step (place : Place) (name : String) : Place :=
  if name = ".." then back place else place ++ [name]

/-- The place from which a path sets out. -/
def startOf (p : Path) : Place := if p.isAbsolute then top else []

/-- The place to which a path leads if all its names can be followed. -/
def ofPath (p : Path) : Place := p.parts.foldl step (startOf p)

def isBelow (place : Place) : Bool :=
  match place.head? with
  | some name => name ≠ ".." && name ≠ "/"
  | none => false

/-- Whether a place is a folder in every tree: the working directory, what is around it, the
    root. -/
def isGiven (place : Place) : Bool := place = top || place.all (· == "..")

def text (place : Place) : String :=
  match place with
  | "/" :: rest => "/" ++ String.intercalate "/" rest
  | _ => String.intercalate "/" place

end Place

/-! ## Trees -/

inductive FileFault where
  | notFound
  | notFolder
  | isFolder
  | fileInTheWay
deriving DecidableEq, Inhabited

/-- Files by place, and folders. -/
structure FileTree where
  files : OrderedMap Place String
  folders : List Place

namespace FileTree

/-- The places that several names lead through, from a place on and without the last one. -/
def waypoints (place : Place) : List String → List Place
  | [] => []
  | name :: rest => place :: waypoints (place.step name) rest

/-- The tree of the given files and folders, for which all folders on the way are there. -/
def ofTexts (files : List (String × String)) (folders : List String) : FileTree :=
  let paths := (files.map Prod.fst).map Path.ofText
  let goals := folders.map Path.ofText
  { files := OrderedMap.ofList (files.map fun entry =>
      (Place.ofPath (Path.ofText entry.1), entry.2))
    folders := (paths ++ goals).flatMap (fun p => waypoints (Place.startOf p) p.parts)
      ++ goals.map Place.ofPath }

def isFile (t : FileTree) (place : Place) : Bool := t.files.contains place

def isFolder (t : FileTree) (place : Place) : Bool := place.isGiven || t.folders.contains place

/-- Go on by several names from a place, which has to be a folder wherever a name follows. -/
def walk (t : FileTree) (place : Place) : List String → Except FileFault Place
  | [] => .ok place
  | name :: rest =>
    if t.isFolder place then walk t (place.step name) rest
    else if t.isFile place then .error .notFolder
    else .error .notFound

/-- The place to which a path leads. -/
def locate (t : FileTree) (p : Path) : Except FileFault Place :=
  walk t (Place.startOf p) p.parts

/-! ## Reading -/

/-- The text of the file to which a path leads. -/
def read (t : FileTree) (p : Path) : Except FileFault String :=
  match t.locate p with
  | .error fault => .error fault
  | .ok place =>
    match t.files.get? place with
    | some text => .ok text
    | none => .error (if t.isFolder place then .isFolder else .notFound)

/-- The names of the files in the folder to which a path leads, none if it leads to no folder. -/
def filesIn (t : FileTree) (p : Path) : List String :=
  match t.locate p with
  | .ok place =>
    t.files.keys.filterMap fun file =>
      match file.getLast? with
      | some name => if file = place ++ [name] then some name else none
      | none => none
  | .error _ => []

/-! ## Writing -/

/-- What stops a change of a tree, and the tree as far as it has been changed. -/
structure Interruption where
  fault : FileFault
  left : FileTree

/-- A tree with all folders along several names from a folder on, some of them `made` before.  A
    file in the way of the last folder, or behind a new one, is met when that folder is made; any
    other is met before, as a folder to go on from that is none. -/
def makeFolders (t : FileTree) (made : Bool) (place : Place) :
    List String → Except Interruption FileTree
  | [] => .ok t
  | name :: rest =>
    let next := place.step name
    if t.isFile next then
      .error ⟨if rest.isEmpty || made then .fileInTheWay else .notFolder, t⟩
    else if t.isFolder next then makeFolders t made next rest
    else makeFolders { t with folders := t.folders ++ [next] } true next rest

def put (t : FileTree) (place : Place) (text : String) : FileTree :=
  { t with files := t.files.insert place text }

/-- A tree with a text in the file to which a path leads; missing folders on the way are made. -/
def write (t : FileTree) (p : Path) (text : String) : Except Interruption FileTree :=
  match t.makeFolders false (Place.startOf p) p.parent.parts with
  | .error interruption => .error interruption
  | .ok made =>
    if made.isFolder (Place.ofPath p) then .error ⟨.isFolder, made⟩
    else .ok (made.put (Place.ofPath p) text)

/-- The files below the working directory that an earlier tree did not have, by their paths. -/
def newFiles (before after : FileTree) : List (String × String) :=
  (after.files.entries.filter fun entry => entry.1.isBelow && !before.isFile entry.1).map
    fun entry => (entry.1.text, entry.2)

end FileTree

end ResourceGraph.CommandLine
