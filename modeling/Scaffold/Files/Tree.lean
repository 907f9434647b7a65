import Scaffold.Path

/-! A file system as a value. -/
namespace Scaffold

inductive FileNode
  | file (text : String)
  | folder
deriving DecidableEq

/-- The segments from the root. -/
abbrev Location := List String

structure FileTree where
  entries : List (Location × FileNode) := []
  workingFolder : Location := []

namespace FileTree

/-- The root is always there. -/
def node? (t : FileTree) (l : Location) : Option FileNode :=
  if l = [] then some .folder else t.entries.lookup l

def put (t : FileTree) (l : Location) (n : FileNode) : FileTree :=
  { t with entries := (l, n) :: t.entries.filter (·.1 != l) }

/-- Names are limited in length, and none holds the null character. -/
def usableName (s : String) : Bool := s.utf8ByteSize ≤ 255 && !s.toList.contains '\x00'

def usablePath (p : String) : Bool :=
  !p.isEmpty && p.utf8ByteSize < 4096 && !p.toList.contains '\x00'

def start (t : FileTree) (p : String) : Location :=
  if Path.isAbsolute p then [] else t.workingFolder

/-- Every segment but the last leads on from a folder that is there. -/
def walk (t : FileTree) (l : Location) : List String → Option Location
  | [] => some l
  | s :: rest =>
    if t.node? l != some .folder then none
    else if s == "" || s == "." then t.walk l rest
    else if s == ".." then t.walk l.dropLast rest
    else if usableName s then t.walk (l ++ [s]) rest
    else none

def locate? (t : FileTree) (p : String) : Option Location :=
  if usablePath p then t.walk (t.start p) (Path.segments p) else none

def find? (t : FileTree) (p : String) : Option FileNode := (t.locate? p).bind t.node?

def read? (t : FileTree) (p : String) : Option String :=
  match t.find? p with
  | some (.file text) => some text
  | _ => none

def isPresent (t : FileTree) (p : String) : Bool := (t.find? p).isSome

/-- Walks on and makes the folders that are missing. Those made before a failure stay. -/
def makeFolders (t : FileTree) (l : Location) : List String → FileTree × Option Location
  | [] => (t, some l)
  | s :: rest =>
    if s == "" || s == "." then t.makeFolders l rest
    else if s == ".." then t.makeFolders l.dropLast rest
    else if usableName s then
      let next := l ++ [s]
      match t.node? next with
      | some .folder => t.makeFolders next rest
      | some (.file _) => (t, none)
      | none => (t.put next .folder).makeFolders next rest
    else (t, none)

/-- Nothing but a working folder. -/
def ofFolder (l : Location) : FileTree :=
  let empty : FileTree := {}
  { (empty.makeFolders [] l).1 with workingFolder := l }

def putFile (t : FileTree) (l : Location) (name text : String) : FileTree × Bool :=
  let target := l ++ [name]
  if ["", ".", ".."].contains name || !usableName name || t.node? target == some .folder then
    (t, false)
  else (t.put target (.file text), true)

/-- Writes a file, with the folders above it; tells whether that succeeded. -/
def write (t : FileTree) (p text : String) : FileTree × Bool :=
  if usablePath p then
    let segments := Path.segments p
    match t.makeFolders (t.start p) segments.dropLast with
    | (t, some l) => t.putFile l (segments.getLast?.getD "") text
    | (t, none) => (t, false)
  else (t, false)

/-- The texts of all files below the working folder, by path from there. -/
def filesBelow (t : FileTree) : List (String × String) :=
  t.entries.filterMap fun (l, n) =>
    match n with
    | .file text =>
      if t.workingFolder.isPrefixOf l then
        some ("/".intercalate (l.drop t.workingFolder.length), text)
      else none
    | .folder => none

end FileTree

end Scaffold
