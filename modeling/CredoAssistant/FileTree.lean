import CredoAssistant.Path
import CredoAssistant.SystemError

/-!
A tree of files as data: directories and the contents of files by their absolute places. Relative
paths are seen from a place in the tree.
-/
namespace CredoAssistant

/-- What stands at a place of the tree. -/
inductive FileNode
  | directory
  | file (bytes : List UInt8)
  deriving DecidableEq, Repr

/-- The nodes by their absolute place, and the place that relative paths start from. The root is a
directory without being recorded. -/
structure FileTree where
  home : List String
  nodes : Entries (List String) FileNode
  deriving Repr

namespace FileTree

/-- The places on the way from `above` down along some parts. -/
def placesBelow (above : List String) : List String → List (List String)
  | [] => []
  | part :: rest => (above ++ [part]) :: placesBelow (above ++ [part]) rest

/-- Records a directory and those above it. What is there already stays. -/
def addDirectory (t : FileTree) (place : List String) : FileTree :=
  (placesBelow [] place).foldl
    (fun t p => if Entries.has p t.nodes then t else { t with nodes := (p, .directory) :: t.nodes })
    t

/-- A tree that holds the home directory only. -/
def empty (home : List String) : FileTree := addDirectory ⟨home, []⟩ home

/-- Puts a file at a place, below the directories that lead there. -/
def addFile (t : FileTree) (place : List String) (bytes : List UInt8) : FileTree :=
  let t := t.addDirectory place.dropLast
  { t with nodes := Entries.set place (.file bytes) t.nodes }

/-- Takes a place and all below it out of the tree. -/
def remove (t : FileTree) (place : List String) : FileTree :=
  { t with nodes := t.nodes.filter fun n => !place.isPrefixOf n.1 }

/-- What stands at a place. -/
def node? (t : FileTree) (place : List String) : Option FileNode :=
  if place.isEmpty then some .directory else Entries.get? place t.nodes

def isDirectory (t : FileTree) (place : List String) : Bool := t.node? place == some .directory

/-- The contents of the file at a place. -/
def read? (t : FileTree) (place : List String) : Option (List UInt8) :=
  match t.node? place with
  | some (.file bytes) => some bytes
  | _ => none

/-- The names in a directory, in the order of their characters. -/
def children (t : FileTree) (place : List String) : List String :=
  let below := t.nodes.filterMap fun n =>
    if n.1.dropLast == place then n.1.getLast? else none
  below.mergeSort fun a b => decide (a ≤ b)

/-- The greatest number of bytes in a part of a path. -/
def longestName : Nat := 255

/-- The greatest number of bytes in a path. -/
def longestPath : Nat := 4095

/-- Walks along the parts of a path. Every place before the last must be a directory; the last one
need not be there. -/
def walk (t : FileTree) (place : List String) : List String → Except LookupError (List String)
  | [] => .ok place
  | part :: rest =>
    match t.node? place with
    | none => .error .missing
    | some (.file _) => .error .notDirectory
    | some .directory =>
      if part = ".." then t.walk place.dropLast rest
      else if longestName < part.utf8ByteSize then .error .nameTooLong
      else t.walk (place ++ [part]) rest

/-- The place that a path leads to, seen from the directory `cwd`. -/
def locate (t : FileTree) (cwd : List String) (p : Path) : Except LookupError (List String) :=
  if longestPath < p.text.utf8ByteSize then .error .nameTooLong
  else t.walk (if p.isAbsolute then [] else cwd) p.parts

/-- The directory that a path leads to, seen from the home directory. -/
def directory (t : FileTree) (p : Path) : Except LookupError (List String) := do
  let place ← t.locate t.home p
  match t.node? place with
  | some .directory => .ok place
  | some (.file _) => .error .notDirectory
  | none => .error .missing

/-- The contents of the file that a path names from the home directory, if there is such a file.
Only a path that is too long is an error. -/
def contents? (t : FileTree) (p : Path) : Except SystemError (Option (List UInt8)) :=
  match t.locate t.home p with
  | .ok place => .ok (t.read? place)
  | .error .nameTooLong => .error (LookupError.nameTooLong.toSystemError p.text)
  | .error _ => .ok none

end FileTree

end CredoAssistant
