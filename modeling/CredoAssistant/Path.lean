import CredoAssistant.Entries

/-!
File paths as text. A path keeps its parent steps as they are written; only resolving removes them.
-/
namespace CredoAssistant

/-- Where a path starts: at a working directory, at the root, or at the root written as two
slashes. -/
inductive Anchor
  | here
  | root
  | doubleRoot
  deriving DecidableEq, Repr

/-- A path without empty and `.` parts. -/
structure Path where
  anchor : Anchor
  parts : List String
  deriving DecidableEq, Repr

/-- The absolute places that stand for another one, as lists of parts. -/
abbrev Links := Entries (List String) (List String)

namespace Path

/-- The parts of a text between slashes. -/
def split (s : String) : List String :=
  go [] s.toList
where
  go (part : List Char) : List Char → List String
    | [] => [String.ofList part.reverse]
    | c :: rest =>
      if c = '/' then String.ofList part.reverse :: go [] rest else go (c :: part) rest

/-- Exactly two slashes at the front are kept apart from one; three are one again. -/
def anchorOf : List Char → Anchor
  | '/' :: '/' :: '/' :: _ => .root
  | '/' :: '/' :: _ => .doubleRoot
  | '/' :: _ => .root
  | _ => .here

/-- Reads a path. -/
def ofText (s : String) : Path :=
  ⟨anchorOf s.toList, (split s).filter fun part => part != "" && part != "."⟩

def isAbsolute (p : Path) : Bool := p.anchor != .here

/-- The written form; the path without parts is a point. -/
def text (p : Path) : String :=
  let body := "/".intercalate p.parts
  match p.anchor with
  | .here => if p.parts.isEmpty then "." else body
  | .root => "/" ++ body
  | .doubleRoot => "//" ++ body

/-- `q` seen from `p`; an absolute `q` stands for itself. -/
def join (p q : Path) : Path :=
  if q.isAbsolute then q else ⟨p.anchor, p.parts ++ q.parts⟩

/-- One step from an absolute place. A parent step at the root stays there. -/
def follow (links : Links) (place : List String) (part : String) : List String :=
  if part = ".." then place.dropLast
  else
    let next := place ++ [part]
    (Entries.get? next links).getD next

/-- The absolute place that a list of parts leads to. -/
def resolve (links : Links) (parts : List String) : List String :=
  parts.foldl (follow links) []

/-- Whether a part holds a character that no file name can hold. -/
def hasNull (p : Path) : Bool := p.parts.any fun part => part.toList.contains '\x00'

/-- What is said about a null character. -/
def nullMessage : String := "embedded null byte"

end Path

end CredoAssistant
