import CredoAssistant.FileTree
import CredoAssistant.Shell.Octets

/-!
The files as the processes of a shell see them: numbered nodes, with directories that give names to
some of them. A file can have several names, and a symbolic link leads on to another path.
-/
namespace CredoAssistant.Shell

/-- Why the system refuses something. -/
inductive Fault
  | missing
  | notDirectory
  | isDirectory
  | nameTooLong
  | tooManyLinks
  | occupied
  | notEmpty
  | badStream
  | noDevice
  | invalid
  | denied
  | notPermitted
  | busy
  | full
  deriving DecidableEq, Repr

/-- What the system says about it. -/
def Fault.reason : Fault → String
  | missing => "No such file or directory"
  | notDirectory => "Not a directory"
  | isDirectory => "Is a directory"
  | nameTooLong => "File name too long"
  | tooManyLinks => "Too many levels of symbolic links"
  | occupied => "File exists"
  | notEmpty => "Directory not empty"
  | badStream => "Bad file descriptor"
  | noDevice => "No such device or address"
  | invalid => "Invalid argument"
  | denied => "Permission denied"
  | notPermitted => "Operation not permitted"
  | busy => "Device or resource busy"
  | full => "No space left on device"

/-- What a node of the disk holds. A program is a file whose bytes the machine runs, and a directory
knows the one that it stands in. -/
inductive Content
  | regular (bytes : List UInt8)
  | program (name : String)
  | directory (parent : Nat) (names : Entries String Nat)
  | link (target : String)
  | pipe
  | device
  deriving Repr

/-- A node of the disk: what it holds, its permissions, whom it belongs to, and when it was changed
and read. Times are in nanoseconds since the year 1970. -/
structure Inode where
  content : Content
  mode : Nat
  owner : Nat
  group : Nat
  changed : Int
  accessed : Int
  deriving Repr

/-- The nodes by their numbers, and the next number. -/
structure Disk where
  inodes : Entries Nat Inode
  next : Nat
  deriving Repr

/-- Where a path leads: to a name in a directory, and to the node under that name, if there is one.
A path that ends in the directory itself has no name. -/
structure Spot where
  parent : Nat
  name : String
  found : Option Nat
  deriving DecidableEq, Repr

namespace Content

def isDirectory : Content → Bool
  | directory .. => true
  | _ => false

def isLink : Content → Bool
  | link _ => true
  | _ => false

/-- Whether bytes are kept under the node. -/
def isFile : Content → Bool
  | regular _ => true
  | program _ => true
  | _ => false

/-- The first bytes of a program. -/
def programBytes : List UInt8 := [127, 69, 76, 70, 2, 1, 1, 0]

/-- The bytes that are read from a node. -/
def bytes : Content → List UInt8
  | regular bytes => bytes
  | program _ => programBytes
  | _ => []

end Content

namespace Inode

def isDirectory (i : Inode) : Bool := i.content.isDirectory

def isLink (i : Inode) : Bool := i.content.isLink

def isFile (i : Inode) : Bool := i.content.isFile

def bytes (i : Inode) : List UInt8 := i.content.bytes

/-- Whether somebody may run it. -/
def runs (i : Inode) : Bool := i.mode &&& 73 != 0

/-- How many bytes it holds; a directory counts as a block. -/
def size (i : Inode) : Nat :=
  match i.content with
  | .directory .. => 4096
  | .link target => target.length
  | .program _ => 39432
  | content => content.bytes.length

end Inode

namespace Disk

/-- The number of the root directory. -/
def root : Nat := 0

/-- A disk with nothing but its root. -/
def empty (now : Int) : Disk := ⟨[(root, ⟨.directory root [], 493, 0, 0, now, now⟩)], root + 1⟩

def get? (d : Disk) (n : Nat) : Option Inode := Entries.get? n d.inodes

def update (d : Disk) (n : Nat) (f : Inode → Inode) : Disk :=
  { d with inodes := d.inodes.map fun e => if e.1 == n then (n, f e.2) else e }

def isDirectory (d : Disk) (n : Nat) : Bool := (d.get? n).any Inode.isDirectory

/-- What a directory gives names to. -/
def names (d : Disk) (n : Nat) : Entries String Nat :=
  match (d.get? n).map Inode.content with
  | some (.directory _ names) => names
  | _ => []

/-- The directory that another one stands in. -/
def parent (d : Disk) (n : Nat) : Nat :=
  match (d.get? n).map Inode.content with
  | some (.directory parent _) => parent
  | _ => root

/-- The names in a directory, in the order of their bytes. -/
def children (d : Disk) (n : Nat) : List String :=
  (d.names n).keys.mergeSort fun a b => decide (a ≤ b)

def bytes (d : Disk) (n : Nat) : List UInt8 := ((d.get? n).map Inode.bytes).getD []

/-- Whether a directory still stands in the tree. -/
def isAttached (d : Disk) (n : Nat) : Bool :=
  n == root || (d.names (d.parent n)).any fun e => e.2 == n

/-- How many names a node has; a directory is also named by itself and by those in it. -/
def linkCount (d : Disk) (n : Nat) : Nat :=
  if d.isDirectory n then 2 + (d.names n).countP fun e => d.isDirectory e.2
  else (d.inodes.flatMap fun e => d.names e.1).countP fun e => e.2 == n

/-! Paths -/

/-- The greatest number of bytes in a part of a path. -/
def longestName : Nat := 255

/-- The greatest number of bytes in a path. -/
def longestPath : Nat := 4095

/-- How many symbolic links a path may lead over. -/
def mostLinks : Nat := 40

/-- The parts of a path. -/
def partsOf (path : String) : List String := (Path.split path).filter (· != "")

/-- Walks along the parts of a path from a directory on. A symbolic link leads on to its target; at
the end of the path it does so only with `follow`. -/
def walk (d : Disk) (follow : Bool) (links dir : Nat) : List String → Except Fault Spot
  | [] => .ok ⟨dir, "", some dir⟩
  | part :: rest =>
    match (d.get? dir).map Inode.content with
    | some (.directory parent names) =>
      if part = "." then d.walk follow links dir rest
      else if part = ".." then d.walk follow links parent rest
      else if longestName < part.length then .error .nameTooLong
      else
        match Entries.get? part names with
        | none => if rest.isEmpty then .ok ⟨dir, part, none⟩ else .error .missing
        | some n =>
          match (d.get? n).map Inode.content with
          | some (.link target) =>
            if rest.isEmpty && !follow then .ok ⟨dir, part, some n⟩
            else
              match links with
              | 0 => .error .tooManyLinks
              | links + 1 =>
                let start := if target.startsWith "/" then root else dir
                d.walk follow links start (partsOf target ++ rest)
          | _ => if rest.isEmpty then .ok ⟨dir, part, some n⟩ else d.walk follow links n rest
    | _ => .error .notDirectory
termination_by parts => (links, parts.length)

/-- Where a path leads from a directory. A slash at its end asks for a directory. -/
def resolve (d : Disk) (follow : Bool) (dir : Nat) (path : String) : Except Fault Spot := do
  if path = "" then throw .missing
  if longestPath < path.length then throw .nameTooLong
  let ends := path.endsWith "/"
  let start := if path.startsWith "/" then root else dir
  let spot ← d.walk (follow || ends) mostLinks start (partsOf path)
  match spot.found with
  | some n => if ends && !d.isDirectory n then throw .notDirectory else pure spot
  | none => pure spot

/-- The names on the way from the root to a directory. -/
def placeOf (d : Disk) : Nat → Nat → List String → List String
  | 0, _, below => below
  | fuel + 1, n, below =>
    if n = root then below
    else
      let parent := d.parent n
      match (d.names parent).find? fun e => e.2 == n with
      | some (name, _) => d.placeOf fuel parent (name :: below)
      | none => below

/-- The absolute path of a directory. -/
def directoryPath (d : Disk) (n : Nat) : String :=
  "/" ++ "/".intercalate (d.placeOf d.next n [])

/-! Changes -/

/-- Sets the time of the last change. -/
def touch (d : Disk) (now : Int) (n : Nat) : Disk :=
  d.update n fun i => { i with changed := now }

/-- Changes what a directory gives names to. -/
def rename (d : Disk) (now : Int) (dir : Nat)
    (f : Entries String Nat → Entries String Nat) : Disk :=
  d.update dir fun i =>
    match i.content with
    | .directory parent names => { i with content := .directory parent (f names), changed := now }
    | _ => i

/-- Gives a name to a node. -/
def addName (d : Disk) (now : Int) (dir : Nat) (name : String) (n : Nat) : Disk :=
  d.rename now dir (Entries.set name n)

/-- Takes a name out of a directory. -/
def dropName (d : Disk) (now : Int) (dir : Nat) (name : String) : Disk :=
  d.rename now dir (Entries.erase name)

/-- Makes a node under a name: the disk and the number of the node. -/
def add (d : Disk) (now : Int) (dir : Nat) (name : String) (content : Content) (mode : Nat) :
    Disk × Nat :=
  let n := d.next
  let content :=
    match content with
    | .directory _ names => .directory dir names
    | content => content
  let inode : Inode := ⟨content, mode, 0, 0, now, now⟩
  (({ inodes := Entries.set n inode d.inodes, next := n + 1 } : Disk).addName now dir name n, n)

/-- Puts bytes into a file. -/
def write (d : Disk) (now : Int) (n : Nat) (bytes : List UInt8) : Disk :=
  d.update n fun i => { i with content := .regular bytes, changed := now }

/-- Moves a node from one name to another one. A directory learns where it stands now. -/
def move (d : Disk) (now : Int) (source target : Spot) : Disk :=
  match source.found with
  | none => d
  | some n =>
    let d := (d.dropName now source.parent source.name).addName now target.parent target.name n
    d.update n fun i =>
      match i.content with
      | .directory _ names => { i with content := .directory target.parent names }
      | _ => i

/-! The disk at the start -/

/-- Makes the directories on the way along some names: the disk and the last of them. -/
def addDirectories (d : Disk) (now : Int) (dir : Nat) : List String → Disk × Nat
  | [] => (d, dir)
  | name :: rest =>
    match Entries.get? name (d.names dir) with
    | some n => d.addDirectories now n rest
    | none =>
      let (d, n) := d.add now dir name (.directory dir []) 493
      d.addDirectories now n rest

/-- Puts something under an absolute place, below the directories that lead there. -/
def put (d : Disk) (now : Int) (place : List String) (content : Content) (mode : Nat) : Disk :=
  match place.getLast? with
  | none => d
  | some name =>
    let (d, dir) := d.addDirectories now root place.dropLast
    (d.add now dir name content mode).1

/-- The disk that holds the files of a tree. -/
def ofTree (now : Int) (t : FileTree) : Disk :=
  t.nodes.reverse.foldl
    (fun d (place, node) =>
      let place := place.map Octets.ofText
      match node with
      | .directory => (d.addDirectories now root place).1
      | .file bytes => d.put now place (.regular bytes) 420)
    (empty now)

end Disk

end CredoAssistant.Shell
