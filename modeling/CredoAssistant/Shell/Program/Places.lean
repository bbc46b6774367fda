import CredoAssistant.Shell.Program.Common

/-!
Paths in programs: their last parts, and the places that they lead to when no symbolic link is left
in them.
-/
namespace CredoAssistant.Shell.Program

/-- The last part of a path. -/
def lastPart (path : String) : String :=
  (Disk.partsOf path).getLast?.getD (if path.startsWith "/" then "/" else path)

/-- A path below another one. -/
def under (dir name : String) : String :=
  if dir.endsWith "/" then dir ++ name else dir ++ "/" ++ name

/-- A path without the slashes at its end. -/
def bare (path : String) : String :=
  let cs := (path.toList.reverse.dropWhile (· == '/')).reverse
  if cs.isEmpty && path.startsWith "/" then "/" else String.ofList cs

/-- The path of the directory that a path leads into. -/
def leadingPart (path : String) : String :=
  let cs := (bare path).toList
  let front := (cs.reverse.dropWhile (· != '/')).reverse
  if front.isEmpty then "." else bare (String.ofList front)

/-- A file and all below it, the directories first. Symbolic links inside are not followed. -/
def tree : Nat → String → Run (List String)
  | 0, path => pure [path]
  | fuel + 1, path => do
    match ← Run.node false path with
    | .ok (n, i) => do
      if !i.isDirectory then pure [path]
      else do
        let below ← (← Run.disk).children n |>.mapM fun name => tree fuel (under path name)
        pure (path :: below.flatten)
    | .error _ => pure [path]

/-- What of a path has to be there: nothing, all but its last part, or all. -/
inductive Demand
  | nothing
  | parents
  | everything
  deriving DecidableEq, Repr

/-- The absolute path that a path from a directory leads to. Where nothing has to be there, the rest
of a path that leads nowhere is taken as it is written. -/
def canonicalFrom (d : Disk) (demand : Demand) : Nat → List String → Nat → List String →
    Except Fault (List String)
  | _, front, _, [] => .ok front
  | 0, _, _, _ => .error .tooManyLinks
  | fuel + 1, front, dir, part :: rest =>
    let lexical : List String := (part :: rest).foldl
      (fun acc p => if p = "." then acc else if p = ".." then acc.dropLast else acc ++ [p]) front
    if !d.isDirectory dir then
      if demand = .nothing then .ok lexical else .error .notDirectory
    else if part = "." then canonicalFrom d demand fuel front dir rest
    else if part = ".." then canonicalFrom d demand fuel front.dropLast (d.parent dir) rest
    else
      match Entries.get? part (d.names dir) with
      | none =>
        if demand = .nothing then .ok lexical
        else if demand = .parents && rest.isEmpty then .ok (front ++ [part])
        else .error .missing
      | some n =>
        match (d.get? n).map Inode.content with
        | some (.link target) =>
          let parts := Disk.partsOf target ++ rest
          if target.startsWith "/" then canonicalFrom d demand fuel [] Disk.root parts
          else canonicalFrom d demand fuel front dir parts
        | _ => canonicalFrom d demand fuel (front ++ [part]) n rest

/-- The absolute path that a path leads to. -/
def canonical (demand : Demand) (path : String) : Run (Except Fault String) := do
  let m ← get
  let d := m.system.disk
  if path = "" then pure (.error .missing)
  else do
    let parts := Disk.partsOf path
    let isAbsolute := path.startsWith "/"
    let front := if isAbsolute then [] else d.placeOf d.next m.place []
    let dir := if isAbsolute then Disk.root else m.place
    let fuel := 40 * (parts.length + 10)
    let found := canonicalFrom d demand fuel front dir parts
    let text := found.map fun places => "/" ++ "/".intercalate places
    match text with
    | .ok full =>
      let isFile := (← Run.node true full).toOption.any fun e => e.2.isFile
      if demand != .nothing && path.endsWith "/" && isFile then pure (.error .notDirectory)
      else pure text
    | .error _ => pure text

/-- The path to a place from a directory, both absolute. -/
def relativeTo (base path : String) : String :=
  let start := Disk.partsOf base
  let goal := Disk.partsOf path
  let same := ((start.zip goal).takeWhile fun p => p.1 == p.2).length
  let steps := List.replicate (start.length - same) ".." ++ goal.drop same
  if steps.isEmpty then "." else "/".intercalate steps

def realpath : Body := fun self args => do
  let a ← arguments self
    (.ofText "eLmPqsz\x01:\x02:"
      [("canonicalize-existing", 'e'), ("canonicalize-missing", 'm'), ("logical", 'L'),
        ("physical", 'P'), ("quiet", 'q'), ("strip", 's'), ("no-symlinks", 's'), ("zero", 'z'),
        ("relative-to", '\x01'), ("relative-base", '\x02')])
    1 args
  if a.operands.isEmpty then misuse self "missing operand" 1
  let demand : Demand :=
    if a.has 'e' then .everything else if a.has 'm' then .nothing else .parents
  let close := if a.has 'z' then "\x00" else "\n"
  let found (path : String) : Run (Except Fault String) := do
    if a.has 's' then do
      let m ← get
      let full :=
        if path.startsWith "/" then path else m.system.disk.directoryPath m.place ++ "/" ++ path
      let parts := (Disk.partsOf full).foldl
        (fun acc p => if p = "." then acc else if p = ".." then acc.dropLast else acc ++ [p]) []
      let text := "/" ++ "/".intercalate parts
      match ← Run.spot true text with
      | .error e => pure (if demand = .nothing then .ok text else .error e)
      | .ok s =>
        pure (if s.found.isNone && demand = .everything then .error .missing else .ok text)
    else canonical demand path
  let base ←
    match a.value? '\x01' with
    | none => pure none
    | some dir => do
      match ← found dir with
      | .ok text => pure (some text)
      | .error e => do
        complain self s!"{← shellName false dir}: {e.reason}"
        quit 1
  let failed ← anyFails a.operands fun path => do
    match ← found path with
    | .error e =>
      if a.has 'q' then pure true else fails self s!"{← shellName false path}: {e.reason}"
    | .ok text => do
      putText self ((base.elim text fun b => relativeTo b text) ++ close)
      pure false
  pure (statusOf failed)

def readlink : Body := fun self args => do
  let a ← arguments self
    (.ofText "efmnqsvz"
      [("canonicalize", 'f'), ("canonicalize-existing", 'e'), ("canonicalize-missing", 'm'),
        ("no-newline", 'n'), ("quiet", 'q'), ("silent", 's'), ("verbose", 'v'), ("zero", 'z')])
    1 args
  if a.operands.isEmpty then misuse self "missing operand" 1
  let several := 1 < a.operands.length
  if several && a.has 'n' then complain self "ignoring --no-newline with multiple arguments"
  let close := if a.has 'z' then "\x00" else if a.has 'n' && !several then "" else "\n"
  let demand? : Option Demand :=
    if a.has 'e' then some .everything
    else if a.has 'f' then some .parents
    else if a.has 'm' then some .nothing
    else none
  let failed ← anyFails a.operands fun path => do
    let found : Except Fault String ←
      match demand? with
      | some demand => canonical demand path
      | none =>
        match ← Run.node false path with
        | .error e => pure (.error e)
        | .ok (_, i) =>
          match i.content with
          | .link target => pure (.ok target)
          | _ => pure (.error .invalid)
    match found with
    | .ok text => do
      putText self (text ++ close)
      pure false
    | .error e =>
      if a.has 'v' then fails self s!"{← shellName false path}: {e.reason}" else pure true
  pure (statusOf failed)

def pwd : Body := fun self args => do
  let a ← arguments self (.ofText "LP" [("logical", 'L'), ("physical", 'P')]) 1 args
  if !a.operands.isEmpty then complain self "ignoring non-option arguments"
  let m ← get
  let named := ((Entries.get? "PWD" m.vars).bind Variable.value).getD ""
  let isPlain := named.startsWith "/" &&
    (Disk.partsOf named).all fun p => p != "." && p != ".."
  let isRight := isPlain && (← Run.node true named).toOption.any fun e => e.1 == m.place
  let isLogical := (a.options.getLast?).any fun o => o.1 == 'L'
  putText self
    ((if isLogical && isRight then named else m.system.disk.directoryPath m.place) ++ "\n")
  pure 0

end CredoAssistant.Shell.Program
