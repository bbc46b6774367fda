import CredoAssistant.Shell.Builtin

/-!
Where the name of a command leads: to a function, to a command of the shell, or to a file on the
search path.
-/
namespace CredoAssistant.Shell

/-! Why a program does not start -/

namespace Fault

/-- What the shell says about a program that does not start. -/
def startMessage : Fault → String
  | missing => "not found"
  | notDirectory => "not found"
  | fault => fault.reason

/-- The status of the shell for a program that does not start. -/
def startStatus : Fault → Nat
  | denied => 126
  | _ => 127

/-- The status of a program that only runs another one. -/
def launcherStatus : Fault → Nat
  | missing => 127
  | _ => 126

end Fault

/-- What a name of a command stands for. -/
inductive Found
  | function (body : Command)
  | special
  | plain
  | program

namespace Run

/-- The file at a path, if it can be run. -/
def runnable (path : String) : Run (Except Fault Inode) := do
  match ← node true path with
  | .error e => pure (.error e)
  | .ok (_, i) => pure (if i.isFile && i.runs then .ok i else .error .denied)

/-- The path of a name below a directory of the search path. -/
def below (dir name : String) : String := if dir = "" then name else dir ++ "/" ++ name

/-- The first file in some directories that can be run under a name. A file that cannot be run is
passed over, but remembered in the fault. -/
def searchIn (name : String) (fault : Fault) : List String → Run (Except Fault String)
  | [] => pure (.error fault)
  | dir :: rest => do
    let path := below dir name
    match ← runnable path with
    | .ok _ => pure (.ok path)
    | .error .missing => searchIn name fault rest
    | .error .notDirectory => searchIn name fault rest
    | .error e => searchIn name e rest

/-- The search path that is used for want of a better one. -/
def standardPath : String := "/usr/sbin:/usr/bin:/sbin:/bin"

/-- The directories of a search path. -/
def directoriesOf (path : String) : List String := path.splitOn ":"

/-- The search path of this shell. -/
def searchPath : Run String := do return (← value? "PATH").getD ""

/-- The file that a program is run from, by its name. -/
def programPath (name path : String) : Run (Except Fault String) :=
  if name.toList.contains '/' then pure (.ok name) else searchIn name .missing (directoriesOf path)

/-- The file that a program is run from, which the shell remembers unless the search path is the
standard one. -/
def locateProgram (standard : Bool) (name : String) : Run (Except Fault String) := do
  let path ← if standard then pure standardPath else searchPath
  let found ← programPath name path
  match found with
  | .ok file =>
    if !standard && !name.toList.contains '/' then
      modify fun m => { m with known := Entries.set name file m.known }
  | .error _ => pure ()
  pure found

/-- What a name of a command stands for. No function has the name of a special command. -/
def find (noFunction : Bool) (name : String) : Run Found := do
  let functions := (← get).functions
  match if noFunction then none else Entries.get? name functions with
  | some body => pure (.function body)
  | none =>
    if specialBuiltins.contains name then pure .special
    else if plainBuiltins.contains name then pure .plain
    else pure .program

/-- Tells what a name of a command stands for; the status is that of a missing command when there is
none. -/
def describe (verbose standard : Bool) (name : String) : Run Nat := do
  let tell (long short : String) : Run Nat := do
    print ((if verbose then name ++ long else short) ++ "\n")
    pure 0
  let unknown : Run Nat := do
    if verbose then print s!"{name}: not found\n"
    pure 127
  let m ← get
  if keywords.contains name then tell " is a shell keyword" name
  else
    match Entries.get? name m.aliases with
    | some value => tell s!" is an alias for {value}" s!"alias {name}='{value}'"
    | none => do
      match ← find false name with
      | .function _ => tell " is a shell function" name
      | .special => tell " is a special shell builtin" name
      | .plain => tell " is a shell builtin" name
      | .program => do
        let article := if Entries.has name m.known then " is a tracked alias for " else " is "
        match ← locateProgram standard name, ← node true name with
        | .error _, _ => unknown
        | .ok path, .ok _ => tell (article ++ path) path
        | .ok path, .error _ =>
          if name.toList.contains '/' then unknown else tell (article ++ path) path

/-- The number of the list that the name of a program is kept in. -/
def programBucket (name : String) : Nat :=
  let first := (name.toList.head?.map Char.toNat).getD 0
  (name.toList.foldl (fun n c => n + c.toNat) (first * 16)) % 31

/-- Lists the programs that were found, looks for some, or forgets all. -/
def hash (args : List String) : Run Nat := do
  let (os, names) ← commandOptions "r" args
  if !os.isEmpty then do
    modify fun m => { m with known := [] }
    pure 0
  else if names.isEmpty then do
    let ordered := (← get).known.mergeSort fun a b =>
      decide (programBucket a.1 ≤ programBucket b.1)
    print (String.join (ordered.map fun e => e.2 ++ "\n"))
    pure 0
  else
    names.foldlM
      (fun status name => do
        match ← find false name with
        | .program =>
          match ← locateProgram false name with
          | .ok _ => pure status
          | .error r => do
            warn s!"{name}: {r.startMessage}"
            pure 1
        | _ => pure status)
      0

end Run

end CredoAssistant.Shell
