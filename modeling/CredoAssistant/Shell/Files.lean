import CredoAssistant.Shell.Transfer

/-!
What a process says and knows: messages, options and variables of a shell, and files and devices as
the process sees them.
-/
namespace CredoAssistant.Shell.Run

/-! ### Messages -/

/-- A complaint of the shell: its name, the line and the command at work stand before it. -/
def warn (message : String) : Run Unit := do
  let m ← get
  let heading := (m.heading.map (· ++ ": ")).getD ""
  say 2 s!"{m.name}: {m.line}: {heading}{message}\n"

/-- Complains and ends the command, and the script unless the command is a plain one. -/
def fail {α : Type} (message : String) : Run α := do
  setStatus 2
  warn message
  throw .fault

/-! ### Options and variables -/

def hasOption (c : Char) : Run Bool := do return (← get).options.contains c

def found? (name : String) : Run (Option Variable) := do
  return Entries.get? name (← get).vars

/-- The value of a variable, if it has one. -/
def value? (name : String) : Run (Option String) := do
  return (← found? name).bind Variable.value

/-- Puts a value into a variable. A constant one is left alone, with a complaint. -/
def setVariable (name value : String) : Run Unit := do
  let m ← get
  let old := (Entries.get? name m.vars).getD ⟨none, false, false⟩
  if old.constant then fail s!"{name}: is read only"
  else
    let exported := old.exported || m.options.contains 'a'
    set { m with
      vars := Entries.set name ⟨some value, exported, false⟩ m.vars
      known := if name = "PATH" then [] else m.known
      letter := if name = "OPTIND" then (max 1 (value.toNat?.getD 1), 0) else m.letter }

def unsetVariable (name : String) : Run Unit := do
  let m ← get
  match Entries.get? name m.vars with
  | none => pure ()
  | some v =>
    if v.constant then fail s!"{name}: is read only"
    else set { m with vars := Entries.erase name m.vars }

def update (name : String) (f : Variable → Variable) : Run Unit :=
  modify fun m =>
    let old := (Entries.get? name m.vars).getD ⟨none, false, false⟩
    { m with vars := Entries.set name (f old) m.vars }

/-- The number of the list that a variable is kept in. -/
def bucket (name : String) : Nat :=
  let first := (name.toList.head?.map Char.toNat).getD 0
  (name.toList.foldl (fun n c => n + c.toNat) (first * 16)) % 39

/-- The variables that programs see. From a shell they come out of one list after the other, in each
of them the older ones first. -/
def environment : Run (Entries String String) := do
  let m ← get
  let exported := m.vars.filterMap fun (name, v) =>
    if v.exported then v.value.map fun s => (name, s) else none
  pure (if m.isShell then exported.mergeSort fun a b => decide (bucket a.1 ≤ bucket b.1)
    else exported)

/-! ### Files and devices -/

def disk : Run Disk := do return (← getSystem).disk

/-- Changes the disk at the present time. -/
def changeDisk (f : Int → Disk → Disk) : Run Unit :=
  modifySystem fun s => { s with disk := f s.now s.disk }

/-- Where a path leads from the working directory. A symbolic link at its end leads on with
`follow`. -/
def spot (follow : Bool) (path : String) : Run (Except Fault Spot) := do
  let m ← get
  pure (m.system.disk.resolve follow m.place path)

/-- The node at the end of a path, with its number. -/
def node (follow : Bool) (path : String) : Run (Except Fault (Nat × Inode)) := do
  match ← spot follow path with
  | .error e => pure (.error e)
  | .ok s => do
    let d ← disk
    match s.found.bind fun n => (d.get? n).map fun i => (n, i) with
    | some found => pure (.ok found)
    | none => pure (.error .missing)

def isNullDevice (path : String) : Bool := path == "/dev/null"

/-- Whether a path names a device without end. -/
def isEndlessDevice (path : String) : Bool :=
  ["/dev/zero", "/dev/random", "/dev/urandom"].contains path

/-- The stream that a name of a device stands for. -/
def deviceStream? (path : String) : Option Nat :=
  if path = "/dev/stdin" then some 0
  else if path = "/dev/stdout" then some 1
  else if path = "/dev/stderr" then some 2
  else if path.startsWith "/dev/fd/" then (path.drop 8).toString.toNat?
  else none

/-- The node that an open stream leads to; pipes have one of their own. -/
def streamNode (h : Handle) : Run Inode := do
  let plain (content : Content) (mode : Nat) : Inode := ⟨content, mode, 0, 0, 0, 0⟩
  match h.channel with
  | .file n => do return ((← disk).get? n).getD (plain (.regular []) 420)
  | .captured _ => pure (plain .pipe 384)
  | .pipe _ => pure (plain .pipe 384)
  | .zeros => pure (plain .device 438)
  | .null => pure (plain .device 438)
  | .full => pure (plain .device 438)

/-- What stands at the end of a path, which may be the name of an open stream. -/
def inode (follow : Bool) (path : String) : Run (Except Fault Inode) := do
  match deviceStream? path with
  | none => do return (← node follow path).map Prod.snd
  | some n =>
    match ← handle? n with
    | some (_, h) => do return .ok (← streamNode h)
    | none => pure (.error .missing)

def isDirectory (path : String) : Run Bool := do
  match ← node true path with
  | .ok (_, i) => pure i.isDirectory
  | .error _ => pure false

/-- The contents of a file. -/
def contents (path : String) : Run (Except Fault (List Char)) := do
  if isNullDevice path then pure (.ok [])
  else if isEndlessDevice path then pure (.ok zeros)
  else
    match deviceStream? path with
    | some n => do return .ok (← readAll n)
    | none =>
      match ← node true path with
      | .error e => pure (.error e)
      | .ok (n, i) =>
        match i.content with
        | .pipe =>
          holding do
            let _ ← openFifo true false n
            return .ok (← drain (← fifoPipe n))
        | _ => pure (if i.isDirectory then .error .isDirectory else .ok (Octets.ofBytes i.bytes))

end CredoAssistant.Shell.Run
