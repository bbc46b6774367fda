import CredoAssistant.Shell.Awk.Cell
import CredoAssistant.Shell.Awk.Grammar
import CredoAssistant.Shell.Awk.Records
import CredoAssistant.Shell.Program.Common

/-!
What a program for records knows while it runs: its variables and tables, the record at work with
its fields, and its open files and commands.
-/
namespace CredoAssistant.Shell.Awk

/-- A variable of a function: a value, a table, or nothing yet, for which a table is at hand. -/
inductive Slot
  | value (c : Cell)
  | unused (table : Nat)
  | table (number : Nat)
  deriving Repr

/-- An open file, or a command, that output goes to: its handle, what was not written yet, the last
piece first, and the handle that a command reads from. -/
structure Sink where
  name : String
  handle : Nat
  pending : List (List Char)
  reader : Option Nat
  deriving Repr

/-- An open file, or a command, that lines come from: what is left, and how the command ended. -/
structure Source where
  name : String
  isCommand : Bool
  rest : List Char
  status : Int
  deriving Repr

/-- The state of a program. `frames` holds the variables of the functions at work, the innermost
first, and `depth` how much room their calls take; `isNamed` says that the output was written to by
its name after all commands; `unread` holds what is left of the file at work; `isFed` says that a
file was named. -/
structure Store where
  self : String
  code : Code
  globals : Entries String Cell
  arrays : Entries String Nat
  tables : Entries Nat Table
  nextTable : Nat
  frames : List (Entries String Slot)
  depth : Nat
  record : String
  fields : Option (Array Cell)
  pending : List (List Char)
  pendingSize : Nat
  isNamed : Bool
  sinks : List Sink
  sources : List Source
  nextOperand : Nat
  unread : Option (List Char)
  isFed : Bool
  isOver : Bool
  active : List Nat
  status : Nat
  seed : Cell
  drawn : Nat

/-- Why the work on a record, or the whole work, is over. -/
inductive Departure
  | next
  | nextFile
  | exit
  | fatal
  deriving DecidableEq, Repr

abbrev Act := ExceptT Departure (StateT Store Run)

namespace Act

/-- Does something as a process. -/
def run {α : Type} (step : Run α) : Act α := ExceptT.lift (StateT.lift step)

/-- Complains and gives up. -/
def fatal {α : Type} (message : String) : Act α := do
  let s ← get
  run (Program.complain s.self message)
  set { s with status := 2 }
  throw .fatal

/-- Complains about an expression that cannot be read, and gives up. -/
def badPattern {α : Type} (flaw : Regular.Flaw) (source : String) : Act α :=
  fatal s!"line 1: regular expression compile failed ({flaw.reason})\n{source}"

/-! Variables -/

/-- The variables that are there from the start. -/
def presets : Entries String Cell :=
  [("FS", .text " "), ("OFS", .text " "), ("ORS", .text "\n"), ("RS", .text "\n"),
    ("SUBSEP", .text "\x1c"), ("CONVFMT", .text "%.6g"), ("OFMT", .text "%.6g"),
    ("NR", .ofNat 0), ("FNR", .ofNat 0)]

/-- The value of a variable of the whole program. -/
def global (name : String) : Act Cell := do
  return (Entries.get? name (← get).globals).getD .none

def setGlobal (name : String) (v : Cell) : Act Unit :=
  modify fun s => { s with globals := Entries.set name v s.globals }

/-- How numbers are written when they become texts. -/
def convfmt : Act String := do return (← global "CONVFMT").toText "%.6g"

/-- A value as text. -/
def textOf (v : Cell) : Act String := do
  match v with
  | .number _ => return v.toText (← convfmt)
  | _ => pure (v.toText "")

/-- The text of a variable of the whole program. -/
def globalText (name : String) : Act String := do textOf (← global name)

/-- Complains about what happens at work, and gives up. -/
def fault {α : Type} (message : String) : Act α := do
  let file ← globalText "FILENAME"
  let lines := Numbers.toInteger (← global "FNR").toNumber
  let all := Numbers.toInteger (← global "NR").toNumber
  fatal s!"run time error: {message}\n\tFILENAME=\"{file}\" FNR={lines} NR={all}"

/-- Complains about an expression for what stands between things, and gives up. -/
def badSeparator {α : Type} (flaw : Regular.Flaw) (source : String) : Act α :=
  fault s!"regular expression compile failed ({flaw.reason})\n{source}"

/-! The record -/

/-- What a text stands for between fields. -/
def separatorOf (text : String) : Act Separator := do
  match Separator.ofText text with
  | .ok sep => pure sep
  | .error flaw => badSeparator flaw text

/-- The fields of the record, which is taken apart when they are needed. -/
def fields : Act (Array Cell) := do
  match (← get).fields with
  | some fs => pure fs
  | none => do
    let sep ← separatorOf (← globalText "FS")
    let lines := (← globalText "RS") == ""
    let fs := ((sep.fields lines (← get).record).map Cell.ofInput).toArray
    modify fun s => { s with fields := some fs }
    pure fs

def setRecord (text : String) : Act Unit :=
  modify fun s => { s with record := text, fields := none }

/-- Puts the record together from its fields. -/
def join (fs : Array Cell) : Act Unit := do
  let between ← globalText "OFS"
  let texts ← fs.toList.mapM textOf
  modify fun s => { s with record := between.intercalate texts, fields := some fs }

/-- The field at an index; there are no negative ones. -/
def checkIndex (i : Int) : Act Nat := do
  if i < 0 then fault s!"negative field index ${i}" else pure i.toNat

def field (i : Nat) : Act Cell := do
  if i = 0 then return Cell.ofInput (← get).record
  else return (← fields).getD (i - 1) .none

/-- As many fields as are asked for. -/
def resized (fs : Array Cell) (n : Nat) : Array Cell :=
  fs.take n ++ Array.replicate (n - fs.size) (Cell.text "")

def setField (i : Nat) (v : Cell) : Act Unit := do
  if i = 0 then do setRecord (← textOf v)
  else do
    let fs ← fields
    join ((resized fs (max i fs.size)).setIfInBounds (i - 1) v)

def setFieldCount (n : Nat) : Act Unit := do
  let fs ← fields
  join (resized fs n)

/-! Names -/

/-- A variable of the function at work. -/
def slot? (name : String) : Act (Option Slot) := do
  match (← get).frames with
  | frame :: _ => pure (Entries.get? name frame)
  | [] => pure none

def setSlot (name : String) (slot : Slot) : Act Unit :=
  modify fun s =>
    match s.frames with
    | frame :: rest => { s with frames := Entries.set name slot frame :: rest }
    | [] => s

/-- The value of a variable. -/
def value (name : String) : Act Cell := do
  match ← slot? name with
  | some (.value c) => pure c
  | some _ => pure .none
  | none =>
    if name = "NF" then return .ofNat (← fields).size else global name

/-- Puts a value into a variable of the whole program. The record is taken apart before its
separator changes. -/
def assign (name : String) (v : Cell) : Act Unit := do
  if name = "NF" then setFieldCount (Numbers.toInteger v.toNumber).toNat
  else if name = "FS" then do
    let _ ← fields
    let _ ← separatorOf (← textOf v)
    setGlobal name v
  else setGlobal name v

def setValue (name : String) (v : Cell) : Act Unit := do
  match ← slot? name with
  | some _ => setSlot name (.value v)
  | none => assign name v

/-- A new table. -/
def newTable : Act Nat := do
  let n := (← get).nextTable
  modify fun s => { s with nextTable := n + 1, tables := Entries.set n .empty s.tables }
  pure n

/-- The number of the table behind a name. -/
def tableNumber (name : String) : Act Nat := do
  match ← slot? name with
  | some (.table n) => pure n
  | some (.unused n) => pure n
  | some (.value _) => newTable
  | none => do
    match Entries.get? name (← get).arrays with
    | some n => pure n
    | none => do
      let n ← newTable
      modify fun s => { s with arrays := Entries.set name n s.arrays }
      pure n

def table (n : Nat) : Act Table := do return (Entries.get? n (← get).tables).getD .empty

def setTable (n : Nat) (t : Table) : Act Unit :=
  modify fun s => { s with tables := Entries.set n t s.tables }

/-- What a name stands for that is handed to a function. -/
def handed (name : String) : Act Slot := do
  match ← slot? name with
  | some slot => pure slot
  | none => do
    let v ← value name
    if v != .none then pure (.value v)
    else return .unused (← tableNumber name)

/-- The key that values stand for. -/
def keyOf (vs : List Cell) : Act Key := do
  match vs with
  | [.number x] =>
    match Numbers.whole? x with
    | some n =>
      if Numbers.leastInteger ≤ n && n ≤ Numbers.mostInteger then pure (.whole n)
      else return .text (← textOf (.number x))
    | none => return .text (← textOf (.number x))
  | _ => do
    let between ← globalText "SUBSEP"
    return .text (between.intercalate (← vs.mapM textOf))

end Act

end CredoAssistant.Shell.Awk
