import CredoAssistant.Shell.Awk.Store
import CredoAssistant.Shell.Evaluation
import CredoAssistant.Shell.Program.Common

/-!
Files and commands that a program for records reads from and writes to, and the records of its
files.

Output is held back until a command starts, a file is closed, or there is much of it.
-/
namespace CredoAssistant.Shell.Awk

namespace Act

/-! Output -/

/-- Complains that output is lost. -/
def lost {α : Type} (name : String) (fault : Fault) : Act α :=
  fatal s!"close failed on file \"{name}\" ({fault.reason})"

/-- How much output is held back at the most. -/
def mostPending : Nat := 4096

/-- Writes the output that was held back. -/
def flushStandard : Act Unit := do
  let cs := (← get).pending.reverse.flatten
  modify fun s => { s with pending := [], pendingSize := 0 }
  if cs.isEmpty then pure ()
  else if ← run (Run.write 1 cs) then pure ()
  else lost "/dev/stdout" (← run Program.outputFault)

def standard (cs : List Char) : Act Unit := do
  modify fun s => { s with pending := cs :: s.pending, pendingSize := s.pendingSize + cs.length }
  if mostPending < (← get).pendingSize then flushStandard

/-- Writes what was held back for a file or a command. -/
def flushSink (k : Sink) : Act Unit := do
  if k.pending.isEmpty then pure ()
  else do
    let update (l : Sink) : Sink :=
      if l.handle = k.handle then { l with pending := [] } else l
    modify fun s => { s with sinks := s.sinks.map update }
    if ← run (Program.writeTo k.handle k.pending.reverse.flatten) then pure ()
    else lost k.name .full

def flushAll : Act Unit := do
  flushStandard
  (← get).sinks.forM flushSink

/-- Runs a command with some streams, and gives its status as others see it. -/
def command (e : Evaluator) (shell : String) (connections : Run Unit) (text : String) :
    Act Ending := do
  let step : Run Unit := do
    connections
    let r ← e.execute "/bin/sh" [shell, "-c", text]
    Run.setStatus r.startStatus
  match ← run (Run.attempt (Run.fork step)) with
  | .ok (_, ending) => do
    run do
      Run.waitUntil (← Run.getSystem).clock
      Run.heed
    pure ending
  | .error h => run (throw h)

/-- The status of a process as a number. -/
def statusOf : Ending → Int
  | .exited n => (n % 256 : Nat)
  | .killed signal => (256 + signal : Nat)

/-- Closes a file or a command that output goes to. -/
def closeSink (e : Evaluator) (k : Sink) : Act Int := do
  flushSink k
  modify fun s => { s with sinks := s.sinks.filter fun l => l.handle != k.handle }
  match k.reader with
  | none => pure 0
  | some reader => return statusOf (← command e "/bin/sh" (Run.connect 0 reader) k.name)

/-- Opens a file or a command for output. -/
def openSink (o : Outlet) (name : String) : Act Sink := do
  let k : Sink ←
    if o = .command then do
      flushAll
      let (_, reader, writer) ← run (Run.newPipe false)
      pure ⟨name, writer, [], some reader⟩
    else do
      let opening := if o = .append then Opening.append else Opening.write
      match ← run (Program.openForProgram opening name) with
      | .ok handle => pure ⟨name, handle, [], none⟩
      | .error fault => fatal s!"cannot open \"{name}\" for output ({fault.reason})"
  modify fun s => { s with sinks := k :: s.sinks }
  pure k

/-- Writes to where output goes to, which comes first among what is open from then on. -/
def emit (o : Outlet) (name : String) (cs : List Char) : Act Unit := do
  let isFile := o = .file || o = .append
  if o = .standard then standard cs
  else if isFile && ["-", "/dev/stdout"].contains name then do
    modify fun s => { s with isNamed := true }
    standard cs
  else if isFile && name == "/dev/stderr" then run (Run.say 2 (String.ofList cs))
  else do
    let isSame (k : Sink) : Bool := k.name == name && k.reader.isSome == decide (o = .command)
    let k ←
      match (← get).sinks.find? isSame with
      | some k => pure k
      | none => openSink o name
    let others := (← get).sinks.filter fun l => l.handle != k.handle
    modify fun s =>
      { s with
        sinks := { k with pending := cs :: k.pending } :: others
        isNamed := s.isNamed && o != .command }

/-- Closes everything with a name: the status, unless there is nothing. -/
def close (e : Evaluator) (name : String) : Act Int := do
  let sinks := (← get).sinks.filter fun k => k.name == name
  let sources := (← get).sources.filter fun k => k.name == name
  modify fun s => { s with sources := s.sources.filter fun k => k.name != name }
  let statuses ← sinks.mapM (closeSink e)
  pure ((statuses ++ sources.map Source.status).getLast?.getD (-1))

/-- Writes what was held back for a file or a command, or for the output. -/
def flush (name : Option String) : Act Int := do
  match name with
  | none => do
    flushStandard
    pure 0
  | some name => do
    if ["", "-", "/dev/stdout"].contains name then do
      flushStandard
      pure 0
    else
      match (← get).sinks.find? fun k => k.name == name with
      | some k => do
        flushSink k
        pure 0
      | none => pure (-1)

/-- Runs a command and waits for it. -/
def system (e : Evaluator) (text : String) : Act Int := do
  flushAll
  return statusOf (← command e "sh" (pure ()) text)

/-- Closes everything at the end. -/
def closeAll (e : Evaluator) : Act Unit := do
  let sinks := (← get).sinks
  if (← get).isNamed then flushStandard
  (sinks.filter fun k => k.reader.isSome).forM fun k => do let _ ← closeSink e k
  (sinks.filter fun k => k.reader.isNone).forM fun k => do let _ ← closeSink e k
  flushStandard

/-! Input -/

/-- What ends a record at present. -/
def divider : Act Divider := do
  let text ← globalText "RS"
  match Divider.ofText text with
  | .ok d => pure d
  | .error flaw => badSeparator flaw text

def unreadable {α : Type} (fault : Fault) : Act α := fatal s!"read error ({fault.reason})"

/-- What a file holds. There is none under some names. -/
def contents? (name : String) : Act (Option (List Char)) := do
  let name := if name = "/dev/stdin" then "-" else name
  match ← run (Program.contents name) with
  | .ok cs => pure (some cs)
  | .error .isDirectory => unreadable .isDirectory
  | .error .badStream => unreadable .badStream
  | .error _ => pure none

/-- The output of a command, and its status. -/
def outputOf (e : Evaluator) (text : String) : Act (List Char × Int) := do
  flushAll
  let (pipe, _, writer) ← run (Run.newPipe false)
  let ending ← command e "/bin/sh" (Run.connect 1 writer) text
  run (Run.await (.close pipe))
  return (((← run Run.getSystem).pipe pipe).all, statusOf ending)

/-- The next record of a file or a command, and whether there is one, and whether it could be
opened. -/
def nextOf (e : Evaluator) (isCommand : Bool) (name : String) : Act (Except Int String) := do
  let isSame (k : Source) : Bool := k.name == name && k.isCommand == isCommand
  let source : Option Source ←
    match (← get).sources.find? isSame with
    | some k => pure (some k)
    | none => do
      if isCommand then do
        let (cs, status) ← outputOf e name
        pure (some ⟨name, true, cs, status⟩)
      else do
        match ← contents? name with
        | some cs => pure (some ⟨name, false, cs, 0⟩)
        | none => pure none
  match source with
  | none => pure (.error (-1))
  | some k => do
    let others := (← get).sources.filter fun l => !isSame l
    match (← divider).take? k.rest with
    | some (cs, rest) => do
      modify fun s => { s with sources := { k with rest } :: others }
      pure (.ok (String.ofList cs))
    | none => do
      modify fun s => { s with sources := { k with rest := [] } :: others }
      pure (.error 0)

/-- The name and the value of an operand that assigns. -/
def assignment? (s : String) : Option (String × String) :=
  let name := s.toList.takeWhile Token.isNameChar
  match name, s.toList.drop name.length with
  | c :: _, '=' :: value =>
    if Token.isNameStart c then
      some (String.ofList name, Token.unescapedText (String.ofList value))
    else none
  | _, _ => none

/-- Carries out an assignment from outside. -/
def assignFromOutside (name value : String) : Act Unit := assign name (.ofInput value)

/-- Starts to read a file. -/
def startFile (name : String) : Act Unit := do
  match ← contents? name with
  | none => do
    let r ← run (Program.contents name)
    let reason :=
      match r with
      | .error fault => fault.reason
      | .ok _ => ""
    fatal s!"cannot open \"{name}\" ({reason})"
  | some cs => do
    setGlobal "FILENAME" (.text name)
    setGlobal "FNR" (.ofNat 0)
    modify fun s => { s with unread := some cs, isFed := true }

/-- Goes on to the next file among the operands; whether there is one. Assignments among them are
carried out. -/
def nextFile : Nat → Act Bool
  | 0 => pure false
  | fuel + 1 => do
    let s ← get
    let count := (Numbers.toInteger (← global "ARGC").toNumber).toNat
    if s.isOver then pure false
    else if count ≤ s.nextOperand then do
      modify fun s => { s with isOver := true }
      if s.isFed then pure false
      else do
        startFile "-"
        pure true
    else do
      modify fun s => { s with nextOperand := s.nextOperand + 1 }
      let n ← tableNumber "ARGV"
      let (v, t) := (← table n).access false (.whole s.nextOperand) id
      setTable n t
      let text ← textOf (v.getD .none)
      if text = "" then nextFile fuel
      else
        match assignment? text with
        | some (name, value) => do
          assignFromOutside name value
          nextFile fuel
        | none => do
          startFile text
          pure true

/-- The next record of the program. -/
def nextRecord : Nat → Act (Option String)
  | 0 => pure none
  | fuel + 1 => do
    let more : Act (Option String) := do
      let count := (Numbers.toInteger (← global "ARGC").toNumber).toNat
      if ← nextFile (count + 2) then nextRecord fuel else pure none
    match (← get).unread with
    | none => more
    | some cs =>
      match (← divider).take? cs with
      | none => do
        modify fun s => { s with unread := none }
        more
      | some (front, rest) => do
        modify fun s => { s with unread := some rest }
        let count (name : String) : Act Unit := do
          setGlobal name (.number (Numbers.add (← global name).toNumber (Numbers.ofNat 1)))
        count "NR"
        count "FNR"
        pure (some (String.ofList front))

/-- More files than a program is given. -/
def mostFiles : Nat := 100000

end Act

end CredoAssistant.Shell.Awk
