import CredoAssistant.Shell.Waiting

/-!
Reading and writing open streams.
-/
namespace CredoAssistant.Shell.Run

/-- The open stream with a number. -/
def handle? (stream : Nat) : Run (Option (Nat × Handle)) := do
  let m ← get
  pure do
    let id ← Entries.get? stream m.streams
    let h ← Entries.get? id m.system.handles
    some (id, h)

def setHandle (id : Nat) (h : Handle) : Run Unit :=
  modifySystem fun s => { s with handles := Entries.set id h s.handles }

/-- The pipe of a file that names one. -/
def fifoPipe (node : Nat) : Run Nat := do
  match Entries.get? node (← getSystem).fifos with
  | some n => pure n
  | none => do
    let n ← fresh
    modifySystem fun s =>
      { s with
        fifos := Entries.set node n s.fifos
        pipes := Entries.set n { Pipe.empty with isBounded := true } s.pipes }
    pure n

/-- Opens a pipe by its name. Whoever only reads it or only writes it waits for one who does the
other thing. -/
def openFifo (reads writes : Bool) (node : Nat) : Run Handle := do
  let n ← fifoPipe node
  let h : Handle := ⟨.pipe n, 0, false, reads, writes⟩
  let thread := (← get).thread
  let s ← getSystem
  let old := s.pipe n
  let isUnused := !s.hasReaders n && !s.hasWriters n
  let opened (p : Pipe) : Pipe :=
    { p with
      isDrained := p.isDrained && !reads
      readersOpened := p.readersOpened + (if reads then 1 else 0)
      writersOpened := p.writersOpened + (if writes then 1 else 0) }
  modifySystem fun s =>
    let s := { s with holders := s.holders ++ [(thread, h)] }
    s.changePipe n fun p => opened (if isUnused then p.emptied else p)
  if !writes then await (.partner n true old.writersOpened)
  if !reads then await (.partner n false old.readersOpened)
  pure h

/-- Takes a step, and lets go of the streams that were opened in it. -/
def holding {α : Type} (step : Run α) : Run α := do
  let m ← get
  let kept := m.system.heldBy m.thread
  let a ← step
  modifySystem (System.keepOnly m.thread kept)
  pure a

/-- Opens a stream and gives its handle. -/
def newHandle (h : Handle) : Run Nat := do
  let id ← fresh
  setHandle id h
  pure id

def connect (stream id : Nat) : Run Unit :=
  modify fun m => { m with streams := Entries.set stream id m.streams }

def disconnect (stream : Nat) : Run Unit :=
  modify fun m => { m with streams := Entries.erase stream m.streams }

/-- Lets go of what streams led to before, unless some still lead there. -/
def letGo (before : Entries Nat Nat) : Run Unit := do
  let m ← get
  let gone := (before.filter fun e => m.streams.all fun now => now.2 != e.2).map Prod.snd
  gone.forM fun id =>
    match Entries.get? id m.system.handles with
    | some h => modifySystem fun s => s.keepOnly m.thread ((s.heldBy m.thread).erase h)
    | none => pure ()

/-- The greatest number of bytes in a pipe that nobody reads meanwhile. -/
def pipeSize : Nat := 1000000

/-- Puts bytes into a file at a place. -/
def splice (old new : List UInt8) (offset : Nat) : List UInt8 :=
  let front := old.take offset
  front ++ List.replicate (offset - front.length) 0 ++ new ++ old.drop (offset + new.length)

/-- Writes bytes to a stream; whether that was possible. -/
def write (stream : Nat) (cs : List Char) : Run Bool := do
  match ← handle? stream with
  | none => pure false
  | some (id, h) =>
    if !h.writes then pure false
    else
      match h.channel with
      | .zeros => pure true
      | .null => pure true
      | .full => pure false
      | .captured n => do
        modifySystem fun s => { s with output := ⟨s.clock, n, cs⟩ :: s.output }
        pure true
      | .pipe n => do
        if ((← getSystem).pipe n).isBounded then await (.room n)
        let m ← get
        let p := m.system.pipe n
        let isBroken := if p.isBounded then !m.system.hasReaders n else pipeSize < p.written
        if !isBroken then do
          modifySystem (System.changePipe n fun p => p.add cs)
          pure true
        else if m.recipient.isFatal 13 then throw (.killed 13)
        else pure false
      | .file n => do
        let s ← getSystem
        let old := s.disk.bytes n
        let bytes := Octets.toBytes cs
        let offset := if h.appends then old.length else h.offset
        let new := splice old bytes offset
        modifySystem fun s => { s with disk := s.disk.write s.now n new }
        setHandle id { h with offset := offset + bytes.length }
        pure true

/-- As much of a source of null characters as a pipe takes. -/
def zeros : List Char := List.replicate pipeSize '\x00'

/-- Takes all that is ever written to a pipe. -/
def drain (pipe : Nat) : Run (List Char) := do
  if ((← getSystem).pipe pipe).isBounded then
    modifySystem (System.changePipe pipe fun p => { p with isDrained := true })
  await (.close pipe)
  return ((← getSystem).pipe pipe).all

/-- The bytes that a stream still holds. Those of a pipe are there when its writers are gone. -/
def available (stream : Nat) : Run (List Char) := do
  match ← handle? stream with
  | none => pure []
  | some (_, h) =>
    match h.channel with
    | .file n => do
      let bytes := (← getSystem).disk.bytes n
      pure (if h.reads then Octets.ofBytes (bytes.drop h.offset) else [])
    | .pipe n => drain n
    | .zeros => pure zeros
    | .full => pure zeros
    | _ => pure []

/-- Waits until there is enough in a pipe, or nothing more comes. -/
def awaitEnough (pipe : Nat) (isEnough : List Char → Bool) : Nat → Run (List Char)
  | 0 => pure []
  | fuel + 1 => do
    let s ← getSystem
    let p := s.pipe pipe
    let cs := p.all
    if isEnough cs || !s.hasWriters pipe then pure cs
    else do
      await (.input pipe p.written)
      awaitEnough pipe isEnough fuel

/-- The bytes that a stream still holds, or enough of them. -/
def availableUpTo (stream : Nat) (isEnough : List Char → Bool) : Run (List Char) := do
  match ← handle? stream with
  | some (_, { channel := .pipe n, .. }) => awaitEnough n isEnough mostWaits
  | _ => available stream

/-- Takes a number of bytes from a stream. -/
def consume (stream count : Nat) : Run Unit := do
  match ← handle? stream with
  | none => pure ()
  | some (id, h) =>
    match h.channel with
    | .file _ => setHandle id { h with offset := h.offset + count }
    | .pipe n =>
      if 0 < count then modifySystem (System.changePipe n fun p => p.drop count)
    | _ => pure ()

/-- The next bytes that a stream holds, once there are some; none at its end. -/
def readSome (stream : Nat) : Run (List Char) := do
  let cs ← availableUpTo stream fun cs => !cs.isEmpty
  consume stream cs.length
  pure cs

/-- All that a stream still holds. -/
def readAll (stream : Nat) : Run (List Char) := do
  let cs ← available stream
  consume stream cs.length
  pure cs

/-- Writes a text to the output or, as a message, to the errors. -/
def say (stream : Nat) (s : String) : Run Unit := do
  let _ ← write stream s.toList

/-- Writes what a command of the shell prints. -/
def print (s : String) : Run Unit := do
  if s = "" then pure ()
  else if ← write 1 s.toList then pure ()
  else modify fun m => { m with unwritten := true }

end CredoAssistant.Shell.Run
