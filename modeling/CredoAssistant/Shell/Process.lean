import CredoAssistant.Shell.Builtin
import CredoAssistant.Shell.Schedule

/-!
Processes of a shell: copies of it that run by themselves, one after the other or beside each other,
between pipes or in the background.
-/
namespace CredoAssistant.Shell

namespace Run

/-- Runs a step in a copy of this shell. The system alone remains of it, without the streams that
the copy opened. -/
def inCopy (step : Run Unit) : Run (Except Halt Nat) := do
  let m ← get
  let kept := m.system.heldBy m.thread
  let result ← attempt step
  let status := (← get).status
  modify fun inner =>
    { inner with toProcess := m.toProcess, system := inner.system.keepOnly m.thread kept }
  pure (result.map fun _ => status)

/-- How long a copy of a shell takes to come up, in microseconds. -/
def copyTime : Nat := 200

/-- A copy of a shell, as it starts. -/
def copyOf (p : Process) (number : Nat) : Process :=
  { p with
    number, parent := p.number, group := p.number :: p.group, above := p.recipients
    jobs := [], trapStatus := none, traps := p.traps.filter fun t => t.2 == "" }

/-- Runs a step up to the end of its process, from the moment on at which the process came up. -/
def lifetime (step : Run Unit) : Run Unit := do
  sleep copyTime
  let r ← attempt step
  match r with
  | .error .expired => throw .expired
  | .error .endless => throw .endless
  | .error (.killed signal) => throw (.killed signal)
  | _ => pure ()

/-- Runs a process that starts as a copy of this shell. -/
def fork (step : Run Unit) : Run (Nat × Ending) := do
  let number ← fresh
  let r ← inCopy do
    modify fun m => { m with toProcess := copyOf m.toProcess number }
    lifetime step
  let due ← deadlinesTo (← getSystem).clock
  let m ← get
  match r with
  | .ok status => pure (number, .exited status)
  | .error (.killed signal) => pure (number, .killed signal)
  | .error .expired =>
    match due.getLast?.filter fun d => !m.recipient.isFatal d.signal with
    | some d => pure (number, .killed d.signal)
    | none => throw .expired
  | .error h => throw h

/-- Tells how a process ended that was waited for, unless a signal ended the one that waits. -/
def conclude (ending : Ending) : Run Nat := do
  heed
  report ending

/-- Runs a process and waits for it. -/
def forkAndWait (step : Run Unit) : Run Nat := do
  let (_, ending) ← fork step
  waitUntil (← getSystem).clock
  conclude ending

/-! Pipes -/

/-- A new pipe: its number and the handles of its reader and its writer. -/
def newPipe (isBounded : Bool) : Run (Nat × Nat × Nat) := do
  let n ← fresh
  modifySystem fun s => { s with pipes := Entries.set n { Pipe.empty with isBounded } s.pipes }
  let reader ← newHandle ⟨.pipe n, 0, false, true, false⟩
  let writer ← newHandle ⟨.pipe n, 0, false, false, true⟩
  pure (n, reader, writer)

/-- Forgets a pipe that is done with, unless it is kept open. -/
def dropPipe (e : Nat × Nat × Nat) : Run Unit :=
  modifySystem fun s =>
    if s.hasWriters e.1 || s.hasReaders e.1 then s
    else
      { s with
        pipes := Entries.erase e.1 s.pipes
        handles := Entries.erase e.2.1 (Entries.erase e.2.2 s.handles) }

/-- Processes between pipes, each of which reads what the one before it writes; and the pipes. -/
def connected (input : Option Nat) :
    List (Run Unit) → Run (List Thread × List (Nat × Nat × Nat))
  | [] => pure ([], [])
  | step :: rest => do
    let number ← fresh
    let pipe ← if rest.isEmpty then pure none else do pure (some (← newPipe true))
    let m ← get
    let ends := (input.map fun id => (0, id)).toList ++ (pipe.map fun e => (1, e.2.2)).toList
    let held := ends.filterMap fun e => Entries.get? e.2 m.system.handles
    modifySystem fun s => { s with holders := s.holders ++ held.map fun h => (number, h) }
    let streams := ends.foldl (fun streams e => Entries.set e.1 e.2 streams) m.streams
    let process := { copyOf m.toProcess number with thread := number, streams }
    let (ts, pipes) ← connected (pipe.map fun e => e.2.1) rest
    pure (Thread.new process m.system.clock (lifetime step) :: ts, pipe.toList ++ pipes)

/-- Runs a pipeline and waits for all of it. The last of its processes gives the status. -/
def pipeline (steps : List (Run Unit)) : Run Nat := do
  let (ts, pipes) ← connected none steps
  let endings ← besideEachOther mostTurns ts []
  pipes.forM dropPipe
  waitUntil (endings.foldl (fun time e => max time e.2.1) 0)
  ts.foldlM
    (fun status t =>
      match Entries.get? t.number endings with
      | some (_, ending) => conclude ending
      | none => pure status)
    0

/-! The background -/

/-- The first free number for a command in the background. One that has ended and was waited for
gives its number away. -/
def freeSlot (s : System) (jobs : Entries Nat Job) : Nat :=
  let isTaken (n : Nat) : Bool :=
    jobs.any fun e => e.2.slot == n && !(e.2.waited && Entries.has e.1 s.ended)
  ((List.range (jobs.length + 1)).find? fun n => !isTaken (n + 1)).getD jobs.length + 1

/-- Starts a command that reads nothing and is not waited for. `streams` are those that it keeps,
and `others` is the number of its processes next to the first. -/
def inBackground (streams : Entries Nat Nat) (others : Nat) (targets : List Target)
    (command : Command) : Run Unit := do
  let number ← fresh
  let input ← newHandle ⟨.null, 0, false, true, false⟩
  modify fun m =>
    let s := m.system
    let process :=
      { copyOf m.toProcess number with
        above := [], thread := number, streams := Entries.set 0 input m.streams }
    let held := streams.filterMap fun e => Entries.get? e.2 s.handles
    let slot := freeSlot s m.jobs
    let jobs := m.jobs.filter fun e => e.2.slot != slot
    { m with
      jobs := Entries.set number ⟨slot, others, false⟩ jobs
      lastJob := some number
      system :=
        { s with
          started := s.started ++ [⟨process, s.clock, targets, command⟩]
          holders := s.holders ++ held.map fun h => (number, h), isPressing := true } }

/-! Command substitution -/

/-- What a process writes to its output, without the line ends after it. -/
def outputOf (step : Run Unit) : Run String := do
  let pipe ← newPipe false
  let (_, ending) ← fork do
    connect 1 pipe.2.2
    step
  await (.close pipe.1)
  let status ← conclude ending
  modify fun m => { m with outputStatus := status }
  let text := ((← getSystem).pipe pipe.1).all.filter (· != '\x00')
  dropPipe pipe
  pure (String.ofList (text.reverse.dropWhile (· == '\n')).reverse)

/-! Signals -/

/-- The signals that were sent to this process up to now and not seen yet. -/
def takeSignals : Run (List Nat) := do
  let m ← get
  let isDue (s : Sent) : Bool := s.time ≤ m.system.clock
  let (mine, others) := m.system.signals.partition fun s => s.target == m.number && isDue s
  modifySystem fun s => { s with signals := others }
  pure (mine.map Sent.signal)

end Run

end CredoAssistant.Shell
