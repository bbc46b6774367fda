import CredoAssistant.FileTree
import CredoAssistant.Process.Run
import CredoAssistant.Shell.Installation
import CredoAssistant.Shell.Start

/-!
A shell for the surroundings of processes: it runs a command line with the programs of this library
on a disk that holds a tree of files. All that it writes before its time limit has been taken by
then.
-/
namespace CredoAssistant.Shell

/-- A time limit in microseconds; one that never comes is none. A limit that is no number has passed
at once. -/
def microseconds? (t : Seconds) : Option Nat :=
  match t.toBinary64 with
  | .nan => some 0
  | .infinite _ => none
  | .finite negative m e =>
    let (num, den) := Binary64.scaled (m * 1000000) 1 (-e)
    some (if negative then 0 else num / den)

/-- The number of the process that starts others. -/
def callerNumber : Nat := 4000

/-- The first shell before it starts, in an environment. -/
def firstMachine (disk : Disk) (place : Nat) (environment : Entries String String)
    (limit : Option Nat) : Machine :=
  let output (n : Nat) : Handle := ⟨.captured n, 0, true, false, true⟩
  let number := callerNumber + 1
  { system :=
      { disk
        handles := [(0, ⟨.null, 0, false, true, false⟩), (1, output 1), (2, output 2)]
        pipes := [], fifos := [], output := [], clock := 0, limit, deadlines := []
        counter := number + 1, signals := [], holders := [], ended := [], started := []
        others := [], next := none, isPressing := false, isStirred := false }
    ahead := [], pauses := []
    number, root := number, parent := callerNumber, group := [], above := [], thread := number
    place, directory := ""
    vars := environment.map fun e => (Octets.ofText e.1, ⟨some (Octets.ofText e.2), true, false⟩)
    functions := [], known := [], aliases := [], documents := [], nextDocument := 0
    name := "", args := [], options := [], status := 0, outputStatus := 0
    streams := [(0, 0), (1, 1), (2, 2)], traps := [], trapStatus := none, line := 0, reached := 0
    heading := none, skip := none, loops := 0, calls := 0, scopes := [], jobs := [], lastJob := none
    letter := (1, 0), mask := 18, unwritten := false, deadlines := [], met := 0, isShell := false }

/-- The error for a path that leads nowhere. -/
def lookupError : Fault → LookupError
  | .notDirectory => .notDirectory
  | .nameTooLong => .nameTooLong
  | _ => .missing

/-- The directory a process starts in, seen from a home, or why it cannot. -/
def startPlace (disk : Disk) (home : Nat) (cwd : Option Path) : Except SystemError Nat :=
  match cwd with
  | none => .ok home
  | some p =>
    let refuse (e : LookupError) : Except SystemError Nat := .error (e.toSystemError p.text)
    match disk.resolve true home (Octets.ofText p.text) with
    | .error fault => refuse (lookupError fault)
    | .ok spot =>
      match spot.found with
      | none => refuse .missing
      | some n => if disk.isDirectory n then .ok n else refuse .notDirectory

/-- How a process ended that had the given time limit. -/
def endingOf (timeout : Option Seconds) (r : Except Halt Unit) (m : Machine) :
    ProcessEnd timeout :=
  let stopped : ProcessEnd timeout :=
    match timeout with
    | some t => .late t rfl
    | none => .exited m.status
  match r with
  | .error .expired => stopped
  | .error .endless => if m.system.limit.isSome then stopped else .exited m.status
  | .error (.killed signal) => .killed signal
  | _ => .exited (m.status % 256)

/-- Runs a command line on a disk with the given files and waits for its end. -/
def spawn (files : FileTree) (r : ShellRequest) : Except SystemError (Capture r.timeout) := do
  let now := System.start * 10 ^ 9
  let disk := Installation.addTo now (Disk.ofTree now files)
  let (disk, home) := disk.addDirectories now Disk.root (files.home.map Octets.ofText)
  let place ← startPlace disk home r.cwd
  let words := ["/bin/sh", "-c", Octets.ofText r.line]
  let limit := r.timeout.bind microseconds?
  let (outcome, m) := (firstMachine disk place r.environment limit).runProgram "/bin/sh" words
  .ok ⟨endingOf r.timeout outcome m, ⟨m.collected 1, []⟩, ⟨m.collected 2, []⟩⟩

end CredoAssistant.Shell
