import CredoAssistant.Entries
import CredoAssistant.Shell.Disk
import CredoAssistant.Shell.Script

/-!
The state of a running process, and of the system that all processes share: files, open streams and
the pipes that some of them lead to, what was written so far, and a clock that only waiting
advances. Signals have numbers and names.
-/
namespace CredoAssistant.Shell

/-! ### Streams -/

/-- What a stream leads to: a stream that the caller collects, a file, a pipe, a source of null
characters, nothing, or a device that never has room. -/
inductive Channel
  | captured (stream : Nat)
  | file (node : Nat)
  | pipe (number : Nat)
  | zeros
  | null
  | full
  deriving DecidableEq, Repr

/-- An open stream. Streams that were duplicated share their place in the file. -/
structure Handle where
  channel : Channel
  offset : Nat
  appends : Bool
  reads : Bool
  writes : Bool
  deriving DecidableEq, Repr

/-- A pipe: its bytes, of which `added` holds the newest, the last piece first; how many were ever
written and taken; when it changed last; whether it is `bounded`, so that it holds only so much and
nothing is written that nobody may read; whether it is `drained`, so that all of it will be read;
and how often it was opened by its name for reading and for writing. -/
structure Pipe where
  content : List Char
  added : List (List Char)
  written : Nat
  taken : Nat
  changedAt : Nat
  isBounded : Bool
  isDrained : Bool
  readersOpened : Nat
  writersOpened : Nat
  deriving Repr

namespace Pipe

def empty : Pipe := ⟨[], [], 0, 0, 0, false, false, 0, 0⟩

/-- A pipe that holds a text and gets no more. -/
def ofText (cs : List Char) : Pipe := { empty with content := cs, written := cs.length }

def add (p : Pipe) (cs : List Char) : Pipe :=
  { p with added := cs :: p.added, written := p.written + cs.length }

/-- All that is in a pipe. -/
def all (p : Pipe) : List Char :=
  if p.added.isEmpty then p.content else p.content ++ p.added.reverse.flatten

/-- Takes bytes out of a pipe. -/
def drop (p : Pipe) (count : Nat) : Pipe :=
  { p with content := p.all.drop count, added := [], taken := p.taken + count }

/-- A pipe whose bytes are lost. -/
def emptied (p : Pipe) : Pipe := { p with content := [], added := [], taken := p.written }

/-- The number of bytes from which on a pipe takes no more. -/
def capacity : Nat := 65536

/-- Whether a pipe takes more. -/
def hasRoom (p : Pipe) : Bool := p.isDrained || p.written < p.taken + capacity

end Pipe

/-! ### Signals -/

namespace Signal

/-- The names in the order of the numbers, from the end of a shell on. One signal has no name. -/
def names : List String :=
  ["EXIT", "HUP", "INT", "QUIT", "ILL", "TRAP", "ABRT", "BUS", "FPE", "KILL", "USR1", "SEGV",
    "USR2", "PIPE", "ALRM", "TERM", "16", "CHLD", "CONT", "STOP", "TSTP", "TTIN", "TTOU", "URG",
    "XCPU", "XFSZ", "VTALRM", "PROF", "WINCH", "IO", "PWR", "SYS"]

/-- What is said of a process that a signal ended. -/
def descriptions : List String :=
  ["", "Hangup", "Interrupt", "Quit", "Illegal instruction", "Trace/breakpoint trap", "Aborted",
    "Bus error", "Floating point exception", "Killed", "User defined signal 1",
    "Segmentation fault", "User defined signal 2", "Broken pipe", "Alarm clock", "Terminated",
    "Stack fault", "Child exited", "Continued", "Stopped (signal)", "Stopped",
    "Stopped (tty input)", "Stopped (tty output)", "Urgent I/O condition",
    "CPU time limit exceeded", "File size limit exceeded", "Virtual timer expired",
    "Profiling timer expired", "Window changed", "I/O possible", "Power failure",
    "Bad system call"]

/-- How many numbers there are. -/
def count : Nat := 65

/-- The name of a signal; the ones past the table count from the first or the last of them. -/
def name (n : Nat) : String :=
  match names[n]? with
  | some s => s
  | none =>
    if n = 34 then "RTMIN"
    else if n = 64 then "RTMAX"
    else if n < 34 then toString n
    else if n ≤ 49 then s!"RTMIN+{n - 34}"
    else s!"RTMAX-{64 - n}"

def description (n : Nat) : String := (descriptions[n]?).getD s!"Real-time signal {n - 34}"

/-- The signal of a name, which no beginning marks as a signal, or of a number from `low` on. -/
def ofText? (low : Nat) (s : String) : Option Nat :=
  if s != "" && s.toList.all Char.isDigit then
    let n := Nat.ofDigitChars 10 s.toList 0
    if low ≤ n && n < count then some n else none
  else
    let upper := String.ofList (s.toList.map Char.toUpper)
    ((List.range count).drop low).find? fun n => name n == upper

/-- Whether a process goes on when it gets the signal and has made no arrangements. -/
def isHarmless (n : Nat) : Bool := [0, 17, 18, 19, 20, 21, 22, 23, 28].contains n

/-- Whether the end of a process by this signal passes without a message. -/
def isQuiet (n : Nat) : Bool := [2, 13].contains n

end Signal

/-! ### State -/

/-- A piece of output: when it was written, and to which of the collected streams. -/
structure Output where
  time : Nat
  stream : Nat
  content : List Char
  deriving Repr

/-- A signal on its way: when it was sent, to which process, and its number. -/
structure Sent where
  time : Nat
  target : Nat
  signal : Nat
  deriving DecidableEq, Repr

/-- A moment at which a signal reaches all processes that are under it. -/
structure Deadline where
  number : Nat
  time : Nat
  signal : Nat
  deriving DecidableEq, Repr

/-- A variable of a shell; one without a value is only declared. -/
structure Variable where
  value : Option String
  exported : Bool
  constant : Bool
  deriving DecidableEq, Repr

/-- Why commands are passed over: a loop is left or goes on, so many loops around counted, or a
function returns. -/
inductive Skip
  | leave (loops : Nat)
  | next (loops : Nat)
  | back
  deriving DecidableEq, Repr

/-- How a process ended. -/
inductive Ending
  | exited (status : Nat)
  | killed (signal : Nat)
  deriving DecidableEq, Repr

/-- The status of a process for others. -/
def Ending.status : Ending → Nat
  | exited n => n % 256
  | killed signal => 128 + signal

/-- A command in the background: its number among those of its shell, how many processes it has next
to its first, and whether it was waited for. -/
structure Job where
  slot : Nat
  others : Nat
  waited : Bool
  deriving DecidableEq, Repr

/-- A process of its own number that signals can be sent to, and what it does at them. -/
structure Recipient where
  number : Nat
  traps : Entries Nat String
  deriving Repr

/-- Whether a signal ends a process: it has made no arrangements, or none can be made. -/
def Recipient.isFatal (r : Recipient) (signal : Nat) : Bool :=
  let isFinal := signal == 9 || signal == 19
  isFinal || ((Entries.get? signal r.traps).isNone && !Signal.isHarmless signal)

/-- Whether a signal is seen by a process: it is not ignored. -/
def Recipient.notes (r : Recipient) (signal : Nat) : Bool :=
  r.isFatal signal || (Entries.get? signal r.traps).any (· != "")

/-- A process as a shell. `number` is the number of its process and `root` that of the shell it is a
part of; `group` holds the processes above it that signals to all reach, `above` those that wait for
it, and `thread` is the process that it belongs to among those which run beside each other. `line`
is the line of the command at work and `reached` the one up to which the script was read. `known`
holds the paths under which programs were found, `letter` is the next argument and the place in it
that options are read from, `calls` how deep functions call each other, `trapStatus` the status from
before a trap, and `unwritten` says that output of the present command was lost. `deadlines` are the
numbers of those that it is under, and `met` is the time up to which their signals were met. A
program that is no shell hands its environment on as it is. -/
structure Process where
  number : Nat
  root : Nat
  parent : Nat
  group : List Nat
  above : List Recipient
  thread : Nat
  place : Nat
  directory : String
  vars : Entries String Variable
  functions : Entries String Command
  known : Entries String String
  aliases : Entries String String
  documents : Entries Nat Word
  nextDocument : Nat
  name : String
  args : List String
  options : List Char
  status : Nat
  outputStatus : Nat
  streams : Entries Nat Nat
  traps : Entries Nat String
  trapStatus : Option Nat
  line : Nat
  reached : Nat
  heading : Option String
  skip : Option Skip
  loops : Nat
  calls : Nat
  scopes : List (Entries String (Option Variable))
  jobs : Entries Nat Job
  lastJob : Option Nat
  letter : Nat × Nat
  mask : Nat
  unwritten : Bool
  deadlines : List Nat
  met : Nat
  isShell : Bool

/-- A process as signals see it. -/
def Process.recipient (p : Process) : Recipient := ⟨p.number, p.traps⟩

/-- All that signals can reach through a process: itself and those that wait for it. -/
def Process.recipients (p : Process) : List Recipient := p.recipient :: p.above

/-- A command that is to run beside others: its process as it starts, and when that is. -/
structure Branch where
  process : Process
  time : Nat
  targets : List Target
  command : Command

/-- What all processes share. Times are in microseconds; the newest output comes first. A limit is a
time at which everything is killed. `fifos` are the pipes of files by which such are named.
`holders` are the streams that those of the processes beside each other keep open, and `ended` tells
when one that was started in the background ended, and how. `started` are the ones that were started
last. `others` are the processes next to the one at work, of which the first goes on at the time
`next`; `isPressing` says that this may be at once, and `isStirred` that it may be soon. -/
structure System where
  disk : Disk
  handles : Entries Nat Handle
  pipes : Entries Nat Pipe
  fifos : Entries Nat Nat
  output : List Output
  clock : Nat
  limit : Option Nat
  deadlines : List Deadline
  counter : Nat
  signals : List Sent
  holders : List (Nat × Handle)
  ended : Entries Nat (Nat × Ending)
  started : List Branch
  others : List Recipient
  next : Option Nat
  isPressing : Bool
  isStirred : Bool

namespace System

/-- The moment at which the clock starts, in seconds since the year 1970. -/
def start : Int := 1767225600

/-- The time that files are marked with. It goes on in steps of four milliseconds. -/
def now (s : System) : Int := (start * 1000 + s.clock / 4000 * 4) * 1000000

/-- The first signal that has reached a process and ends it. -/
def deadly? (s : System) (r : Recipient) : Option Sent :=
  s.signals.find? fun e => e.target == r.number && e.time ≤ s.clock && r.isFatal e.signal

def pipe (s : System) (n : Nat) : Pipe := (Entries.get? n s.pipes).getD .empty

/-- Changes a pipe, which those that wait for it may notice. -/
def changePipe (n : Nat) (f : Pipe → Pipe) (s : System) : System :=
  let p := f (s.pipe n)
  { s with
    pipes := Entries.set n { p with changedAt := s.clock } s.pipes
    isStirred := s.isStirred || p.isBounded }

/-- Whether a pipe is kept open for writing. -/
def hasWriters (s : System) (n : Nat) : Bool :=
  s.holders.any fun h => h.2.channel == .pipe n && h.2.writes

/-- Whether a pipe is kept open for reading. -/
def hasReaders (s : System) (n : Nat) : Bool :=
  s.holders.any fun h => h.2.channel == .pipe n && h.2.reads

/-- Keeps only some of the streams open that a process keeps. -/
def keepOnly (owner : Nat) (kept : List Handle) (s : System) : System :=
  let (own, others) := s.holders.partition fun h => h.1 == owner
  let s := { s with holders := others ++ kept.map fun h => (owner, h) }
  own.foldl
    (fun s h =>
      match h.2.channel with
      | .pipe n => if kept.contains h.2 then s else s.changePipe n id
      | _ => s)
    s

/-- The streams that a process keeps open. -/
def heldBy (owner : Nat) (s : System) : List Handle :=
  (s.holders.filter fun h => h.1 == owner).map Prod.snd

end System

/-- What a process waits for: a moment; the ends of processes; that more than so many bytes were
written to a pipe, or nobody writes it any more; that nobody writes it; that there is room in it, or
nobody reads it; that nobody reads it; or that somebody opens its other end, which happened so often
before. -/
inductive Wait
  | moment (time : Nat)
  | ends (numbers : List Nat)
  | input (pipe count : Nat)
  | close (pipe : Nat)
  | room (pipe : Nat)
  | unread (pipe : Nat)
  | partner (pipe : Nat) (writes : Bool) (count : Nat)
  deriving DecidableEq, Repr

/-- A process that waits until one of several things happens, or a signal comes that ends it. With
`heeds` other signals wake it too. -/
structure Pause where
  process : Process
  time : Nat
  waits : List Wait
  heeds : Bool

/-- A process at work in its system. What it does next depends on nothing else, so that a process
which waits need not be kept: it is run again up to where it waits, through the systems it went on
with so far, which are `ahead` of it then. `pauses` are the places where it waits, of which there
are several when it stands for processes beside each other. -/
structure Machine extends Process where
  system : System
  ahead : List System
  pauses : List Pause

/-- Why a process ends: by itself, by an error that ends its script, in favour of another program,
by a signal, by the limit of time, or because it makes no end; or why it goes on later only. -/
inductive Halt
  | exit
  | fault
  | replaced
  | killed (signal : Nat)
  | expired
  | endless
  | paused
  deriving DecidableEq, Repr

/-- A step of a process. What it did remains when it halts. -/
abbrev Run := ExceptT Halt (StateM Machine)

namespace Run

/-- Runs a step and gives back how it ended. One that goes on later has not ended. -/
def attempt {α : Type} (step : Run α) : Run (Except Halt α) := fun m =>
  match step m with
  | (.error .paused, m) => (.error .paused, m)
  | (r, m) => (.ok r, m)

def modifySystem (f : System → System) : Run Unit :=
  modify fun m => { m with system := f m.system }

def getSystem : Run System := do return (← get).system

/-- A number that nothing else has. -/
def fresh : Run Nat := do
  let s ← getSystem
  modifySystem fun s => { s with counter := s.counter + 1 }
  pure s.counter

def setStatus (status : Nat) : Run Unit := modify fun m => { m with status }

end Run

namespace Machine

/-- What a collected stream got, in the order of time. -/
def collected (m : Machine) (stream : Nat) : List UInt8 :=
  let written := m.system.output.reverse.filter fun o => o.stream == stream
  let ordered := written.mergeSort fun a b => decide (a.time ≤ b.time)
  ordered.flatMap fun o => Octets.toBytes o.content

end Machine

end CredoAssistant.Shell
