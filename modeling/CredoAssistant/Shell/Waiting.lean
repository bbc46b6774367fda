import CredoAssistant.Shell.Machine

/-!
Waiting. Time passes for a process while nothing else is to happen before; otherwise it pauses, and
others go on first.
-/
namespace CredoAssistant.Shell

namespace Wait

/-- The pipe that a wait is about. -/
def pipe? : Wait → Option Nat
  | moment _ => none
  | ends _ => none
  | input n _ => some n
  | close n => some n
  | room n => some n
  | unread n => some n
  | partner n .. => some n

def isOver (s : System) : Wait → Bool
  | moment time => time ≤ s.clock
  | ends numbers => numbers.all fun n => Entries.has n s.ended
  | input n count => !s.hasWriters n || count < (s.pipe n).written
  | close n => !s.hasWriters n
  | room n => !s.hasReaders n || (s.pipe n).hasRoom
  | unread n => !s.hasReaders n
  | partner n true count => s.hasWriters n || count < (s.pipe n).writersOpened
  | partner n false count => s.hasReaders n || count < (s.pipe n).readersOpened

/-- The time from which on a wait is over, if that is known. -/
def time? (s : System) (w : Wait) : Option Nat :=
  match w with
  | moment time => some time
  | w =>
    if w.isOver s then
      match w, w.pipe? with
      | ends numbers, _ =>
        some (numbers.foldl (fun t n => max t ((Entries.get? n s.ended).elim 0 Prod.fst)) 0)
      | _, some n => some (s.pipe n).changedAt
      | _, none => none
    else none

end Wait

/-- The time at which a process goes on, if nothing else happens before. -/
def Pause.time? (s : System) (p : Pause) : Option Nat :=
  let r := p.process.recipient
  let wakes (signal : Nat) : Bool := if p.heeds then r.notes signal else r.isFatal signal
  let signals := s.signals.filter fun e => e.target == r.number && wakes e.signal
  let times := p.waits.filterMap (Wait.time? s) ++ signals.map Sent.time
  times.min?.map (max p.time)

/-- How far ahead of others a process may go that may have changed what they wait for, in
microseconds. -/
def leeway : Nat := 1500

/-- Whether time can pass up to a moment with nothing else happening before. -/
def System.isFreeUpTo (s : System) (time : Nat) : Bool :=
  time ≤ s.clock
    || (!s.isPressing && s.next.all (time < ·) && (!s.isStirred || time < s.clock + leeway))

namespace Run

/-- Ends this process if a signal came that does. -/
def heed : Run Unit := do
  let m ← get
  match m.system.deadly? m.recipient with
  | some e => throw (.killed e.signal)
  | none => pure ()

/-- Lets others go on until something happens. -/
def pauseAt (pauses : List Pause) : Run Unit := do
  let m ← get
  match m.ahead with
  | system :: rest => set { m with system, ahead := rest }
  | [] => do
    set { m with pauses }
    throw .paused

/-- Lets others go on until a wait is over, or a signal comes. -/
def suspend (heeds : Bool) (waits : List Wait) : Run Unit := do
  let m ← get
  pauseAt [⟨m.toProcess, m.system.clock, waits, heeds⟩]
  heed

/-- Goes on at a moment. What others do before it happens before it. -/
def reach (time : Nat) : Run Unit := do
  if (← getSystem).isFreeUpTo time then modifySystem fun s => { s with clock := time }
  else suspend false [.moment time]

/-- The deadlines that come up to a moment and were not met yet, the first one first. -/
def deadlinesTo (time : Nat) : Run (List Deadline) := do
  let m ← get
  let due := m.system.deadlines.filter fun d =>
    m.deadlines.contains d.number && m.met < d.time && d.time ≤ time
  pure (due.mergeSort fun a b => decide (a.time ≤ b.time))

/-- Meets a deadline: the signal is ignored, or is on its way to what is done at it, or this is the
end. -/
def meet (d : Deadline) : Run Unit := do
  reach (max d.time (← getSystem).clock)
  let m ← get
  if m.system.deadlines.contains d then
    let action := if d.signal = 9 then none else Entries.get? d.signal m.traps
    match action with
    | some "" => set { m with met := d.time }
    | some _ => do
      set { m with met := d.time }
      modifySystem fun s => { s with signals := s.signals ++ [⟨d.time, m.number, d.signal⟩] }
    | none =>
      if Signal.isHarmless d.signal then set { m with met := d.time }
      else do
        modifySystem fun s => { s with clock := d.time }
        throw .expired

/-- A time that nothing reaches, in microseconds. -/
def never : Nat := 10 ^ 18

/-- Waits until one of several waits is over, or a signal comes that is heeded, through so many
deadlines at the most. -/
def awaitWithin (heeds : Bool) (waits : List Wait) : Nat → Run Unit
  | 0 => throw .endless
  | fuel + 1 => do
    let m ← get
    let isSeen (e : Sent) : Bool :=
      heeds && e.target == m.number && e.time ≤ m.system.clock && m.recipient.notes e.signal
    if waits.any (Wait.isOver m.system) || m.system.signals.any isSeen then pure ()
    else do
      let due := (← deadlinesTo never).head?
      suspend heeds (waits ++ due.toList.map fun d => .moment d.time)
      match due with
      | some d => if d.time ≤ (← getSystem).clock then meet d
      | none => pure ()
      awaitWithin heeds waits fuel

/-- How often a wait is taken up again at the most. -/
def mostWaits : Nat := 100000

/-- Waits until something has happened. -/
def await (w : Wait) : Run Unit := awaitWithin false [w] mostWaits

/-- The pipe that the output goes to, if it needs readers. -/
def outputPipe? : Run (Option Nat) := do
  let m ← get
  let out := (Entries.get? 1 m.streams).bind fun id => Entries.get? id m.system.handles
  match out.map Handle.channel with
  | some (.pipe n) => pure (if (m.system.pipe n).isBounded then some n else none)
  | _ => pure none

/-- Whether nobody reads the output any more. -/
def isUnread : Run Bool := do
  match ← outputPipe? with
  | some n => return !(← getSystem).hasReaders n
  | none => pure false

/-- All processes that run next to the one at work and those above it. -/
def elsewhere : Run (List Recipient) := do
  let s ← getSystem
  pure (s.others ++ s.started.map fun t => t.process.recipient)

/-- Whether there is a process with a number. -/
def isThere (number : Nat) : Run Bool := do
  let m ← get
  let near := 1 :: m.parent :: m.number :: m.group
  let isOther := (← elsewhere).any fun r => r.number == number
  pure (!Entries.has number m.system.ended && (near.contains number || isOther))

/-- Waits for what never comes. A process that writes to a pipe ends when nobody reads it. -/
def forever {α : Type} : Run α := do
  match ← outputPipe? with
  | some n => do
    await (.unread n)
    throw (.killed 13)
  | none => do
    awaitWithin false [] mostWaits
    throw .endless

/-- The time after which a process that has no limit counts as one that makes no end. -/
def horizon : Nat := 600 * 10 ^ 6

/-- Lets time pass up to a moment; nothing lives past the limit. -/
def waitUntil (time : Nat) : Run Unit := do
  let s ← getSystem
  let clock := max s.clock time
  let isLast := s.limit.any (· ≤ clock)
  let reached := if isLast then s.limit.getD clock else clock
  (← deadlinesTo reached).forM meet
  reach reached
  if isLast then throw .expired
  else if s.limit.isNone && horizon < clock then forever

def sleep (duration : Nat) : Run Unit := do
  waitUntil ((← getSystem).clock + duration)

end Run

end CredoAssistant.Shell
