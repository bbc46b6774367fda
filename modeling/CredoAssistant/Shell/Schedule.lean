import CredoAssistant.Shell.Waiting

/-!
Processes that run beside each other. The one that can go on first does so, up to where it has to
wait for others; it is run again from its start for that, through the systems that it has seen.
-/
namespace CredoAssistant.Shell

/-- A process beside others: its number, the process as it starts, what it does from then on, the
systems it went on with so far, and where it waits. -/
structure Thread where
  number : Nat
  start : Process
  body : Run Unit
  seen : List System
  pauses : List Pause

namespace Thread

/-- A process at its start. -/
def new (p : Process) (time : Nat) (body : Run Unit) : Thread :=
  ⟨p.number, p, body, [], [⟨p, time, [.moment time], false⟩]⟩

/-- The time at which a process goes on, if nothing else happens before. -/
def time? (s : System) (t : Thread) : Option Nat := (t.pauses.filterMap (Pause.time? s)).min?

/-- The process that goes on first, and when. -/
def first? (s : System) (ts : List Thread) : Option (Nat × Thread) :=
  ts.foldl
    (fun best t =>
      match t.time? s, best with
      | some time, some (least, _) => if time < least then some (time, t) else best
      | some time, none => some (time, t)
      | none, _ => best)
    none

/-- A system as a process meets it when it goes on. -/
def systemAt (time : Nat) (others : List Thread) (s : System) : System :=
  { s with
    clock := time, isPressing := false, isStirred := false
    next := (s.next.toList ++ others.filterMap (time? s)).min?
    others := s.others ++ others.flatMap fun t => t.pauses.flatMap fun p => p.process.recipients }

/-- Lets a process go on in a system, up to where it waits or to its end. -/
def resume (t : Thread) (s : System) : Except (Except Halt Unit × Machine) Thread × System :=
  let systems := t.seen ++ [s]
  let (r, m) := t.body
    { toProcess := t.start, system := systems.headD s, ahead := systems.tail, pauses := [] }
  match r with
  | .error .paused => (.ok { t with seen := systems, pauses := m.pauses }, m.system)
  | r => (.error (r, m), m.system)

/-- Puts a process in the place of the one with its number. -/
def replaceIn (ts : List Thread) (t : Thread) : List Thread :=
  ts.map fun u => if u.number = t.number then t else u

/-- How a process ended. -/
def endingOf (r : Except Halt Unit) (m : Machine) : Ending :=
  let isDue (d : Deadline) : Bool := m.deadlines.contains d.number && d.time == m.system.clock
  match r with
  | .error (.killed signal) => .killed signal
  | .error .expired => .killed (((m.system.deadlines.find? isDue).map Deadline.signal).getD 9)
  | _ => .exited m.status

end Thread

/-- How often processes go on at the most. -/
def mostTurns : Nat := 1000000

namespace Run

/-- Runs processes beside each other until all have ended: how and when each of them did. -/
def besideEachOther : Nat → List Thread → List (Nat × Nat × Ending) →
    Run (List (Nat × Nat × Ending))
  | 0, _, _ => throw .endless
  | fuel + 1, ts, endings => do
    if ts.isEmpty then return endings
    let s ← getSystem
    match (Thread.first? s ts).filter fun e => s.isFreeUpTo e.1 with
    | none => do
      pauseAt (ts.flatMap Thread.pauses)
      besideEachOther fuel ts endings
    | some (time, t) => do
      let others := ts.filter fun u => u.number != t.number
      let (r, after) := t.resume (Thread.systemAt time others s)
      let after :=
        { after with
          next := s.next, others := s.others, isPressing := s.isPressing || after.isPressing
          isStirred := s.isStirred || (after.isStirred && !s.others.isEmpty) }
      modifySystem fun _ => after
      match r with
      | .ok t => besideEachOther fuel (Thread.replaceIn ts t) endings
      | .error (r, m) => do
        if after.limit.any (· ≤ after.clock) then throw .expired
        modifySystem fun s => s.keepOnly t.number []
        besideEachOther fuel others ((t.number, after.clock, Thread.endingOf r m) :: endings)

end Run

/-- All processes beside each other. The first has a result when it has ended; all are late when
their time is over. -/
structure Schedule where
  system : System
  threads : List Thread
  result : Option (Except Halt Unit × Machine)
  isLate : Bool

namespace Schedule

/-- Lets a process go on at a time. `body` is what one in the background does. -/
def advance (body : Branch → Run Unit) (c : Schedule) (time : Nat) (t : Thread) : Schedule :=
  let others := c.threads.filter fun u => u.number != t.number
  let (r, after) := t.resume (Thread.systemAt time others c.system)
  let born := after.started.map fun u => Thread.new u.process u.time (body u)
  let s := { after with started := [], next := none, others := [] }
  match r with
  | .ok t => { c with system := s, threads := Thread.replaceIn c.threads t ++ born }
  | .error (r, m) =>
    let isFirst := c.result.isNone && c.threads.head?.any fun u => u.number == t.number
    let s := s.keepOnly t.number []
    let ended :=
      if Entries.has t.number s.ended then s.ended
      else Entries.set t.number (s.clock, Thread.endingOf r m) s.ended
    { system := { s with ended }
      threads := others ++ born
      result := if isFirst then some (r, m) else c.result
      isLate := s.limit.any (· ≤ s.clock) }

/-- Whether all that is collected is there: the first process has ended, and no other one may write
any more. -/
def isOver (c : Schedule) : Bool :=
  let isCollected (h : Nat × Handle) : Bool :=
    match h.2.channel with
    | .captured _ => h.2.writes
    | _ => false
  c.result.isSome && !c.system.holders.any isCollected

/-- Lets processes go on, so many times at the most. -/
def run (body : Branch → Run Unit) : Nat → Schedule → Schedule
  | 0, c => c
  | fuel + 1, c =>
    if c.isOver || c.isLate then c
    else
      match Thread.first? c.system c.threads with
      | none => { c with isLate := c.system.limit.isSome }
      | some (time, t) =>
        if c.system.limit.any (· ≤ time) then { c with isLate := true }
        else run body fuel (c.advance body time t)

end Schedule

/-- Runs a process with all that it starts, until what it and they write is complete. `body` is what
a command in the background does. -/
def Machine.runAll (m : Machine) (body : Branch → Run Unit) (step : Run Unit) :
    Except Halt Unit × Machine :=
  let first := Thread.new m.toProcess m.system.clock step
  let c := Schedule.run body mostTurns ⟨m.system, [first], none, false⟩
  let (r, last) := c.result.getD (.error .endless, m)
  (if c.isLate then .error .expired else r, { last with system := c.system })

end CredoAssistant.Shell
