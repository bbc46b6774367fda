import CredoAssistant.Shell.Evaluation
import CredoAssistant.Shell.Program.Files

/-!
Programs that wait and tell the time, and those that put another program into their place: with
other variables, for a length of time, or apart from signals.
-/
namespace CredoAssistant.Shell.Program

/-- A length of time in microseconds, in seconds or with a unit behind it. One without end is none
at all. -/
def duration? (s : String) : Option (Option Nat) :=
  match Floating.read? .extended s.toList with
  | none => none
  | some r =>
    let unit : Option Nat :=
      match r.rest with
      | [] => some 1
      | ['s'] => some 1
      | ['m'] => some 60
      | ['h'] => some 3600
      | ['d'] => some 86400
      | _ => none
    unit.bind fun unit =>
      match r.value with
      | .nan _ => none
      | .infinite negative => if negative then none else some none
      | .finite negative m e =>
        if negative && m ≠ 0 then none
        else
          let (num, den) := Binary64.scaled (m * 1000000 * unit) 1 (-e)
          some (some ((num + den - 1) / den))

def sleep : Body := fun self args => do
  let a ← arguments self (.ofText "" []) 1 args
  if a.operands.isEmpty then misuse self "missing operand" 1
  let times := a.operands.map fun s => (s, duration? s)
  let bad := times.filter fun t => t.2.isNone
  bad.forM fun t => do complain self s!"invalid time interval {← named t.1}"
  if !bad.isEmpty then do
    Run.say 2 s!"Try '{self} --help' for more information.\n"
    quit 1
  else do
    times.forM fun t =>
      match t.2 with
      | some (some n) => Run.sleep n
      | _ => Run.forever
    pure 0

/-- Tells the time, now or at another moment, in a format. -/
def date : Body := fun self args => do
  let a ← arguments self
    (.ofText "d:f:I;Rr:s:u\x01:"
      [("date", 'd'), ("file", 'f'), ("iso-8601", 'I'), ("rfc-email", 'R'), ("rfc-2822", 'R'),
        ("rfc-3339", '\x01'), ("reference", 'r'), ("set", 's'), ("utc", 'u'), ("universal", 'u')])
    1 args
  let zone ← if a.has 'u' then pure Zone.universal else zoneOf
  let now := (← Run.getSystem).now
  let format ←
    match a.operands with
    | [] => pure none
    | [x] =>
      if x.startsWith "+" then pure (some (x.drop 1).toString)
      else do
        complain self s!"invalid date {← named x}"
        quit 1
    | _ :: y :: _ => misuse self s!"extra operand {← named y}" 1
  let standard ←
    match (a.options.filter fun o => "IR\x01".toList.contains o.1).getLast? with
    | none => pure "%a %b %e %H:%M:%S %Z %Y"
    | some ('R', _) => pure "%a, %d %b %Y %H:%M:%S %z"
    | some ('\x01', v) =>
      choice self "--rfc-3339" v
        [("date", "%Y-%m-%d"), ("seconds", "%Y-%m-%d %H:%M:%S%:z"),
          ("ns", "%Y-%m-%d %H:%M:%S.%N%:z")]
    | some (_, v) =>
      if v = "" then pure "%Y-%m-%d"
      else
        choice self "--iso-8601" v
          [("hours", "%Y-%m-%dT%H%:z"), ("minutes", "%Y-%m-%dT%H:%M%:z"), ("date", "%Y-%m-%d"),
            ("seconds", "%Y-%m-%dT%H:%M:%S%:z"), ("ns", "%Y-%m-%dT%H:%M:%S,%N%:z")]
  if format.isSome && standard != "%a %b %e %H:%M:%S %Z %Y" then do
    complain self "multiple output formats specified"
    quit 1
  let calendar (t : Int) : Calendar := Calendar.ofNanoseconds zone.offset t
  let tell (t : Int) : Run Unit :=
    putText self ((calendar t).formatText zone.name (format.getD standard) ++ "\n")
  let showText (text : String) : Run Bool := do
    match DateText.read? (calendar now) text with
    | some t => do
      tell t
      pure false
    | none => fails self s!"invalid date {← named text}"
  match a.value? 'f', a.value? 'r', (a.value? 'd').orElse fun _ => a.value? 's' with
  | some file, _, _ => do
    match ← contents file with
    | .error e => do
      complain self s!"{← shellName false file}: {e.reason}"
      pure 1
    | .ok cs => do
      return statusOf (← anyFails (linesOf cs).1 fun l => showText (String.ofList l))
  | none, some file, _ => do
    match ← Run.node true file with
    | .error e => do
      complain self s!"{← shellName false file}: {e.reason}"
      pure 1
    | .ok (_, i) => do
      tell i.changed
      pure 0
  | none, none, some text => return statusOf (← showText text)
  | none, none, none => do
    tell now
    pure 0

/-- Puts another program into the place of this one; what is wrong if there is none. -/
def become (e : Evaluator) (argv : List String) : Run Fault := do
  let path := (← Run.value? "PATH").getD "/bin:/usr/bin"
  match ← Run.programPath (argv.headD "") path with
  | .ok path => e.execute path argv
  | .error r => pure r

/-- Puts another program into the place of this one, with a complaint if there is none. -/
def becomeOr (e : Evaluator) (self words : String) (utf8 : Bool) (argv : List String) :
    Run Nat := do
  let r ← become e argv
  let name := quotedIn utf8 (argv.headD "")
  complain self s!"{words}{name}: {r.reason}"
  pure r.launcherStatus

/-- The name and the value of a text with an equals sign. -/
def binding (s : String) : String × String :=
  let name := s.toList.takeWhile (· != '=')
  (String.ofList name, String.ofList (s.toList.drop (name.length + 1)))

def env (e : Evaluator) : Body := fun self args => do
  let utf8 ← usesUtf8
  let spec := Spec.ofText "iC:0u:vS:"
    [("ignore-environment", 'i'), ("null", '0'), ("unset", 'u'), ("chdir", 'C'), ("debug", 'v'),
      ("split-string", 'S')]
  let a ← arguments self { spec with strict := true } 125 args
  let split := (a.options.filter fun o => o.1 == 'S').flatMap fun o =>
    (o.2.splitOn " ").filter (· != "")
  let operands := split ++ a.operands
  let isBare := operands.head? == some "-"
  let operands := if isBare then operands.tail else operands
  if a.has 'i' || isBare then modify fun m => { m with vars := [] }
  (a.options.filter fun o => o.1 == 'u').forM fun o => do
    if o.2 = "" || o.2.toList.contains '=' then do
      complain self s!"cannot unset {← named o.2}: Invalid argument"
      quit 125
    else modify fun m => { m with vars := Entries.erase o.2 m.vars }
  let bindings := operands.takeWhile fun s => s.toList.contains '='
  let command := operands.drop bindings.length
  bindings.forM fun s =>
    let (name, value) := binding s
    Run.update name fun _ => ⟨some value, true, false⟩
  if a.has '0' && !command.isEmpty then misuse self "cannot specify --null (-0) with command" 125
  match a.value? 'C' with
  | none => pure ()
  | some dir => do
    if command.isEmpty then misuse self "must specify command with --chdir (-C)" 125
    match ← Run.node true dir with
    | .ok (place, i) =>
      if i.isDirectory then modify fun m => { m with place }
      else do
        complain self s!"cannot change directory to {← shellName true dir}: Not a directory"
        quit 125
    | .error fault => do
      complain self s!"cannot change directory to {← shellName true dir}: {fault.reason}"
      quit 125
  if command.isEmpty then do
    let close := if a.has '0' then "\x00" else "\n"
    (← get).vars.forM fun v => putText self (v.1 ++ "=" ++ v.2.value.getD "" ++ close)
    pure 0
  else becomeOr e self "" utf8 command

def nohup (e : Evaluator) : Body := fun self args => do
  let spec := Spec.ofText "" []
  let a ← arguments self { spec with strict := true } 125 args
  if a.operands.isEmpty then misuse self "missing operand" 125
  else becomeOr e self "failed to run command " (← usesUtf8) a.operands

def nice (e : Evaluator) : Body := fun self args => do
  let spec := Spec.ofText "n:" [("adjustment", 'n')]
  let a ← arguments self { spec with strict := true } 125 args
  if a.operands.isEmpty then do
    putText self "0\n"
    pure 0
  else becomeOr e self "" (← usesUtf8) a.operands

def setsid (e : Evaluator) : Body := fun self args => do
  let spec := Spec.ofText "cfw" [("ctty", 'c'), ("fork", 'f'), ("wait", 'w')]
  let a ← arguments self { spec with strict := true } 1 args
  if a.operands.isEmpty then misuse self "no command specified" 1
  else becomeOr e self "failed to execute " (← usesUtf8) a.operands

/-- Takes a step as of an earlier moment. -/
def asOf (time : Nat) (step : Run Unit) : Run Unit := do
  let now := (← Run.getSystem).clock
  Run.modifySystem fun s => { s with clock := time }
  step
  Run.modifySystem fun s => { s with clock := now }

/-- Runs a program for a length of time at the most. What it starts gets the signal, and later a
deadly one if it is still there. -/
def timeout (e : Evaluator) : Body := fun self args => do
  let spec := Spec.ofText "k:s:v\x01\x02"
    [("kill-after", 'k'), ("signal", 's'), ("verbose", 'v'), ("foreground", '\x01'),
      ("preserve-status", '\x02')]
  let a ← arguments self { spec with strict := true } 125 args
  let time (text : String) : Run (Option Nat) := do
    match duration? text with
    | none => misuse self s!"invalid time interval {← named text}" 125
    | some duration => pure (duration.filter (· != 0))
  let mends ← (a.options.filter fun o => o.1 == 'k' || o.1 == 's').mapM fun (c, v) => do
    if c = 'k' then do return (← time v, none)
    else
      match Signal.ofText? 0 v with
      | some n => pure ((none : Option Nat), some n)
      | none => misuse self s!"{← named v}: invalid signal" 125
  let signal := ((mends.filterMap Prod.snd).getLast?).getD 15
  let grace := (mends.filterMap Prod.fst).getLast?
  match a.operands with
  | text :: command =>
    if command.isEmpty then hint self 125
    let duration ← time text
    let start := (← Run.getSystem).clock
    let number ← Run.fresh
    let later ← Run.fresh
    let own : List Deadline :=
      match duration with
      | none => []
      | some d =>
        ⟨number, start + d, signal⟩ ::
          (grace.map fun g => Deadline.mk later (start + d + g) 9).toList
    let utf8 ← usesUtf8
    let outer := (← get).deadlines
    let met := (← get).met
    let child : Run Unit := do
      modify fun m => { m with met, deadlines := outer ++ own.map Deadline.number }
      Run.setStatus (← becomeOr e self "failed to run command " utf8 command)
    Run.modifySystem fun s => { s with deadlines := s.deadlines ++ own }
    modify fun m => { m with deadlines := [] }
    let r ← Run.attempt (Run.fork child)
    modify fun m => { m with deadlines := outer }
    Run.modifySystem fun s => { s with deadlines := s.deadlines.filter fun d => !own.contains d }
    let clock := (← Run.getSystem).clock
    let fired := own.filter fun d => d.time ≤ clock
    if a.has 'v' then
      fired.forM fun d => asOf (d.time - 1) do
        let name := quotedIn utf8 (command.headD "")
        complain self s!"sending signal {Signal.name d.signal} to command {name}"
    if fired.any fun d => d.signal == 9 then throw (.killed 9)
    let late (status : Nat) : Run Nat := pure (if a.has '\x02' then status else 124)
    match r with
    | .ok (_, .exited status) => if fired.isEmpty then pure status else late status
    | .ok (_, .killed s) => if fired.isEmpty then throw (.killed s) else late (128 + s)
    | .error .expired => if fired.isEmpty then throw .expired else late (128 + signal)
    | .error h => throw h
  | [] => hint self 125

end CredoAssistant.Shell.Program
