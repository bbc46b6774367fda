import CredoAssistant.Shell.Condition
import CredoAssistant.Shell.Mode
import CredoAssistant.Shell.Format
import CredoAssistant.Shell.Pattern
import CredoAssistant.Shell.Token

/-!
Commands that a shell runs by itself and that run no other command.
-/
namespace CredoAssistant.Shell

/-- A text between single quotation marks, outside of which its own ones stand. -/
def inQuotes (s : String) : String :=
  let body := s.toList.flatMap fun c => if c = '\'' then "'\"'\"'".toList else [c]
  String.ofList ('\'' :: body ++ ['\''])

namespace Run

/-! Options of commands -/

/-- Reads the letters of one argument of options. A letter behind which the specification has a
colon takes what is left of the argument, or the next one. -/
def optionLetters (spec : List Char) (rest : List String) :
    List Char → Run (List (Char × String) × List String)
  | [] => pure ([], rest)
  | c :: letters => do
    match spec.dropWhile (· != c) with
    | [] => fail s!"Illegal option -{c}"
    | _ :: ':' :: _ =>
      if c = ':' then fail s!"Illegal option -{c}"
      else if letters.isEmpty then
        match rest with
        | [] => fail s!"No arg for -{c} option"
        | v :: rest => pure ([(c, v)], rest)
      else pure ([(c, String.ofList letters)], rest)
    | _ => do
      if c = ':' then fail s!"Illegal option -{c}"
      else do
        let (more, rest) ← optionLetters spec rest letters
        pure ((c, "") :: more, rest)

/-- The options in front of some arguments, and the other arguments. -/
def optionsFrom (spec : List Char) : Nat → List String → Run (List (Char × String) × List String)
  | 0, args => pure ([], args)
  | fuel + 1, args => do
    match args with
    | [] => pure ([], [])
    | a :: rest =>
      match a.toList with
      | ['-', '-'] => pure ([], rest)
      | '-' :: c :: letters => do
        let (os, rest) ← optionLetters spec rest (c :: letters)
        let (more, rest) ← optionsFrom spec fuel rest
        pure (os ++ more, rest)
      | _ => pure ([], args)

def commandOptions (spec : String) (args : List String) :
    Run (List (Char × String) × List String) :=
  optionsFrom spec.toList (args.length + 1) args

/-! Directories -/

/-- A path written from the root on, seen from a directory that is. -/
def normalized (directory path : String) : String :=
  let full :=
    if path.startsWith "/" then path
    else if directory.endsWith "/" then directory ++ path
    else directory ++ "/" ++ path
  let lead := if Path.anchorOf full.toList == .doubleRoot then "//" else "/"
  let parts := (Path.split full).foldl
    (fun acc part =>
      if part = "" ∨ part = "." then acc
      else if part = ".." then acc.dropLast
      else acc ++ [part])
    []
  lead ++ "/".intercalate parts

/-- Changes the working directory; whether that was possible. The path is taken by its names, so
that two dots undo a name, unless it is to be `physical`. -/
def enter (physical : Bool) (path : String) : Run Bool := do
  let before := (← get).directory
  let named := normalized before path
  match ← node true (if physical then path else named) with
  | .error _ => pure false
  | .ok (place, i) => do
    if i.isDirectory then do
      let d ← disk
      let new := if physical then d.directoryPath place else named
      setVariable "OLDPWD" before
      update "OLDPWD" fun v => { v with exported := true }
      modify fun m => { m with place, directory := new }
      setVariable "PWD" new
      update "PWD" fun v => { v with exported := true }
      pure true
    else pure false

/-- The paths that a directory may have: below each of the search paths, and as it is written. -/
def searchedPaths (target : String) : Run (List (String × Bool)) := do
  let relative := target.startsWith "./" || target.startsWith "../" || [".", ".."].contains target
  if target.startsWith "/" || relative then pure [(target, false)]
  else do
    let search := (((← value? "CDPATH").getD "").splitOn ":").filter (· != "")
    pure (search.map (fun d => (d ++ "/" ++ target, true)) ++ [(target, false)])

/-- Enters the first of some directories; whether there was one, and whether it is to be shown. -/
def enterFirst (physical : Bool) : List (String × Bool) → Run (Option Bool)
  | [] => pure none
  | (path, shown) :: rest => do
    if ← enter physical path then pure (some shown) else enterFirst physical rest

/-- Whether the last of some options asks for paths without symbolic links. -/
def isPhysical (os : List (Char × String)) : Bool := os.getLast?.map Prod.fst == some 'P'

def changeDirectory (args : List String) : Run Nat := do
  let (os, rest) ← commandOptions "LP" args
  let (target, shown) ←
    match rest with
    | [] => do pure ((← value? "HOME").getD "", false)
    | "-" :: _ => do pure ((← value? "OLDPWD").getD "", true)
    | a :: _ => pure (a, false)
  match ← enterFirst (isPhysical os) (← searchedPaths (if target = "" then "." else target)) with
  | none => fail s!"can't cd to {target}"
  | some found => do
    if shown || found then print ((← get).directory ++ "\n")
    pure 0

/-! Variables -/

/-- The name and the value of an argument that may assign one. -/
def splitAssignment (s : String) : String × Option String :=
  let name := s.toList.takeWhile (· != '=')
  match s.toList.drop name.length with
  | [] => (s, none)
  | _ :: value => (String.ofList name, some (String.ofList value))

def checkName (name : String) : Run Unit := do
  if isName name.toList then pure () else fail s!"{name}: bad variable name"

/-- Lists the variables that `p` selects, as commands that would set them. -/
def showVariables (lead : String) (p : Variable → Bool) : Run Unit := do
  let chosen := (← get).vars.filter fun e => p e.2
  let ordered := chosen.mergeSort fun a b => decide (a.1 ≤ b.1)
  let line (e : String × Variable) : String :=
    lead ++ e.1 ++ ((e.2.value.map fun v => "=" ++ inQuotes v).getD "") ++ "\n"
  print (String.join (ordered.map line))

/-- Declares variables, with values where they are given. -/
def declare (command : String) (p : Variable → Bool) (f : Variable → Variable)
    (args : List String) : Run Nat := do
  let (os, names) ← commandOptions "p" args
  if !os.isEmpty || names.isEmpty then showVariables (command ++ " ") p
  else
    names.forM fun a => do
      let (name, v) := splitAssignment a
      checkName name
      match v with
      | some v => setVariable name v
      | none => pure ()
      update name f
  pure 0

def unset (args : List String) : Run Nat := do
  let (os, names) ← commandOptions "vf" args
  let functions := (os.getLast?.map Prod.fst) == some 'f'
  names.forM fun name =>
    if functions then modify fun m => { m with functions := Entries.erase name m.functions }
    else do
      let name := (splitAssignment name).1
      checkName name
      unsetVariable name
  pure 0

/-- Remembers a variable, to be put back when the present scope is left. -/
def remember (name : String) : Run Unit :=
  modify fun m =>
    match m.scopes with
    | [] => m
    | scope :: rest =>
      if Entries.has name scope then m
      else { m with scopes := Entries.set name (Entries.get? name m.vars) scope :: rest }

/-- The name under which a scope keeps the options of the shell. -/
def optionsName : String := "-"

/-- Remembers the options, to be put back when the present scope is left. -/
def keepOptions : Run Unit :=
  modify fun m =>
    match m.scopes with
    | [] => m
    | scope :: rest =>
      let kept : Variable := ⟨some (String.ofList m.options), false, false⟩
      if Entries.has optionsName scope then m
      else { m with scopes := Entries.set optionsName (some kept) scope :: rest }

/-- Makes variables of a function its own until it returns. -/
def localize (args : List String) : Run Nat := do
  if (← get).scopes.isEmpty then fail "not in a function"
  else
    args.forM fun a => do
      let (name, v) := splitAssignment a
      if name = "-" then keepOptions
      else do
        checkName name
        remember name
        match v with
        | some v => setVariable name v
        | none => pure ()
  pure 0

/-! Options and arguments of the shell -/

/-- The names of the options by their letters. The last two have none, and signs that nobody can
type stand in their place. -/
def optionNames : List (Char × String) :=
  [('e', "errexit"), ('f', "noglob"), ('I', "ignoreeof"), ('i', "interactive"), ('m', "monitor"),
    ('n', "noexec"), ('s', "stdin"), ('x', "xtrace"), ('v', "verbose"), ('V', "vi"), ('E', "emacs"),
    ('C', "noclobber"), ('a', "allexport"), ('b', "notify"), ('u', "nounset"), ('p', "privileged"),
    ('\x01', "nolog"), ('\x02', "debug")]

/-- Turns an option on or off. -/
def setOption (on : Bool) (c : Char) : Run Unit := do
  if optionNames.any fun o => o.1 == c then
    modify fun m =>
      let others := m.options.filter (· != c)
      let wanted := if on then c :: others else others
      { m with options := (optionNames.map Prod.fst).filter wanted.contains }
  else fail s!"Illegal option -{c}"

/-- Turns an option on or off by its name, or lists all of them. -/
def setNamedOption (on : Bool) : Option String → Run Unit
  | some name =>
    match optionNames.find? fun o => o.2 == name with
    | some o => setOption on o.1
    | none => fail s!"Illegal option -o {name}"
  | none => do
    let options := (← get).options
    let state (o : Char × String) : String :=
      if on then
        let blanks := String.ofList (List.replicate (16 - o.2.length) ' ')
        o.2 ++ blanks ++ (if options.contains o.1 then "on" else "off") ++ "\n"
      else "set " ++ (if options.contains o.1 then "-o " else "+o ") ++ o.2 ++ "\n"
    print ((if on then "Current option settings\n" else "") ++ String.join (optionNames.map state))

/-- What the options in front of some arguments leave: the other arguments, whether they replace
those of the shell even when there are none, and whether a command is given by its text. -/
structure ShellOptions where
  rest : List String
  replaces : Bool
  hasText : Bool

/-- Applies the letters of one argument of options. -/
def applyLetters (starting on : Bool) (rest : List String) (hasText : Bool) :
    List Char → Run (List String × Bool)
  | [] => pure (rest, hasText)
  | c :: letters => do
    if c = 'c' ∧ starting then applyLetters starting on rest true letters
    else if c = 'l' ∧ starting then applyLetters starting on rest hasText letters
    else if c = 'o' then do
      setNamedOption on rest.head?
      applyLetters starting on rest.tail hasText letters
    else do
      setOption on c
      applyLetters starting on rest hasText letters

/-- Applies the options in front of some arguments. -/
def applyOptions (starting : Bool) : Nat → Bool → List String → Run ShellOptions
  | 0, hasText, args => pure ⟨args, false, hasText⟩
  | fuel + 1, hasText, args => do
    match args with
    | [] => pure ⟨[], false, hasText⟩
    | a :: rest =>
      match a.toList with
      | ['-'] => do
        if !starting then
          modify fun m => { m with options := m.options.filter fun c => c != 'x' && c != 'v' }
        pure ⟨rest, false, hasText⟩
      | ['-', '-'] => pure ⟨rest, true, hasText⟩
      | sign :: letters =>
        if sign = '-' ∨ sign = '+' then do
          let (rest, hasText) ← applyLetters starting (sign == '-') rest hasText letters
          applyOptions starting fuel hasText rest
        else pure ⟨args, false, hasText⟩
      | [] => pure ⟨args, false, hasText⟩

def setOptions (args : List String) : Run Nat := do
  if args.isEmpty then showVariables "" fun v => v.value.isSome
  else do
    let o ← applyOptions false (args.length + 1) false args
    if o.replaces || !o.rest.isEmpty then
      modify fun m => { m with args := o.rest, letter := (1, 0) }
  pure 0

def shift (args : List String) : Run Nat := do
  let n ←
    match args with
    | [] => pure 1
    | a :: _ => natural a
  let m ← get
  if m.args.length < n then fail "can't shift that many"
  else do
    set { m with args := m.args.drop n, letter := (1, 0) }
    pure 0

/-- The state of reading options: the number of the next argument, and the letters that are left of
the one before it. -/
structure OptionState where
  next : Nat
  letters : List Char

/-- Reads the next option of some arguments: its letter, or `?` or `:` for a wrong one, its
argument, and the state behind it. -/
def nextOption (spec : List Char) (args : List String) (s : OptionState) :
    Run (Option (Char × Option String × OptionState)) := do
  let start : Option OptionState :=
    if s.letters.isEmpty then
      match (args[s.next - 1]?).map String.toList with
      | some ['-', '-'] => none
      | some ('-' :: c :: letters) => some ⟨s.next + 1, c :: letters⟩
      | _ => none
    else some s
  match start with
  | none => pure none
  | some s =>
    match s.letters with
    | [] => pure none
    | c :: letters => do
      let silent := spec.head? == some ':'
      let behind := (if silent then spec.tail else spec).dropWhile (· != c)
      if behind.isEmpty || c == ':' then
        if silent then pure (some ('?', some (String.singleton c), ⟨s.next, letters⟩))
        else do
          say 2 s!"Illegal option -{c}\n"
          pure (some ('?', none, ⟨s.next, letters⟩))
      else if behind[1]? = some ':' then
        if !letters.isEmpty then pure (some (c, some (String.ofList letters), ⟨s.next, []⟩))
        else
          match args[s.next - 1]? with
          | some v => pure (some (c, some v, ⟨s.next + 1, []⟩))
          | none =>
            if silent then pure (some (':', some (String.singleton c), ⟨s.next, []⟩))
            else do
              say 2 s!"No arg for -{c} option\n"
              pure (some ('?', none, ⟨s.next, []⟩))
      else pure (some (c, some "", ⟨s.next, letters⟩))

def getOptions (args : List String) : Run Nat := do
  match args with
  | spec :: name :: rest => do
    let m ← get
    let args := if rest.isEmpty then m.args else rest
    let next := m.letter.1
    let letters :=
      if m.letter.2 = 0 then [] else ((args[next - 2]?).getD "").toList.drop m.letter.2
    match ← nextOption spec.toList args ⟨next, letters⟩ with
    | none => do
      let skipped := args[next - 1]? = some "--"
      let next := if skipped then next + 1 else next
      setVariable "OPTIND" (toString next)
      setVariable name "?"
      modify fun m => { m with letter := (next, 0) }
      pure 1
    | some (c, value, s) => do
      match value with
      | some v => setVariable "OPTARG" v
      | none => unsetVariable "OPTARG"
      setVariable "OPTIND" (toString s.next)
      setVariable name (String.singleton c)
      let length := ((args[s.next - 2]?).getD "").length
      let offset := if s.letters.isEmpty then 0 else length - s.letters.length
      modify fun m => { m with letter := (s.next, offset) }
      pure 0
  | _ => fail "Usage: getopts optstring var [arg...]"

/-! Reading -/

/-- A line of the input with its escapes: the characters, and whether each was escaped; what it
took; and whether it was ended. -/
def escapedLine (raw : Bool) : List Char → List Marked × Nat × Bool
  | [] => ([], 0, false)
  | '\n' :: _ => ([], 1, true)
  | '\\' :: rest =>
    if raw then
      let (cs, n, ended) := escapedLine raw rest
      (('\\', false) :: cs, n + 1, ended)
    else
      match rest with
      | [] => ([], 1, false)
      | c :: rest =>
        let (cs, n, ended) := escapedLine raw rest
        (if c = '\n' then cs else (c, true) :: cs, n + 2, ended)
  | c :: rest =>
    let (cs, n, ended) := escapedLine raw rest
    ((c, false) :: cs, n + 1, ended)

/-- Cuts a line into the values of some variables. The last one takes what is left, without the
blanks at its end, and without its separator when it is a single field. -/
def fieldsOf (separators : List Char) (cs : List Marked) : Nat → List String
  | 0 => []
  | n + 1 =>
    let isSeparator (m : Marked) : Bool := separators.contains m.1 && !m.2
    let isBlank (m : Marked) : Bool :=
      isSeparator m && (m.1 == ' ' || m.1 == '\t' || m.1 == '\n')
    let text (cs : List Marked) : String := String.ofList (cs.map Prod.fst)
    let cs := cs.dropWhile isBlank
    let field := cs.takeWhile fun m => !isSeparator m
    let behind := (cs.drop field.length).dropWhile isBlank
    let behind :=
      match behind with
      | m :: rest => if isSeparator m then rest.dropWhile isBlank else behind
      | [] => []
    if n = 0 then
      if behind.isEmpty then [text field]
      else [text (cs.reverse.dropWhile isBlank).reverse]
    else text field :: fieldsOf separators behind n

def read (args : List String) : Run Nat := do
  let (os, names) ← commandOptions "p:r" args
  if names.isEmpty then fail "arg count"
  else do
    let raw := os.any fun o => o.1 == 'r'
    let input ← availableUpTo 0 fun cs => (escapedLine raw cs).2.2
    let (cs, taken, ended) := escapedLine raw input
    consume 0 taken
    let separators := ((← value? "IFS").map String.toList).getD [' ', '\t', '\n']
    let values := fieldsOf separators cs names.length
    (names.zip values).forM fun (name, value) => do
      checkName name
      setVariable name value
    pure (if ended then 0 else 1)

/-! Processes -/

/-- The command in the background that a name stands for: the last one, the one before it or one by
its number. With `control`, none is under the control of the shell. -/
def jobOf (control : Bool) (name : Option String) : Run (Nat × Job) := do
  let newest := (← get).jobs.reverse
  let (found, missing) ←
    match name with
    | none => pure (newest.head?, "No current job")
    | some s =>
      if ["%", "%+", "%%"].contains s then pure (newest.head?, "No current job")
      else if s = "%-" then pure ((newest.drop 1).head?, "No previous job")
      else
        pure (newest.find? fun e => s == s!"%{e.2.slot}", s!"No such job: {s}")
  match found with
  | none => fail missing
  | some e =>
    if control then
      let shown := name.getD "(null)"
      fail s!"job {shown} not created under job control"
    else pure e

/-- What is told of the state of a command in the background. -/
def stateOf : Option Ending → String
  | none => "Running"
  | some (.exited n) => if n % 256 = 0 then "Done" else s!"Done({n % 256})"
  | some (.killed signal) => Signal.description signal

/-- Tells the state of a command in the background, or its process; one that has ended is
forgotten. -/
def showJob (numbers onlyNumber : Bool) (number : Nat) : Run Unit := do
  let m ← get
  let newest := m.jobs.reverse
  match Entries.get? number m.jobs with
  | none => pure ()
  | some j => do
    if onlyNumber then print s!"{number}\n"
    else
      let sign :=
        if newest.head?.any fun e => e.1 == number then '+'
        else if (newest.drop 1).head?.any fun e => e.1 == number then '-'
        else ' '
      let front := s!"[{j.slot}] {sign} " ++ (if numbers then s!"{number} " else "")
      let ending := (Entries.get? number m.system.ended).map Prod.snd
      let line := front ++ stateOf ending
      let gap := String.ofList (List.replicate (max 1 (33 - line.length)) ' ')
      print (line ++ gap ++ String.join (List.replicate j.others " | ") ++ "\n")
      if ending.isSome then
        modify fun m => { m with jobs := Entries.erase number m.jobs }

/-- Tells the states of commands in the background, the last one first. -/
def showJobs (args : List String) : Run Nat := do
  let (os, names) ← commandOptions "lp" args
  let last := os.getLast?.map Prod.fst
  let tell (number : Nat) : Run Unit := showJob (last == some 'l') (last == some 'p') number
  if names.isEmpty then (← get).jobs.reverse.forM fun e => tell e.1
  else names.forM fun name => do tell (← jobOf false (some name)).1
  pure 0

/-- Refuses to take a command out of the background. -/
def control (args : List String) : Run Nat := do
  let (_, names) ← commandOptions "" args
  let _ ← jobOf true names.head?
  pure 0

/-- Sends a signal to a process; whether there is one. A process that waits for another one ends at
once, and the other one goes on without it. -/
def send (signal target : Nat) : Run Bool := do
  let post (isPressing : Bool) : Run Unit :=
    modifySystem fun s =>
      { s with
        signals := s.signals ++ [⟨s.clock, target, signal⟩]
        isPressing := s.isPressing || isPressing }
  if !(← isThere target) then pure false
  else
    match (← elsewhere).find? fun r => r.number == target with
    | some r => do
      if signal ≠ 0 && r.notes signal then do
        post true
        if r.isFatal signal then
          modifySystem fun s =>
            { s with ended := Entries.set target (s.clock, .killed signal) s.ended }
      pure true
    | none => do
      if signal ≠ 0 then post false
      pure true

/-- Sends a signal to a group of processes, which zero or the first of them stands for; whether
there is one. -/
def sendToGroup (signal target : Nat) : Run Bool := do
  let m ← get
  let members := m.number :: m.group
  if target = 0 || members.getLast? == some target then do
    let away := ((← elsewhere).map Recipient.number).filter fun n => !members.contains n
    (away ++ members).forM fun number => do
      let _ ← send signal number
    pure true
  else pure false

def killUsage : String :=
  "Usage: kill [-s sigspec | -signum | -sigspec] [pid | job]... or\nkill -l [exitstatus]"

/-- Lists signals, or names one of them. -/
def listSignals (args : List String) : Run Nat := do
  match args with
  | [] => do
    let names := ((List.range Signal.count).drop 1).map fun n => Signal.name n ++ "\n"
    print ("0\n" ++ String.join names)
    pure 0
  | a :: _ => do
    let n ← natural a
    let n := if 128 < n then n - 128 else n
    if 0 < n ∧ n < Signal.count then do
      print (Signal.name n ++ "\n")
      pure 0
    else fail s!"invalid signal number or exit status: {a}"

/-- The signal and the targets that the arguments name; no signal when they are to be listed. -/
def signalArguments (args : List String) : Run (Option Nat × List String) := do
  match args with
  | a :: rest =>
    if a.startsWith "-" then
      match Signal.ofText? 0 (a.drop 1).toString with
      | some n => pure (some n, rest)
      | none => do
        let (os, rest) ← commandOptions "ls:" args
        if os.any fun o => o.1 == 'l' then pure (none, rest)
        else
          match os.getLast? with
          | some (_, name) =>
            match Signal.ofText? 0 name with
            | some n => pure (some n, rest)
            | none => fail s!"invalid signal number or name: {name}"
          | none => pure (some 15, rest)
    else pure (some 15, args)
  | [] => fail killUsage

def kill (args : List String) : Run Nat := do
  match ← signalArguments args with
  | (none, rest) => listSignals rest
  | (some _, []) => fail killUsage
  | (some signal, targets) =>
    targets.foldlM
      (fun status a => do
        let group := a.startsWith "-"
        let isJob := a.startsWith "%"
        let target ←
          if isJob then do pure (← jobOf false (some a)).1
          else natural (if group then (a.drop 1).toString else a)
        let isGroup := group || isJob || target == 0
        if ← if isGroup then sendToGroup signal target else send signal target then pure status
        else do
          warn "No such process\n"
          pure 1)
      0

/-- The status of a process that was waited for. What killed it is told. -/
def report (ending : Ending) : Run Nat := do
  match ending with
  | .exited _ => pure ()
  | .killed signal =>
    if Signal.isQuiet signal then pure () else say 2 (Signal.description signal ++ "\n")
  pure ending.status

/-- Waits for the ends of commands in the background. A signal to this shell comes before them; with
it comes the status that it gives. -/
def waitForEnds (numbers : List Nat) : Run (Option Nat) := do
  awaitWithin true [.ends numbers] mostWaits
  heed
  let m ← get
  let isSeen (e : Sent) : Bool :=
    e.target == m.number && e.time ≤ m.system.clock && m.recipient.notes e.signal
  pure ((m.system.signals.find? isSeen).map fun e => 128 + e.signal)

/-- Waits for commands in the background. -/
def wait (args : List String) : Run Nat := do
  let (_, targets) ← commandOptions "" args
  let mark (numbers : List Nat) : Run Unit :=
    modify fun m =>
      { m with
        jobs := m.jobs.map fun e =>
          if numbers.contains e.1 then (e.1, { e.2 with waited := true }) else e }
  if targets.isEmpty then do
    let stopped ← waitForEnds (Entries.keys (← get).jobs)
    let s ← getSystem
    mark ((Entries.keys (← get).jobs).filter fun n => Entries.has n s.ended)
    pure (stopped.getD 0)
  else
    targets.foldlM
      (fun _ a => do
        let target ← if a.startsWith "%" then do pure (← jobOf false (some a)).1 else natural a
        if !Entries.has target (← get).jobs then pure 127
        else
          match ← waitForEnds [target] with
          | some status => pure status
          | none => do
            mark [target]
            match Entries.get? target (← getSystem).ended with
            | some (_, ending) => report ending
            | none => pure 127)
      0

/-- Sets, removes or lists what is done at signals and at the end. -/
def trap (args : List String) : Run Nat := do
  let (_, rest) ← commandOptions "" args
  match rest with
  | [] => do
    let ordered := (← get).traps.mergeSort fun a b => decide (a.1 ≤ b.1)
    let line (e : Nat × String) : String := s!"trap -- {inQuotes e.2} {Signal.name e.1}\n"
    print (String.join (ordered.map line))
    pure 0
  | first :: more => do
    let isSignal := (Signal.ofText? 0 first).isSome && first.toList.all Char.isDigit
    let (action, names) :=
      if more.isEmpty || isSignal then (none, rest)
      else (if first = "-" then none else some first, more)
    names.foldlM
      (fun status name => do
        if status ≠ 0 then pure status
        else
          match Signal.ofText? 0 name with
          | none => do
            say 2 s!"trap: {name}: bad trap\n"
            pure 1
          | some n => do
            modify fun m =>
              match action with
              | some s => { m with traps := Entries.set n s m.traps }
              | none => { m with traps := Entries.erase n m.traps }
            pure 0)
      0

/-- The permissions that new files do not get. -/
def umask (args : List String) : Run Nat := do
  let (os, rest) ← commandOptions "S" args
  match rest with
  | [] => do
    let mask := (← get).mask
    if os.isEmpty then
      let ds := Nat.toDigits 8 mask
      print (String.ofList (List.replicate (4 - ds.length) '0' ++ ds) ++ "\n")
    else
      let part (name : String) (shift : Nat) : String :=
        let bits := 7 - mask / 8 ^ shift % 8
        name ++ "=" ++ (if bits / 4 = 1 then "r" else "") ++ (if bits / 2 % 2 = 1 then "w" else "")
          ++ (if bits % 2 = 1 then "x" else "")
      print (",".intercalate [part "u" 2, part "g" 1, part "o" 0] ++ "\n")
    pure 0
  | a :: _ => do
    if (a.toList.head?).any Char.isDigit then
      if a.toList.all Escape.isOctal then do
        modify fun m => { m with mask := Arithmetic.ofDigits 8 a.toList % 512 }
        pure 0
      else fail s!"Illegal number: {a}"
    else
      match Mode.parse? a with
      | some changes => do
        modify fun m => { m with mask := 511 - Mode.apply false 0 changes (511 - m.mask) % 512 }
        pure 0
      | none => fail s!"Illegal mode: {a}"

/-- Other names of commands. -/
def setAlias (args : List String) : Run Nat := do
  if args.isEmpty then do
    let m ← get
    print (String.join (m.aliases.map fun e => e.1 ++ "=" ++ inQuotes e.2 ++ "\n"))
    pure 0
  else
    args.foldlM
      (fun status a => do
        let (name, value) := splitAssignment a
        match value with
        | some v => do
          modify fun m => { m with aliases := Entries.set name v m.aliases }
          pure status
        | none =>
          match Entries.get? name (← get).aliases with
          | some v => do
            print (name ++ "=" ++ inQuotes v ++ "\n")
            pure status
          | none => do
            say 2 s!"alias: {name} not found\n"
            pure 1)
      0

def unalias (args : List String) : Run Nat := do
  let (os, names) ← commandOptions "a" args
  if !os.isEmpty then do
    modify fun m => { m with aliases := [] }
    pure 0
  else
    names.foldlM
      (fun status name => do
        if Entries.has name (← get).aliases then do
          modify fun m => { m with aliases := Entries.erase name m.aliases }
          pure status
        else do
          say 2 s!"unalias: {name} not found\n"
          pure 1)
      0

/-! Leaving -/

/-- Leaves loops, or goes on with the next round of one. -/
def skipLoops (leaves : Bool) (args : List String) : Run Nat := do
  let n ←
    match args with
    | [] => pure 1
    | a :: _ => do
      let n ← natural a
      if n = 0 then fail s!"Illegal number: {a}" else pure n
  let m ← get
  let n := min n m.loops
  if 0 < n then set { m with skip := some (if leaves then .leave n else .next n) }
  pure 0

/-- Returns from a function or a script with a status. -/
def giveBack (args : List String) : Run Nat := do
  let status ←
    match args with
    | [] => do pure (← get).status
    | a :: _ => natural a
  modify fun m => { m with skip := some .back }
  pure status

/-- Ends the shell with a status, in a trap with the one from before it. -/
def leave (args : List String) : Run Nat := do
  match args with
  | [] => do
    match (← get).trapStatus with
    | some status => setStatus status
    | none => pure ()
  | a :: _ => setStatus (← natural a)
  throw .exit

/-- A command that needs no other one, if there is one of this name. -/
def builtin? (name : String) (args : List String) : Option (Run Nat) :=
  match name with
  | ":" => some (pure 0)
  | "true" => some (pure 0)
  | "false" => some (pure 1)
  | "echo" => some do
    print (String.ofList (echoText args))
    pure 0
  | "printf" => some do
    let (_, rest) ← commandOptions "" args
    printf rest
  | "test" => some (test name args)
  | "[" => some (test name args)
  | "pwd" => some do
    let (os, _) ← commandOptions "LP" args
    let m ← get
    print ((if isPhysical os then m.system.disk.directoryPath m.place else m.directory) ++ "\n")
    pure 0
  | "cd" => some (changeDirectory args)
  | "chdir" => some (changeDirectory args)
  | "exit" => some (leave args)
  | "return" => some (giveBack args)
  | "break" => some (skipLoops true args)
  | "continue" => some (skipLoops false args)
  | "export" =>
    some (declare name (fun v => v.exported) (fun v => { v with exported := true }) args)
  | "readonly" =>
    some (declare name (fun v => v.constant) (fun v => { v with constant := true }) args)
  | "unset" => some (unset args)
  | "local" => some (localize args)
  | "set" => some (setOptions args)
  | "shift" => some (shift args)
  | "getopts" => some (getOptions args)
  | "read" => some (read args)
  | "kill" => some (kill args)
  | "wait" => some (wait args)
  | "trap" => some (trap args)
  | "umask" => some (umask args)
  | "alias" => some (setAlias args)
  | "unalias" => some (unalias args)
  | "times" => some do
    print "0m0.000000s 0m0.000000s\n0m0.000000s 0m0.000000s\n"
    pure 0
  | "ulimit" => some do
    let (os, rest) ← commandOptions "HSatfdscmlpnvwr" args
    let which := ((os.map Prod.fst).filter fun c => c != 'H' && c != 'S').getLast?
    match rest with
    | [] =>
      print (match which with
        | some 'c' => if os.any fun o => o.1 == 'H' then "unlimited\n" else "0\n"
        | some 'r' => "0\n"
        | some 's' => "8192\n"
        | some 'l' => "8192\n"
        | _ => "unlimited\n")
    | a :: _ =>
      if a = "unlimited" || a.toList.all Char.isDigit then pure () else fail "bad number"
    pure 0
  | "jobs" => some (showJobs args)
  | "fg" => some (control args)
  | "bg" => some (control args)
  | _ => none

end Run

end CredoAssistant.Shell
