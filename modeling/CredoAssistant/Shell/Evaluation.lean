import CredoAssistant.Shell.Grammar
import CredoAssistant.Shell.Lookup
import CredoAssistant.Shell.Process
import CredoAssistant.Shell.Redirection

/-!
Running shell commands. A command that holds others runs them by an evaluator of less depth, so that
commands in each other end; loops take steps of their own.
-/
namespace CredoAssistant.Shell

/-- How a command stands in its shell: it is `tested` when its failure is looked at, and `last` when
nothing comes behind it. -/
structure Stance where
  tested : Bool
  last : Bool
  deriving DecidableEq, Repr

namespace Stance

def plain : Stance := ⟨false, false⟩

/-- That of a test. -/
def test : Stance := ⟨true, false⟩

/-- That of all that a process does. -/
def whole : Stance := ⟨false, true⟩

/-- That of a part which something may follow. -/
def inner (s : Stance) : Stance := { s with last := false }

end Stance

/-- What commands need to run others: a command; the commands of a text or of a script; and a
program in the place of this process, which comes back only when there is none. -/
structure Evaluator where
  tree : Stance → Command → Run Nat
  text : Stance → List Char → Run Nat
  script : List Char → Run Nat
  execute : String → List String → Run Fault

/-- A simple command with as many fields of it as tell what it is; `seen` holds those in front that
only say how it is looked up. -/
structure Invocation where
  seen : List String
  fields : List String
  rest : List Word
  found : Found
  noFunction : Bool
  standard : Bool
  isSpecial : Bool

/-- What a loop does after commands were passed over. -/
inductive Onward
  | go
  | next
  | leave
  | back
  deriving DecidableEq, Repr

namespace Run

variable (e : Evaluator)

/-! The end of a shell -/

/-- Runs what was asked for at the end. The status from before stays, unless the action ends with
one of its own. -/
def runFinalTrap : Run Unit := do
  let m ← get
  match Entries.get? 0 m.traps with
  | none => pure ()
  | some action => do
    set { m with traps := Entries.erase 0 m.traps, trapStatus := some m.status, skip := none }
    match ← attempt (e.text .plain action.toList) with
    | .ok _ => setStatus m.status
    | .error .exit => pure ()
    | .error .fault => pure ()
    | .error h => throw h

/-- Runs a shell up to its end. -/
def asShell (step : Run Unit) : Run Unit := do
  match ← attempt step with
  | .ok _ => runFinalTrap e
  | .error .exit => runFinalTrap e
  | .error .fault => runFinalTrap e
  | .error .replaced => pure ()
  | .error h => throw h

/-- What a command writes. -/
def outputOfCommand (c : Command) : Run String :=
  outputOf (asShell e do
    let _ ← e.tree .whole c)

/-! Signals -/

/-- Does what is due at a signal. -/
def attendTo (signal : Nat) : Run Unit := do
  let m ← get
  match Entries.get? signal m.traps with
  | some "" => if m.recipient.isFatal signal then throw (.killed signal)
  | some action => do
    if m.recipient.isFatal signal then throw (.killed signal)
    let status := m.trapStatus.getD m.status
    set { m with trapStatus := some status }
    let _ ← e.text .plain action.toList
    modify fun inner => { inner with trapStatus := m.trapStatus }
    if (← get).skip != some .back then setStatus status
  | none => if m.recipient.isFatal signal then throw (.killed signal)

def attend : Run Unit := do
  if (← getSystem).signals.isEmpty then pure ()
  else do
    let signals ← takeSignals
    signals.forM (attendTo e)

/-! Simple commands -/

/-- At least one field of some words, if they have any. -/
def firstFields : List String → List Word → Run (List String × List Word)
  | [], w :: rest => do firstFields (← expandFields (outputOfCommand e) w) rest
  | fields, rest => pure (fields, rest)

/-- Steps over the options that say how a command is looked up. There may be no command behind them,
or other options. -/
def skipLookupOptions : Nat → Invocation → Run (Bool × Invocation)
  | 0, i => pure (false, i)
  | fuel + 1, i => do
    let (fields, rest) ← firstFields e i.fields i.rest
    let i := { i with fields, rest }
    match fields with
    | [] => pure (false, i)
    | a :: more =>
      match a.toList with
      | ['-', '-'] => do
        let (fields, rest) ← firstFields e more rest
        pure (!fields.isEmpty, { i with seen := i.seen ++ [a], fields, rest })
      | '-' :: c :: letters =>
        if (c :: letters).all (· == 'p') then
          skipLookupOptions fuel { i with seen := i.seen ++ [a], fields := more, standard := true }
        else pure (false, i)
      | _ => pure (true, i)

/-- Finds out what the first field stands for. -/
def lookUp : Nat → Invocation → Run Invocation
  | 0, i => pure i
  | fuel + 1, i => do
    match i.fields with
    | [] => pure i
    | name :: more => do
      let found ← find i.noFunction name
      let isCommand :=
        match found with
        | .plain => name == "command"
        | _ => false
      let isSpecial :=
        match found with
        | .special => i.seen.isEmpty
        | _ => false
      let i := { i with found, isSpecial }
      if !isCommand then pure i
      else do
        let (isThere, j) ←
          skipLookupOptions e (i.rest.length + more.length + 2)
            { i with seen := i.seen ++ [name], fields := more }
        if isThere then lookUp fuel { j with noFunction := true }
        else
          let own := j.seen.drop i.seen.length ++ j.fields
          pure { i with fields := own, rest := j.rest }

/-- Commands whose arguments may be assignments. -/
def assigning : List String := ["alias", "export", "local", "readonly"]

/-- Expands the words that are left of a command. -/
def expandRest (i : Invocation) : Run Invocation := do
  let isProgram :=
    match i.found with
    | .special => false
    | .plain => false
    | _ => true
  let assigns := !isProgram && i.fields.head?.any assigning.contains
  let more ← i.rest.foldlM
    (fun acc w => do
      if assigns && isAssignment w then do
        let (name, value) ← expandAssignment (outputOfCommand e) w
        pure (acc ++ [name ++ "=" ++ value])
      else return acc ++ (← expandFields (outputOfCommand e) w))
    []
  pure { i with fields := i.fields ++ more, rest := [] }

/-- Leaves a scope. -/
def leaveScope : Run Unit :=
  modify fun m =>
    match m.scopes with
    | [] => m
    | scope :: rest =>
      let vars := (Entries.erase optionsName scope).foldl
        (fun vs e =>
          match e.2 with
          | some v => Entries.set e.1 v vs
          | none => Entries.erase e.1 vs)
        m.vars
      let options :=
        match Entries.get? optionsName scope with
        | some (some v) => (v.value.getD "").toList
        | _ => m.options
      let known := if Entries.has "PATH" scope then [] else m.known
      { m with vars, options, known, scopes := rest }

/-- Runs a step with variables of its own, if it is to have any. -/
def inScope (isOwn : Bool) (step : Run Nat) : Run Nat := do
  if !isOwn then step
  else do
    modify fun m => { m with scopes := [] :: m.scopes }
    let r ← attempt step
    leaveScope
    match r with
    | .ok status => pure status
    | .error h => throw h

/-- Carries out the assignments in front of a command: `name=value` for each. -/
def assignAll (isOwn exports : Bool) (ws : List Word) : Run (List String) :=
  ws.mapM fun w => do
    let (name, value) ← expandAssignment (outputOfCommand e) w
    if isOwn then remember name
    setVariable name value
    if isOwn || exports then update name fun v => { v with exported := true }
    pure (name ++ "=" ++ value)

/-- The mark in front of the commands that are shown. What runs for it is not shown itself. -/
def traceMark : Run String := do
  let text := (← value? "PS4").getD ""
  match Parse.template.run (.ofChars text.toList [] 0) with
  | .error _ => pure text
  | .ok (word, _) => do
    let options := (← get).options
    modify fun m => { m with options := options.filter (· != 'x') }
    let mark ← expandText (outputOfCommand e) word
    modify fun m => { m with options }
    pure mark

/-- Shows a command before it runs, where the errors went before its redirections. -/
def trace (streams : Entries Nat Nat) (texts : List String) : Run Unit := do
  if ← hasOption 'x' then do
    let now := (← get).streams
    let mark ← traceMark e
    modify fun m => { m with streams }
    say 2 (mark ++ " ".intercalate texts ++ "\n")
    modify fun m => { m with streams := now }

/-- How deep functions call each other at the most. -/
def mostCalls : Nat := 1000

/-- Calls a function. -/
def call (stance : Stance) (body : Command) (args : List String) : Run Nat := do
  let m ← get
  if mostCalls ≤ m.calls then
    fail s!"Maximum function recursion depth ({mostCalls}) reached"
  set { m with args, loops := 0, calls := m.calls + 1, letter := (1, 0) }
  let r ← attempt (e.tree stance.inner body)
  modify fun inner =>
    { inner with
      args := m.args, loops := m.loops, calls := m.calls, letter := m.letter
      skip := if inner.skip = some .back then none else inner.skip }
  match r with
  | .ok _ => do return (← get).status
  | .error h => throw h

/-- Ends this process, which could not become another program. -/
def refuse (name : String) (r : Fault) : Run Nat := do
  warn s!"{name}: {r.startMessage}"
  setStatus r.startStatus
  throw .exit

/-- Puts a program into the place of this process. -/
def become (name : String) (args : List String) : Run Nat := do
  match ← programPath name (← searchPath) with
  | .ok path => do refuse name (← e.execute path (name :: args))
  | .error r => refuse name r

/-- The file that a script is read from by its name. -/
def scriptPath (name : String) : Run String := do
  if name.toList.contains '/' then pure name
  else do
    let paths := (directoriesOf (← searchPath)).map fun dir => below dir name
    let files ← paths.filterM fun path => do
      match ← node true path with
      | .ok (_, i) => pure i.isFile
      | .error _ => pure false
    match files with
    | path :: _ => pure path
    | [] => fail s!"{name}: not found"

/-- Runs the commands of a file in this shell. -/
def source (args : List String) : Run Nat := do
  let (_, rest) ← commandOptions "" args
  match rest with
  | [] => pure 0
  | name :: _ => do
    let path ← scriptPath name
    match ← openFile .read path with
    | .error fault => fail s!"cannot open {path}: {fault.openMessage false}"
    | .ok h => do
      let cs ←
        match h.channel with
        | .file n => do pure (Octets.ofBytes ((← disk).bytes n))
        | _ => pure []
      modify fun m => { m with heading := some path }
      e.script cs

/-- What a command of the shell does. -/
def builtinStep (stance : Stance) (name : String) (args : List String) : Run Nat := do
  match name with
  | "eval" => if args.isEmpty then pure 0 else e.text stance.inner (" ".intercalate args).toList
  | "." => source e args
  | "exec" => do
    match (← commandOptions "" args).2 with
    | [] => pure 0
    | program :: rest => become e program rest
  | "command" => do
    let (os, rest) ← commandOptions "pvV" args
    let verbose := os.any fun o => o.1 == 'V'
    match rest with
    | [] => pure 0
    | a :: _ =>
      if verbose || os.any fun o => o.1 == 'v' then
        describe verbose (os.any fun o => o.1 == 'p') a
      else pure 0
  | "hash" => hash args
  | "type" => args.foldlM (fun status a => do return status ||| (← describe true false a)) 0
  | _ =>
    match builtin? name args with
    | some step => step
    | none => pure 0

/-- Runs a command of the shell. A special one that fails ends the shell. -/
def runBuiltin (stance : Stance) (isSpecial : Bool) (name : String) (args : List String) :
    Run Nat := do
  let heading := (← get).heading
  modify fun m => { m with heading := some name, unwritten := false }
  let r ← attempt do
    let status ← builtinStep e stance name args
    if (← get).unwritten then do
      warn s!"{name}: I/O error"
      pure (status ||| 1)
    else pure status
  modify fun m => { m with heading, unwritten := false }
  match r with
  | .ok status => do
    setStatus status
    pure status
  | .error .fault => do
    if isSpecial then throw .fault else return (← get).status
  | .error h => throw h

/-- Whether something is to be done at a signal or at the end. -/
def hasTraps : Run Bool := do return (← get).traps.any fun t => t.2 != ""

/-- Runs a command whose fields are all there. A program that is the last command takes the place of
this process. -/
def runFields (stance : Stance) (i : Invocation) : Run Nat := do
  match i.fields with
  | [] => pure 0
  | name :: args =>
    match i.found with
    | .function body => call e stance body args
    | .special => runBuiltin e stance i.isSpecial name args
    | .plain => runBuiltin e stance false name args
    | .program => do
      match ← locateProgram i.standard name with
      | .error r => do
        warn s!"{name}: {r.startMessage}"
        pure 127
      | .ok file =>
        if stance.last && !(← hasTraps) then refuse name (← e.execute file i.fields)
        else
          forkAndWait do
            let _ ← refuse name (← e.execute file i.fields)

/-- Runs a simple command. -/
def simple (stance : Stance) (line : Nat) (assignments words : List Word)
    (redirects : List Redirect) : Run Nat := do
  modify fun m => { m with line, outputStatus := 0 }
  let (fields, rest) ← firstFields e [] words
  let i ← lookUp e (fields.length + rest.length + 1)
    ⟨[], fields, rest, .program, false, false, false⟩
  let i ← expandRest e i
  let isExec := i.fields.head? == some "exec" &&
    match i.found with
    | .special => true
    | _ => false
  let isOwn := !i.fields.isEmpty && !i.isSpecial
  let before := (← get).streams
  inScope isOwn do
    let ts ← targets (outputOfCommand e) redirects
    let refused : Run Nat := do
      setStatus 2
      if i.isSpecial then throw .fault else pure 2
    let step : Run Nat := do
      let texts ← assignAll e isOwn (isExec && 1 < i.fields.length) assignments
      trace e before (texts ++ i.seen ++ i.fields)
      if i.fields.isEmpty then return (← get).outputStatus else runFields e stance i
    withTargets (outputOfCommand e) ts refused step (pure isExec)

/-! Compound commands -/

/-- Sees what a loop does after commands were passed over. -/
def onward : Run Onward := do
  let m ← get
  match m.skip with
  | none => pure .go
  | some .back => pure .back
  | some (.leave n) => do
    set { m with skip := if n ≤ 1 then none else some (.leave (n - 1)) }
    pure .leave
  | some (.next n) => do
    set { m with skip := if n ≤ 1 then none else some (.next (n - 1)) }
    pure (if n ≤ 1 then .next else .leave)

/-- How long a round of a loop takes, in microseconds. -/
def roundTime : Nat := 20

/-- Runs a loop. -/
def rounds (stance : Stance) (whileTrue : Bool) (test body : Command) : Nat → Nat → Run Nat
  | 0, _ => forever
  | fuel + 1, status => do
    sleep roundTime
    let i ← e.tree .test test
    match ← onward with
    | .back => pure i
    | .leave => pure status
    | .next => rounds stance whileTrue test body fuel status
    | .go =>
      if (i == 0) != whileTrue then pure status
      else do
        let status ← e.tree stance.inner body
        match ← onward with
        | .back => pure status
        | .leave => pure status
        | _ => rounds stance whileTrue test body fuel status

/-- How many rounds a loop can have. -/
def mostRounds : Nat := 100000

/-- Runs a body for each of some values. -/
def overValues (stance : Stance) (name : String) (body : Command) (status : Nat) :
    List String → Run Nat
  | [] => pure status
  | v :: rest => do
    setVariable name v
    let status ← e.tree stance.inner body
    match ← onward with
    | .back => pure status
    | .leave => pure status
    | _ => overValues stance name body status rest

/-- Runs a step inside one more loop. -/
def inLoop (step : Run Nat) : Run Nat := do
  modify fun m => { m with loops := m.loops + 1 }
  let status ← step
  modify fun m => { m with loops := m.loops - 1 }
  pure status

/-- The body of the first case with a pattern that stands for a text. -/
def chosen (subject : String) : List Case → Run (Option Command)
  | [] => pure none
  | .mk patterns body :: rest => do
    let fits ← patterns.foldlM
      (fun found w => do
        if found then pure true
        else return Glob.isMatch false (← expandPattern (outputOfCommand e) w) subject.toList)
      false
    if fits then pure (some body) else chosen subject rest

/-- Runs commands in turn until some are passed over. -/
def inTurn (stance : Stance) : List Command → Run Nat
  | [] => do return (← get).status
  | [c] => e.tree stance c
  | c :: rest => do
    let status ← e.tree stance.inner c
    if (← get).skip.isSome then pure status else inTurn stance rest

/-- Runs a command in a shell of its own. -/
def ownShell (stance : Stance) (ts : List Target) (body : Command) : Run Unit :=
  asShell e do
    ts.forM (carryOut (outputOfCommand e) false)
    let _ ← e.tree stance body

/-- The streams that a command in the background keeps. -/
def keptStreams (streams : Entries Nat Nat) : Command → Entries Nat Nat
  | .simple _ _ _ rs => redirectedStreams streams rs
  | .subshell _ _ rs => redirectedStreams streams rs
  | _ => streams

/-- Whether the failure of a command ends a shell that ends at failures. -/
def isChecked : Command → Bool
  | .simple .. => true
  | .subshell .. => true
  | .background .. => true
  | .pipe _ => true
  | _ => false

/-- Runs a command and gives its status. -/
def treeStep (stance : Stance) (c : Command) : Run Nat := do
  let out := outputOfCommand e
  match c with
  | .nothing => do return (← get).status
  | .simple line assignments words redirects => simple e stance line assignments words redirects
  | .sequence cs => inTurn e stance cs
  | .both a b => do
    let status ← e.tree .test a
    if status ≠ 0 || (← get).skip.isSome then pure status else e.tree stance b
  | .either a b => do
    let status ← e.tree .test a
    if status = 0 || (← get).skip.isSome then pure status else e.tree stance b
  | .negate a => do
    let status ← e.tree .test a
    let isLeft := (← get).skip.isSome
    pure (if isLeft then status else if status = 0 then 1 else 0)
  | .conditional test yes no => do
    let status ← e.tree .test test
    if (← get).skip.isSome then pure status
    else if status = 0 then e.tree stance yes
    else
      match no with
      | .nothing => pure 0
      | no => e.tree stance no
  | .loop whileTrue test body => inLoop (rounds e stance whileTrue test body mostRounds 0)
  | .each line name words body => do
    modify fun m => { m with line }
    let values ← expandAll out words
    inLoop (overValues e stance name body 0 values)
  | .choice line subject cases => do
    modify fun m => { m with line }
    let subject ← expandText out subject
    match ← chosen e subject cases with
    | none => pure 0
    | some .nothing => pure 0
    | some body => e.tree stance body
  | .define name body => do
    modify fun m => { m with functions := Entries.set name body m.functions }
    pure 0
  | .redirected line body redirects => do
    modify fun m => { m with line }
    let ts ← targets out redirects
    withTargets out ts (pure 2) (e.tree stance.inner body) (pure false)
  | .subshell line body redirects => do
    modify fun m => { m with line }
    let ts ← targets out redirects
    let own := ownShell e { stance with last := true } ts body
    if stance.last && !(← hasTraps) then do
      own
      throw .exit
    else forkAndWait own
  | .background _ body redirects => do
    let ts ← targets out redirects
    let kept := redirectedStreams (keptStreams (← get).streams body) redirects
    let others :=
      match body with
      | .pipe parts => parts.length - 1
      | _ => 0
    inBackground kept others ts body
    pure 0
  | .pipe parts => pipeline (parts.map (ownShell e { stance with last := true } []))

/-- Runs a command. Signals are attended to before and after it. -/
def tree (stance : Stance) (c : Command) : Run Nat := do
  if ← hasOption 'n' then return (← get).status
  else do
    attend e
    let status ← treeStep e stance c
    setStatus status
    attend e
    if isChecked c && !stance.tested && status ≠ 0 && (← hasOption 'e') then throw .exit
    else return (← get).status

/-! Texts -/

/-- Runs the commands of a text line by line, until some are passed over. With `echoes` the shell
may show the lines as it reads them. -/
def lines (stance : Stance) (echoes : Bool) : Nat → Reader → Nat → Run Nat
  | 0, _, status => pure status
  | fuel + 1, r, status => do
    let m ← get
    match Parse.line.run { r with aliases := m.aliases, nextDocument := m.nextDocument } with
    | .error fault => do
      modify fun m => { m with line := fault.line }
      fail s!"Syntax error: {fault.fault.message}"
    | .ok (c, r') => do
      set { m with
        documents := Entries.update m.documents r'.documents
        nextDocument := r'.nextDocument, reached := r'.line }
      if echoes && (← hasOption 'v') then
        say 2 (String.ofList (r.rest.take (r.rest.length - r'.rest.length)))
      let r' := { r' with documents := [] }
      match c with
      | none => pure status
      | some .nothing => lines stance echoes fuel r' status
      | some c => do
        let status ← e.tree stance c
        if (← get).skip.isSome then pure status else lines stance echoes fuel r' status

/-- Runs the commands of a text. -/
def text (stance : Stance) (cs : List Char) : Run Nat :=
  lines e stance false (cs.length + 2) (.ofChars cs [] 0) 0

/-- Runs the commands of a script, which can be left early. -/
def script (cs : List Char) : Run Nat := do
  let status ← lines e .plain true (cs.length + 2) (.ofChars cs [] 0) 0
  modify fun m => { m with skip := if m.skip = some .back then none else m.skip }
  pure status

end Run

end CredoAssistant.Shell
