import CredoAssistant.Shell.Program.Awk
import CredoAssistant.Shell.Program.Find
import CredoAssistant.Shell.Program.Table
import CredoAssistant.Shell.Program.Xargs
import CredoAssistant.Shell.Schedule

/-!
Starting programs: shells, and programs that start others in turn. An evaluator of some depth ties
the commands of shells and the programs together.
-/
namespace CredoAssistant.Shell

/-- How long a program takes to come up, in microseconds. -/
def programTime : Nat := 800

/-- Starts afresh as a program. Of what was here before, the environment remains, with the streams,
the files and the signals that are ignored. -/
def enter (argv : List String) (body : Run Nat) : Run Fault := do
  let environment ← Run.environment
  modify fun m =>
    { m with
      vars := environment.map fun e => (e.1, ⟨some e.2, true, false⟩)
      root := m.number, name := argv.headD "", args := argv.tail
      functions := [], known := [], aliases := [], documents := [], nextDocument := 0, options := []
      status := 0, outputStatus := 0, traps := m.traps.filter fun t => t.2 == ""
      trapStatus := none, line := 0, reached := 0, heading := none
      skip := none, loops := 0, calls := 0, scopes := [], jobs := [], lastJob := none
      letter := (1, 0), unwritten := false, isShell := false }
  Run.sleep programTime
  match ← Run.attempt body with
  | .ok status => do
    Run.setStatus status
    throw .replaced
  | .error .exit => throw .replaced
  | .error .fault => throw .replaced
  | .error h => throw h

namespace Program

/-! Shells -/

/-- The variables that a shell sets at its start, unless its environment does. -/
def presets : Entries String Variable :=
  [("IFS", " \t\n"), ("PATH", "/usr/local/sbin:/usr/local/bin:/usr/sbin:/usr/bin:/sbin:/bin"),
    ("PS1", "# "), ("PS2", "> "), ("PS4", "+ "), ("OPTIND", "1")].map fun v =>
    (v.1, ⟨some v.2, false, false⟩)

/-- Takes over the environment, with the working directory under the name that it has there if that
is a right one. -/
def startVariables : Run Unit := do
  let m ← get
  let named := m.vars.filter fun e => isName e.1.toList
  let own := (named.foldl (fun vs e => Entries.set e.1 e.2 vs) presets)
  modify fun m => { m with vars := own, isShell := true }
  let given := (← Run.value? "PWD").getD ""
  let found ← Run.node true given
  let isRight := given.startsWith "/" && found.toOption.any fun e => e.1 == m.place
  let directory := if isRight then given else m.system.disk.directoryPath m.place
  modify fun m => { m with directory }
  let keep (name value : String) : Run Unit :=
    Run.update name fun v => { v with value := some value }
  keep "IFS" " \t\n"
  keep "OPTIND" "1"
  keep "PPID" (toString m.parent)
  Run.update "PWD" fun v => { v with value := some directory, exported := true }

/-- Runs a shell with its arguments: a script given as a text, in a file, or by the input. -/
def shell (e : Evaluator) : Body := fun _ args => do
  startVariables
  Run.asShell e do
    let o ← Run.applyOptions true (args.length + 1) false args
    let isInput ← Run.hasOption 's'
    match o.rest, o.hasText with
    | [], true => Run.fail "-c requires an argument"
    | text :: rest, true => do
      modify fun m => { m with name := rest.headD m.name, args := rest.tail }
      let _ ← e.text .plain text.toList
    | [], false => do
      let _ ← e.script (← Run.readAll 0)
    | file :: rest, false =>
      if isInput then do
        modify fun m => { m with args := o.rest }
        let _ ← e.script (← Run.readAll 0)
      else
        match ← Run.openFile .read file with
        | .error fault => Run.fail s!"cannot open {file}: {fault.openMessage false}"
        | .ok h => do
          modify fun m => { m with name := file, args := rest }
          let cs ←
            match h.channel with
            | .file n => do pure (Octets.ofBytes ((← Run.disk).bytes n))
            | _ => pure []
          let _ ← e.script cs
  return (← get).status

/-- The programs that run others, by their names. -/
def launchers : List (String × (Evaluator → Body)) :=
  [("dash", shell), ("env", env), ("find", find), ("mawk", mawk), ("nice", nice), ("nohup", nohup),
    ("setsid", setsid), ("sh", shell), ("timeout", timeout), ("xargs", xargs)]

/-- A program of the system by its name. One that is only known to be there does nothing. -/
def ofName (e : Evaluator) (name : String) : Body :=
  match (launchers.find? fun l => l.1 == name).map Prod.snd, body? name with
  | some f, _ => f e
  | none, some b => b
  | none, none => fun _ _ => pure 0

end Program

/-- Puts the file at a path into the place of this process: a program of the system, or a script.
Its first line may name the program that reads it, and the shell does otherwise. -/
def execute (e : Evaluator) : Nat → String → List String → Run Fault
  | 0, _, _ => pure .missing
  | fuel + 1, path, argv => do
    match ← Run.runnable path with
    | .error r => pure r
    | .ok i =>
      match i.content with
      | .program name => enter argv (Program.ofName e name (argv.headD name) argv.tail)
      | _ => do
        let bytes := i.bytes
        let shell := "/bin/sh"
        match Octets.ofBytes bytes with
        | '#' :: '!' :: rest =>
          let isGap (c : Char) : Bool := c == ' ' || c == '\t'
          let line := (rest.takeWhile (· != '\n')).dropWhile isGap
          let interpreter := line.takeWhile fun c => !isGap c
          let behind := (line.drop interpreter.length).dropWhile isGap
          let option := (behind.reverse.dropWhile isGap).reverse
          let options := if option.isEmpty then [] else [String.ofList option]
          let name := String.ofList interpreter
          if name = "" then execute e fuel shell (shell :: path :: argv.tail)
          else execute e fuel name (name :: options ++ path :: argv.tail)
        | _ => execute e fuel shell (shell :: path :: argv.tail)

/-- An evaluator for commands in each other to a depth. Below it no memory is left, which is the end
of the process. -/
def evaluator : Nat → Evaluator
  | 0 =>
    { tree := fun _ _ => throw (.killed 11)
      text := fun _ _ => throw (.killed 11)
      script := fun _ => throw (.killed 11)
      execute := fun _ _ => throw (.killed 11) }
  | depth + 1 =>
    let e := evaluator depth
    { tree := Run.tree e
      text := Run.text e
      script := Run.script e
      execute := execute e 5 }

/-- How deep commands stand in each other at the most. -/
def mostDepth : Nat := 20000

/-- Runs a program with its arguments in a process, up to the end of all that it starts. -/
def Machine.runProgram (m : Machine) (path : String) (argv : List String) :
    Except Halt Unit × Machine :=
  let e := evaluator mostDepth
  let inBackground (t : Branch) : Run Unit :=
    Run.lifetime (Run.ownShell e .whole t.targets t.command)
  m.runAll inBackground do
    let r ← e.execute path argv
    Run.setStatus r.startStatus

end CredoAssistant.Shell
