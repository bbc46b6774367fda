import CredoAssistant.Shell.Awk.Evaluation

/-!
The program that applies rules to the records of files.
-/
namespace CredoAssistant.Shell.Program

open Awk

/-- What the program was called with: texts and files of rules, and assignments in their order. -/
structure RuleArguments where
  files : List String
  assignments : List (String × String)
  operands : List String

/-- How the program is used. -/
def ruleUsage : String :=
  "Usage: mawk [Options] [Program] [file ...]\n\nProgram:\n" ++
  "    The -f option value is the name of a file containing program text.\n" ++
  "    If no -f option is given, a \"--\" ends option processing; the following\n" ++
  "    parameters are the program text.\n\nOptions:\n" ++
  "    -f program-file  Program  text is read from file instead of from the\n" ++
  "                     command-line.  Multiple -f options are accepted.\n" ++
  "    -F value         sets the field separator, FS, to value.\n" ++
  "    -v var=value     assigns value to program variable var.\n" ++
  "    --               unambiguous end of options.\n\n" ++
  "    Implementation-specific options are prefixed with \"-W\".  They can be\n" ++
  "    abbreviated:\n\n" ++
  "    -W version       show version information and exit.\n" ++
  "    -W compat        pre-POSIX 2001.\n" ++
  "    -W dump          show assembler-like listing of program and exit.\n" ++
  "    -W help          show this message and exit.\n" ++
  "    -W interactive   set unbuffered output, line-buffered input.\n" ++
  "    -W exec file     use file as program as well as last option.\n" ++
  "    -W posix         stricter POSIX checking.\n" ++
  "    -W random=number set initial random seed.\n" ++
  "    -W sprintf=number adjust size of sprintf buffer.\n" ++
  "    -W usage         show this message and exit.\n"

/-- The version that the program tells. -/
def ruleVersion : String := "mawk 1.3.4 20240123\n"

/-- Words that options can be. -/
def ruleWords : List String :=
  ["compat", "dump", "exec", "help", "interactive", "posix", "random", "sprintf", "usage",
    "version"]

/-- Does what a word asks for, which may be cut short; some do nothing here. -/
def ruleWord (self name complaint : String) : Run Unit := do
  match ruleWords.find? fun w => name != "" && w.startsWith name with
  | some "version" => do
    putText self ruleVersion
    quit 0
  | some w => do
    if w = "help" || w = "usage" then do
      putText self ruleUsage
      quit 0
  | none => complain self complaint

/-- Reads the arguments of the program. -/
def ruleArguments (self : String) : Nat → RuleArguments → List String → Run RuleArguments
  | 0, a, rest => pure { a with operands := rest }
  | fuel + 1, a, args => do
    match args with
    | [] => pure a
    | "--" :: rest => pure { a with operands := rest }
    | word :: rest =>
      match word.toList with
      | '-' :: letter :: attached => do
        let withValue (f : String → Run RuleArguments) : Run RuleArguments := do
          match attached, rest with
          | [], [] => do
            complain self s!"option -{String.singleton letter} lacks argument"
            quit 2
          | [], v :: rest => do
            let a ← f v
            ruleArguments self fuel a rest
          | _, _ => do
            let a ← f (String.ofList attached)
            ruleArguments self fuel a rest
        if letter = 'f' then withValue fun v => pure { a with files := a.files ++ [v] }
        else if letter = 'F' then
          withValue fun v => pure { a with assignments := a.assignments ++ [("FS", v)] }
        else if letter = 'v' then
          withValue fun v =>
            match Act.assignment? v with
            | some (name, _) =>
              let value := String.ofList (v.toList.drop (name.length + 1))
              pure { a with assignments := a.assignments ++ [(name, value)] }
            | none => do
              complain self s!"improper assignment: -v {v}"
              quit 2
        else if letter = 'W' then do
          let (name, rest) := if attached.isEmpty then (rest.headD "", rest.tail)
            else (String.ofList attached, rest)
          ruleWord self name s!"vacuous option: -W \"{name}\""
          ruleArguments self fuel a rest
        else if letter = '-' && ruleWords.any fun w => w.startsWith (String.ofList attached) then do
          ruleWord self (String.ofList attached) ""
          ruleArguments self fuel a rest
        else do
          complain self s!"not an option: {word}"
          quit 2
      | _ => pure { a with operands := args }

/-- The text of a program: that of its files, or the first operand. -/
def ruleText (self : String) (a : RuleArguments) : Run (List Char × String × List String) := do
  match a.files, a.operands with
  | [], [] => do
    Run.say 2 ruleUsage
    quit 0
  | [], text :: rest => pure (text.toList, "", rest)
  | files, rest => do
    let texts ← files.mapM fun file => do
      match ← contents file with
      | .ok cs => pure cs
      | .error fault => do
        complain self s!"cannot open \"{file}\" ({fault.reason})"
        quit 2
    pure (texts.flatten, (files.getLast?.getD "") ++ ": ", rest)

/-- Applies rules to the records of files. -/
def mawk (e : Evaluator) : Body := fun self args => do
  let a ← ruleArguments self (args.length + 1) ⟨[], [], []⟩ args
  let (text, heading, operands) ← ruleText self a
  match Grammar.read text with
  | .error flaws => do
    flaws.forM fun flaw => complain self s!"{heading}{flaw.message}"
    pure 2
  | .ok code => do
    let environment ← Run.environment
    let ofPairs (pairs : List (Key × Cell)) : Table :=
      pairs.foldl (fun t p => (t.access true p.1 fun _ => p.2).2) .empty
    let inherited := ofPairs (environment.map fun v => (.text v.1, .ofInput v.2))
    let words := (self :: operands).zipIdx.map fun w => (Key.whole w.2, Cell.ofInput w.1)
    let globals := Entries.set "ARGC" (.ofNat (operands.length + 1)) Act.presets
    let store : Store :=
      { self, code, globals, arrays := [("ARGV", 0), ("ENVIRON", 1)]
        tables := [(0, ofPairs words), (1, inherited)], nextTable := 2
        frames := [], depth := 0, record := "", fields := none
        pending := [], pendingSize := 0, isNamed := false, sinks := [], sources := []
        nextOperand := 1, unread := none, isFed := false, isOver := false
        active := [], status := 0, seed := .none, drawn := 1 }
    let step : Act Unit := do
      a.assignments.forM fun v => Act.assignFromOutside v.1 (Token.unescapedText v.2)
      Act.complete e
    let (_, s) ← (ExceptT.run step).run store
    pure s.status

end CredoAssistant.Shell.Program
