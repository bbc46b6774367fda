import CredoAssistant.Console.Command

/-!
The command line. Settings come from the files and the environment of the process; the report of the
linter is read from standard input.
-/
namespace CredoAssistant.Console

/-- Adds a file of the project to the tree, if it can be read. -/
def addProjectFile (root : Path) (t : FileTree) (name : String) : IO FileTree := do
  let path := root.join (Path.ofText name)
  try
    let bytes ← IO.FS.readBinFile path.text
    pure (t.addFile (Path.resolve [] path.parts) bytes.toList)
  catch _ => pure t

/-- The variables that set a field. -/
def readEnvironment : IO Environment :=
  Settings.fields.filterMapM fun field => do
    let name := Source.variableName field
    let value ← IO.getEnv name
    pure (value.map fun v => (name, v))

/-- The project that a request is about. -/
def requestedRoot : Request → Path
  | .inspect _ root _ _ _ _ _ => root
  | .config root _ => root

/-- The width of the terminal. -/
def readWidth : IO Nat := do
  let columns ← IO.getEnv "COLUMNS"
  pure ((columns.bind String.toNat?).getD 80)

/-- Does what a request asks for, prints what it answers and gives its exit code. -/
def serve (request : Request) : IO UInt32 := do
  let root := requestedRoot request
  let tree ← ["pyproject.toml", ".credo-bridge.toml"].foldlM (addProjectFile root) (.empty [])
  let report ←
    match request with
    | .inspect .. => (← IO.getStdin).readToEnd
    | .config .. => pure ""
  let world : World :=
    { files := tree
      environment := ← readEnvironment
      width := ← readWidth
      stack := .usual
      launch := fun _ => (.finished report "" (some 0), []) }
  match world.execute request with
  | .ok e =>
    IO.print e.stdout
    IO.eprint e.stderr
    pure (UInt32.ofNat e.exitCode)
  | .error f =>
    IO.eprintln f.message
    pure 1

end CredoAssistant.Console

open CredoAssistant.Console in
def main (args : List String) : IO UInt32 :=
  match Request.ofArguments readNumber? args with
  | .ok request => serve request
  | .error e => do
    IO.eprintln e.message
    pure 2
