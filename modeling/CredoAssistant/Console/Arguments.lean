import CredoAssistant.Entries
import CredoAssistant.Path
import CredoAssistant.Validation.Rules

/-!
Arguments of the command line. Options stand anywhere before a double hyphen; a value follows its
option or is joined to it. Of an option that is given twice the last one counts. How the value of an
option is read as a number is a parameter.
-/
namespace CredoAssistant.Console

/-- What the user asks for. -/
inductive Request
  | inspect (file root : Path) (format : String) (strict : Option Bool)
      (timeout : Option Binary64) (emoji verbose : Bool)
  | config (root : Path) (trace : Bool)
  deriving DecidableEq, Repr

/-- Why arguments make no request. -/
inductive UsageError
  | noCommand
  | unknownCommand (name : String)
  | unknownOption (name : String)
  | missingValue (name : String)
  | unexpectedValue (name : String)
  | missingFile
  | unexpectedArgument (text : String)
  | badTimeout (text : String)
  | negativeTimeout (x : Binary64)
  | badPath (name : String)
  deriving DecidableEq, Repr

def UsageError.message : UsageError → String
  | noCommand => "Missing command."
  | unknownCommand name => "No such command '" ++ name ++ "'."
  | unknownOption name => "No such option: " ++ name
  | missingValue name => "Option '" ++ name ++ "' requires an argument."
  | unexpectedValue name => "Option '" ++ name ++ "' does not take a value."
  | missingFile => "Missing argument 'FILE'."
  | unexpectedArgument text => "Got unexpected extra argument (" ++ text ++ ")"
  | badTimeout text =>
    "Invalid value for '--timeout': " ++ Text.quoted text ++ " is not a valid float range."
  | negativeTimeout x => "Invalid value for '--timeout': " ++ x.text ++ " is not in the range x>=0."
  | badPath name => "Invalid value for '" ++ name ++ "': Path contains a null character."

/-- What an option does: it takes a value or it is a switch. -/
inductive Action (α : Type)
  | value (f : α → String → α)
  | switch (f : α → α)

/-- The options of a command by their spellings. -/
abbrev Options (α : Type) := Entries String (Action α)

namespace Options

variable {α : Type}

/-- Applies an option of one hyphen and the letters behind it; the last of them may take what is
left of the argument, or the next one, as its value. -/
def readLetters (os : Options α) (state : α) (rest : List String) :
    List Char → Except UsageError (α × List String)
  | [] => .ok (state, rest)
  | c :: letters =>
    let name := String.ofList ['-', c]
    match Entries.get? name os with
    | none => .error (.unknownOption name)
    | some (.switch f) => readLetters os (f state) rest letters
    | some (.value f) =>
      if letters.isEmpty then
        match rest with
        | [] => .error (.missingValue name)
        | v :: rest => .ok (f state v, rest)
      else .ok (f state (String.ofList letters), rest)

/-- Applies an option of two hyphens. -/
def readLong (os : Options α) (state : α) (rest : List String) (arg : String) :
    Except UsageError (α × List String) :=
  let name := String.ofList (arg.toList.takeWhile (· != '='))
  let joined := arg.toList.dropWhile (· != '=')
  match Entries.get? name os, joined with
  | none, _ => .error (.unknownOption name)
  | some (.switch f), [] => .ok (f state, rest)
  | some (.switch _), _ :: _ => .error (.unexpectedValue name)
  | some (.value f), _ :: v => .ok (f state (String.ofList v), rest)
  | some (.value f), [] =>
    match rest with
    | [] => .error (.missingValue name)
    | v :: rest => .ok (f state v, rest)

/-- Reads arguments: the options in them, and the others in order. -/
def read (os : Options α) : Nat → α → List String → Except UsageError (α × List String)
  | 0, state, args => .ok (state, args)
  | _ + 1, state, [] => .ok (state, [])
  | fuel + 1, state, arg :: rest =>
    match arg.toList with
    | ['-', '-'] => .ok (state, rest)
    | '-' :: '-' :: _ => do
      let (state, rest) ← readLong os state rest arg
      read os fuel state rest
    | '-' :: c :: cs => do
      let (state, rest) ← readLetters os state rest (c :: cs)
      read os fuel state rest
    | _ => do
      let (state, others) ← read os fuel state rest
      .ok (state, arg :: others)

end Options

/-- The options of `inspect` as they were given. -/
structure InspectOptions where
  root : Option String
  format : String
  strict : Option Bool
  timeout : Option String
  emoji : Bool
  verbose : Bool
  deriving DecidableEq, Repr

namespace InspectOptions

def default : InspectOptions := ⟨none, "pretty", none, none, true, false⟩

def options : Options InspectOptions :=
  [("--root", .value fun o v => { o with root := some v }),
    ("-r", .value fun o v => { o with root := some v }),
    ("--format", .value fun o v => { o with format := v }),
    ("-f", .value fun o v => { o with format := v }),
    ("--strict", .switch fun o => { o with strict := some true }),
    ("--no-strict", .switch fun o => { o with strict := some false }),
    ("--timeout", .value fun o v => { o with timeout := some v }),
    ("--emoji", .switch fun o => { o with emoji := true }),
    ("--no-emoji", .switch fun o => { o with emoji := false }),
    ("--verbose", .switch fun o => { o with verbose := true }),
    ("-v", .switch fun o => { o with verbose := true })]

end InspectOptions

/-- The options of `config` as they were given. -/
structure ConfigOptions where
  root : Option String
  trace : Bool
  deriving DecidableEq, Repr

namespace ConfigOptions

def default : ConfigOptions := ⟨none, false⟩

def options : Options ConfigOptions :=
  [("--root", .value fun o v => { o with root := some v }),
    ("-r", .value fun o v => { o with root := some v }),
    ("--trace", .switch fun o => { o with trace := true })]

end ConfigOptions

/-- How a text is read as a number, if it is one. -/
abbrev NumberReader := String → Option Binary64

/-- Reads the numbers that settings take from texts; NaN is none of them. -/
def readNumber? : NumberReader := fun s =>
  (Validation.number (.text s)).toOption.filter fun x => !x.isNan

/-- A time limit: a number that is not below zero. NaN is not below zero; where it is read as a
number it is left to the settings, which refuse it. -/
def readTimeout (number? : NumberReader) : Option String → Except UsageError (Option Binary64)
  | none => .ok none
  | some s =>
    match number? s with
    | none => .error (.badTimeout s)
    | some x => if x.isBelowZero then .error (.negativeTimeout x) else .ok (some x)

/-- A path, which holds no null character. -/
def readPath (name s : String) : Except UsageError Path :=
  let path := Path.ofText s
  if path.hasNull then .error (.badPath name) else .ok path

/-- The directory of a project; the working directory unless another one is named. -/
def readRoot (s : Option String) : Except UsageError Path := readPath "--root" (s.getD ".")

def readInspect (number? : NumberReader) (args : List String) : Except UsageError Request := do
  let (o, others) ← InspectOptions.options.read (args.length + 1) .default args
  match others with
  | [] => .error .missingFile
  | [name] => do
    let root ← readRoot o.root
    let timeout ← readTimeout number? o.timeout
    let file ← readPath "FILE" name
    .ok (.inspect file root o.format o.strict timeout o.emoji o.verbose)
  | _ :: extra :: _ => .error (.unexpectedArgument extra)

def readConfig (args : List String) : Except UsageError Request := do
  let (o, others) ← ConfigOptions.options.read (args.length + 1) .default args
  match others with
  | [] => do
    let root ← readRoot o.root
    .ok (.config root o.trace)
  | extra :: _ => .error (.unexpectedArgument extra)

/-- The request that the arguments make. The command comes first. -/
def Request.ofArguments (number? : NumberReader) : List String → Except UsageError Request
  | [] => .error .noCommand
  | "--" :: rest => command rest
  | args => command args
where
  command : List String → Except UsageError Request
    | [] => .error .noCommand
    | "inspect" :: rest => readInspect number? rest
    | "config" :: rest => readConfig rest
    | name :: _ =>
      if name.startsWith "-" then .error (.unknownOption name) else .error (.unknownCommand name)

end CredoAssistant.Console
