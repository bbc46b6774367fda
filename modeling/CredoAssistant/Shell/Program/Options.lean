import CredoAssistant.Shell.Files

/-!
Options of the system's programs: letters after a hyphen, and words after two of them, which may be
cut short as long as one word alone starts so. Operands may stand between the options.
-/
namespace CredoAssistant.Shell.Program

/-- Whether a value follows an option. -/
inductive Needs
  | nothing
  | value
  | maybe
  deriving DecidableEq, Repr

/-- The options that a program knows. A long option stands for a letter; with `strict` the first
operand ends the options. -/
structure Spec where
  letters : List (Char × Needs)
  words : List (String × Char)
  strict : Bool

namespace Spec

/-- Reads a specification of letters, each with a colon behind it when it takes a value. -/
def lettersOf : List Char → List (Char × Needs)
  | [] => []
  | c :: ':' :: rest => (c, .value) :: lettersOf rest
  | c :: ';' :: rest => (c, .maybe) :: lettersOf rest
  | c :: rest => (c, .nothing) :: lettersOf rest

def ofText (letters : String) (words : List (String × Char)) : Spec :=
  ⟨lettersOf letters.toList, words, false⟩

def needs? (s : Spec) (c : Char) : Option Needs :=
  (s.letters.find? fun l => l.1 == c).map Prod.snd

/-- The long options that a text may stand for. -/
def wordsFor (s : Spec) (text : String) : List (String × Char) :=
  match s.words.filter fun w => w.1 == text with
  | [] => s.words.filter fun w => w.1.startsWith text
  | exactly => exactly

end Spec

/-- An option as it was given. -/
abbrev Given := Char × String

/-- Options and operands. -/
structure Arguments where
  options : List Given
  operands : List String

namespace Arguments

def has (a : Arguments) (c : Char) : Bool := a.options.any fun o => o.1 == c

/-- The last value that was given to an option. -/
def value? (a : Arguments) (c : Char) : Option String :=
  ((a.options.filter fun o => o.1 == c).getLast?).map Prod.snd

end Arguments

/-- Reads the letters of one argument: the options in it, and the arguments that are left. -/
def readLetters (s : Spec) (rest : List String) :
    List Char → Except String (List Given × List String)
  | [] => .ok ([], rest)
  | c :: letters =>
    match s.needs? c with
    | none => .error s!"invalid option -- '{c}'"
    | some .nothing => do
      let (more, rest) ← readLetters s rest letters
      .ok ((c, "") :: more, rest)
    | some .maybe => .ok ([(c, String.ofList letters)], rest)
    | some .value =>
      if !letters.isEmpty then .ok ([(c, String.ofList letters)], rest)
      else
        match rest with
        | v :: rest => .ok ([(c, v)], rest)
        | [] => .error s!"option requires an argument -- '{c}'"

/-- Reads a long option without its hyphens. -/
def readWord (s : Spec) (rest : List String) (text : String) :
    Except String (Given × List String) :=
  let name := String.ofList (text.toList.takeWhile (· != '='))
  let value? : Option String :=
    if text.toList.contains '=' then
      some (String.ofList (text.toList.drop (name.length + 1)))
    else none
  match s.wordsFor name with
  | [] => .error s!"unrecognized option '--{text}'"
  | (word, c) :: others =>
    if others.any fun o => o.2 != c then
      let all := ((word, c) :: others).map fun o => s!" '--{o.1}'"
      .error s!"option '--{text}' is ambiguous; possibilities:{String.join all}"
    else
      match (s.needs? c).getD .nothing, value? with
      | .nothing, none => .ok ((c, ""), rest)
      | .nothing, some _ => .error s!"option '--{word}' doesn't allow an argument"
      | .maybe, v => .ok ((c, v.getD ""), rest)
      | .value, some v => .ok ((c, v), rest)
      | .value, none =>
        match rest with
        | v :: rest => .ok ((c, v), rest)
        | [] => .error s!"option '--{word}' requires an argument"

/-- Reads arguments. -/
def readArguments (s : Spec) : Nat → List String → Except String Arguments
  | 0, args => .ok ⟨[], args⟩
  | fuel + 1, args =>
    match args with
    | [] => .ok ⟨[], []⟩
    | a :: rest =>
      match a.toList with
      | ['-', '-'] => .ok ⟨[], rest⟩
      | '-' :: '-' :: word => do
        let (o, rest) ← readWord s rest (String.ofList word)
        let more ← readArguments s fuel rest
        .ok { more with options := o :: more.options }
      | '-' :: c :: letters => do
        let (os, rest) ← readLetters s rest (c :: letters)
        let more ← readArguments s fuel rest
        .ok { more with options := os ++ more.options }
      | _ =>
        if s.strict then .ok ⟨[], args⟩
        else do
          let more ← readArguments s fuel rest
          .ok { more with operands := a :: more.operands }

/-- A program of the system: it takes the name it was called by and its arguments. -/
abbrev Body := String → List String → Run Nat

/-- Ends the program. -/
def quit {α : Type} (status : Nat) : Run α := do
  Run.setStatus status
  throw .exit

/-- The name of a program without the directories of its path. -/
def ownName (self : String) : String := ((self.splitOn "/").getLast?).getD self

/-- The status of a program whose output cannot be written. -/
def unwrittenStatus (self : String) : Nat :=
  let name := ownName self
  if name = "rev" then 0
  else if ["cmp", "diff", "dir", "grep", "ls", "printenv", "sort", "vdir"].contains name then 2
  else if ["expr", "tty"].contains name then 3
  else if name = "sed" then 4
  else if ["env", "nice"].contains name then 125
  else 1

/-- Programs that write line by line, and so do not know any more why a device had no room. -/
def lineWriters : List String :=
  ["b2sum", "cksum", "du", "md5sum", "sha1sum", "sha224sum", "sha256sum", "sha384sum", "sha512sum",
    "sum", "wc"]

/-- What a program says about output that leads nowhere. -/
def unwrittenMessages (self : String) (fault : Fault) : List String :=
  let name := ownName self
  let bad := fault == .badStream
  if name = "cat" && bad || ["cmp", "diff", "yes"].contains name then
    [s!"standard output: {fault.reason}"]
  else if name = "rev" && bad then []
  else if name = "sed" then
    [(if bad then "couldn't close stdout: " else "couldn't flush stdout: ") ++ fault.reason]
  else if name = "find" then
    [Octets.ofText "‘standard output’: " ++ fault.reason,
      if bad then s!"write error: {fault.reason}" else "write error"]
  else if name = "tee" then [s!"'standard output': {fault.reason}"]
  else if name = "sort" then
    [s!"fflush failed: 'standard output': {fault.reason}", "write error"]
  else if fault == .full && lineWriters.contains name then ["write error"]
  else [s!"write error: {fault.reason}"]

/-- Why the output of this process cannot be written. -/
def outputFault : Run Fault := do
  let isFull := (← Run.handle? 1).any fun (_, h) => h.channel == .full
  pure (if isFull then .full else .badStream)

/-- Writes output. A program whose output leads nowhere fails. -/
def put (self : String) (cs : List Char) : Run Unit := do
  if cs.isEmpty then pure ()
  else if ← Run.write 1 cs then pure ()
  else do
    (unwrittenMessages self (← outputFault)).forM fun m => Run.say 2 s!"{self}: {m}\n"
    quit (unwrittenStatus self)

def putText (self s : String) : Run Unit := put self s.toList

/-- A complaint. -/
def complain (self message : String) : Run Unit := Run.say 2 s!"{self}: {message}\n"

/-- Tells where to learn how the program is called, and ends it. -/
def hint {α : Type} (self : String) (status : Nat) : Run α := do
  Run.say 2 s!"Try '{self} --help' for more information.\n"
  quit status

/-- Complains about how the program was called, and ends it. -/
def misuse {α : Type} (self message : String) (status : Nat) : Run α := do
  complain self message
  hint self status

/-- Reads the arguments of a program. -/
def arguments (self : String) (s : Spec) (status : Nat) (args : List String) : Run Arguments := do
  match readArguments s (args.length + 1) args with
  | .ok a => pure a
  | .error message => misuse self message status

/-- The lines of a text, and whether the last one is ended. -/
def linesOf (cs : List Char) : List (List Char) × Bool :=
  let step (acc : List (List Char) × List Char) (c : Char) : List (List Char) × List Char :=
    if c = '\n' then (acc.2.reverse :: acc.1, []) else (acc.1, c :: acc.2)
  let (done, current) := cs.foldl step ([], [])
  if current.isEmpty then (done.reverse, true) else ((current.reverse :: done).reverse, false)

/-- Lines, each with its end. -/
def unlines (ls : List (List Char)) : List Char := ls.flatMap fun l => l ++ ['\n']

/-- Reads the input, if that can be read. -/
def inputBy {α : Type} (read : Run α) : Run (Except Fault α) := do
  match ← Run.handle? 0 with
  | none => pure (.error .badStream)
  | some (_, h) => do
    if (← Run.streamNode h).isDirectory then pure (.error .isDirectory)
    else if !h.reads then pure (.error .badStream)
    else return .ok (← read)

/-- The contents of a file, or of the input for a hyphen. -/
def contents (file : String) : Run (Except Fault (List Char)) :=
  if file = "-" then inputBy (Run.readAll 0) else Run.contents file

/-- The contents of a file, or enough of the input for a hyphen. -/
def contentsUpTo (file : String) (isEnough : List Char → Bool) : Run (Except Fault (List Char)) :=
  if file = "-" then
    inputBy do
      let cs ← Run.availableUpTo 0 isEnough
      Run.consume 0 cs.length
      pure cs
  else Run.contents file

/-- Takes a step for each piece of the input as it comes, up to its end. -/
def foldPieces {α : Type} (step : α → List Char → Run α) : Nat → α → Run α
  | 0, acc => pure acc
  | fuel + 1, acc => do
    let cs ← Run.readSome 0
    if cs.isEmpty then pure acc else foldPieces step fuel (← step acc cs)

/-- Takes a step for each piece of a file, or of the input for a hyphen. -/
def foldContents {α : Type} (file : String) (step : α → List Char → Run α) (start : α) :
    Run (Except Fault α) := do
  if file = "-" then inputBy (foldPieces step Run.mostWaits start)
  else
    match ← Run.contents file with
    | .ok cs => return .ok (← step start cs)
    | .error fault => pure (.error fault)

/-- The operands, or the input when there are none. -/
def inputs (a : Arguments) : List String := if a.operands.isEmpty then ["-"] else a.operands

/-- The contents of all files in turn; those that cannot be read are complained about, and the flag
says whether there were such files. -/
def allContents (complaint : String → Fault → Run Unit) (files : List String) :
    Run (List Char × Bool) :=
  files.foldlM
    (fun acc file => do
      match ← contents file with
      | .ok cs => pure (acc.1 ++ cs, acc.2)
      | .error fault => do
        complaint file fault
        pure (acc.1, true))
    ([], false)

/-- Goes through a list; whether a step fails for one of its members. -/
def anyFails {α : Type} (xs : List α) (step : α → Run Bool) : Run Bool :=
  xs.foldlM (fun failed x => do return (← step x) || failed) false

/-- Complains; something has failed. -/
def fails (self message : String) : Run Bool := do
  complain self message
  pure true

def statusOf (failed : Bool) : Nat := if failed then 1 else 0

/-- A natural number in decimal digits. -/
def digits? (s : String) : Option Nat :=
  if s != "" && s.toList.all Char.isDigit then some (Nat.ofDigitChars 10 s.toList 0) else none

end CredoAssistant.Shell.Program
