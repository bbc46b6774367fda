import CredoAssistant.Shell.Program.Launch

/-!
Running a program for each of many items. Items stand between blanks, where quotation marks and
backslashes keep them together, or are whole lines, or stand between other signs.
-/
namespace CredoAssistant.Shell.Program

/-- Where the reading of items stands. -/
inductive ItemState
  | gap
  | plain
  | quoted (mark : Char)
  | escaped
  deriving DecidableEq, Repr

/-- The lines of items that were read so far, the last one first; the items of this line and the
text of this item, both turned round; whether there is an item at all; and the character before. -/
structure ItemReading where
  state : ItemState
  lines : List (List (List Char))
  items : List (List Char)
  text : List Char
  isThere : Bool
  before : Char
  ended : Bool
  unmatched : Option Char

namespace ItemReading

def start : ItemReading := ⟨.gap, [], [], [], false, ' ', false, none⟩

/-- Ends an item; one that marks the end of all items is dropped. -/
def closeItem (stop : Option String) (r : ItemReading) : ItemReading :=
  if !r.isThere then r
  else
    let item := r.text.reverse
    if stop = some (String.ofList item) then { r with ended := true, text := [], isThere := false }
    else { r with items := item :: r.items, text := [], isThere := false }

/-- Ends a line. One that ends in a blank goes on in the next line. -/
def closeLine (r : ItemReading) : ItemReading :=
  if r.items.isEmpty then r
  else if r.before = ' ' || r.before = '\t' then r
  else { r with lines := r.items.reverse :: r.lines, items := [] }

/-- Reads a character. -/
def step (whole : Bool) (stop : Option String) (r : ItemReading) (c : Char) : ItemReading :=
  if r.ended || r.unmatched.isSome then r
  else
    let isBlank := c == ' ' || c == '\t'
    let isSpace := isBlank || ('\n' ≤ c && c ≤ '\r')
    let add (r : ItemReading) : ItemReading := { r with text := c :: r.text, isThere := true }
    let plain (r : ItemReading) : ItemReading :=
      if c = '\n' then
        let r := r.closeItem stop
        { r.closeLine with state := .gap }
      else if isBlank && !whole then { r.closeItem stop with state := .gap }
      else if c = '\\' then { r with state := .escaped }
      else if c = '\'' || c = '"' then { r with state := .quoted c, isThere := true }
      else { add r with state := .plain }
    let r :=
      match r.state with
      | .gap =>
        if c = '\n' && !r.isThere then { r.closeLine with state := .gap }
        else if isSpace then r
        else plain r
      | .plain => plain r
      | .quoted mark =>
        if c = '\n' then { r with unmatched := some mark }
        else if c = mark then { r with state := .plain }
        else add r
      | .escaped => { add r with state := .plain }
    { r with before := c }

/-- Reads a text to its end: the lines of items, and the mark that was left open. -/
def ofText (whole : Bool) (stop : Option String) (cs : List Char) :
    List (List (List Char)) × Option Char :=
  let r := cs.foldl (step whole stop) start
  let r :=
    match r.state, r.unmatched with
    | .quoted mark, none => if r.ended then r else { r with unmatched := some mark }
    | _, _ => r
  let r := if r.unmatched.isSome then r else r.closeItem stop
  let lines := if r.items.isEmpty then r.lines else r.items.reverse :: r.lines
  (lines.reverse, r.unmatched)

end ItemReading

/-- Items in groups of a size. -/
def batches (size : Nat) : Nat → List String → List (List String)
  | 0, _ => []
  | fuel + 1, xs => if xs.isEmpty then [] else xs.take size :: batches size fuel (xs.drop size)

/-- Items in groups whose words with those of the command stay below a number of bytes. -/
def fitting (room : Nat) (xs : List String) : List (List String) :=
  let step (acc : List (List String) × Nat) (x : String) : List (List String) × Nat :=
    match acc.1 with
    | group :: more =>
      if acc.2 + x.length + 1 ≤ room then ((x :: group) :: more, acc.2 + x.length + 1)
      else ([x] :: group :: more, x.length + 1)
    | [] => ([[x]], x.length + 1)
  ((xs.foldl step ([], 0)).1.map List.reverse).reverse

/-- The character that stands between items. -/
def delimiterOf (self text : String) : Run Char := do
  match text.toList with
  | [c] => pure c
  | '\\' :: rest =>
    let digits := rest.takeWhile Escape.isOctal
    match rest with
    | 'x' :: hex => pure (Char.ofNat (Arithmetic.ofDigits 16 hex % 256))
    | [c] =>
      match Escape.letter? c with
      | some ch => pure ch
      | none =>
        if !digits.isEmpty then pure (Escape.byte digits)
        else do
          complain self s!"Invalid escape sequence {text} in input delimiter specification."
          quit 1
    | _ =>
      if !digits.isEmpty && digits.length = rest.length then pure (Escape.byte digits)
      else do
        complain self s!"Invalid escape sequence {text} in input delimiter specification."
        quit 1
  | _ => do
    complain self (s!"Invalid input delimiter specification {text}: the delimiter must be either a "
      ++ "single character or an escape sequence starting with \\.")
    quit 1

/-- A number that an option takes. -/
def amountOf (self : String) (c : Char) (low : Nat) (text : String) : Run Nat := do
  match digits? text with
  | some n =>
    if n < low then misuse self s!"value {text} for -{c} option should be >= {low}" 1 else pure n
  | none => misuse self s!"invalid number \"{text}\" for -{c} option" 1

/-- Runs a command for some items; the status so far, and whether all ends there. -/
def runBatch (e : Evaluator) (self : String) (verbose : Bool) (acc : Nat × Bool)
    (argv : List String) : Run (Nat × Bool) := do
  if acc.2 then return acc
  if verbose then do
    let words ← argv.mapM (shellName false)
    Run.say 2 (" ".intercalate words ++ "\n")
  let name := argv.headD ""
  let (_, ending) ← Run.fork do
    Run.connect 0 (← Run.newHandle ⟨.null, 0, false, true, false⟩)
    let r ← become e argv
    complain self (name ++ ": " ++ r.reason)
    Run.setStatus r.launcherStatus
  match ending with
  | .killed signal => do
    complain self s!"{name}: terminated by signal {signal}"
    pure (125, true)
  | .exited 255 => do
    complain self s!"{name}: exited with status 255; aborting"
    pure (124, true)
  | .exited 0 => pure acc
  | .exited n => pure (if n = 126 || n = 127 then (n, true) else (123, false))

def xargs (e : Evaluator) : Body := fun self args => do
  let spec := Spec.ofText "0a:d:E:e;I:i;L:l;n:oP:prs:tx\x01"
    [("null", '0'), ("arg-file", 'a'), ("delimiter", 'd'), ("eof", 'e'), ("replace", 'i'),
      ("max-lines", 'l'), ("max-args", 'n'), ("max-procs", 'P'), ("interactive", 'p'),
      ("no-run-if-empty", 'r'), ("max-chars", 's'), ("verbose", 't'), ("exit", 'x'),
      ("open-tty", 'o'), ("show-limits", '\x01')]
  let a ← arguments self { spec with strict := true } 1 args
  -- Of options that exclude each other the last one counts.
  let exclusive := a.options.filter fun o => "IiLln".toList.contains o.1
  let word (c : Char) : String :=
    if c = 'n' then "--max-args" else if c = 'L' || c = 'l' then "--max-lines"
    else "--replace/-I/-i"
  let _ ← exclusive.foldlM
    (fun (last : Option Char) (c, v) => do
      match last with
      | none => pure ()
      | some b =>
        if word b != word c && !(c = 'n' && v = "1" && word b = word 'I') then
          let named := if c = 'n' then "--max-args/-n" else word c
          complain self (s!"warning: options {word b} and {named} are mutually exclusive, "
            ++ s!"ignoring previous {word b} value")
      pure (if c = 'n' && v = "1" && last.any fun b => word b == word 'I' then last else some c))
    none
  for o in a.options do
    if o.1 = 'P' then let _ ← amountOf self 'P' 0 o.2
    if o.1 = 'n' then let _ ← amountOf self 'n' 1 o.2
    if o.1 = 'L' then let _ ← amountOf self 'L' 1 o.2
    if o.1 = 'l' && o.2 != "" then let _ ← amountOf self 'l' 1 o.2
    if o.1 = 's' then let _ ← amountOf self 's' 1 o.2
  let last := exclusive.foldl
    (fun (last : Option Given) o =>
      if o.1 = 'n' && o.2 = "1" && last.any fun b => word b.1 == word 'I' then last else some o)
    none
  let cs ←
    match a.value? 'a' with
    | none => Run.readAll 0
    | some file => do
      match ← contents file with
      | .ok cs => pure cs
      | .error fault => do
        complain self s!"Cannot open input file {← named file}: {fault.reason}"
        quit 1
  let delimiter? ←
    match (a.options.filter fun o => o.1 == '0' || o.1 == 'd').getLast? with
    | none => pure none
    | some ('0', _) => pure (some '\x00')
    | some (_, text) => do pure (some (← delimiterOf self text))
  let mark? : Option String :=
    match last with
    | some ('I', mark) => some mark
    | some ('i', mark) => some (if mark = "" then "\x7b\x7d" else mark)
    | _ => none
  let stop :=
    ((a.options.filter fun o => o.1 == 'E' || o.1 == 'e').getLast?.map Prod.snd).filter (· != "")
  let (lines, unmatched) : List (List (List Char)) × Option Char :=
    match delimiter? with
    | some d =>
      let parts := (cs.foldl
        (fun (acc : List (List Char) × List Char) c =>
          if c = d then (acc.2.reverse :: acc.1, []) else (acc.1, c :: acc.2))
        ([], []))
      let all := if parts.2.isEmpty then parts.1 else parts.2.reverse :: parts.1
      (all.reverse.map fun i => [i], none)
    | none => ItemReading.ofText mark?.isSome stop cs
  if delimiter?.isNone && cs.contains '\x00' then
    complain self ("WARNING: a NUL character occurred in the input.  It cannot be passed through "
      ++ "in the argument list.  Did you mean to use the --null option?")
  let clean (item : List Char) : String :=
    String.ofList (if delimiter?.isNone then item.takeWhile (· != '\x00') else item)
  let lines : List (List String) := lines.map fun l => l.map clean
  let command : List String := if a.operands.isEmpty then ["echo"] else a.operands
  let room? := (a.value? 's').bind digits?
  let base := (command.map fun w => w.length + 1).foldl (· + ·) 0
  let (argvs, tooLong) : List (List String) × Bool :=
    match mark? with
    | some mark =>
      (lines.flatten.map fun item =>
        command.headD "" :: (command.drop 1).map fun w => w.replace mark item, false)
    | none =>
      let groups : List (List String) :=
        match last with
        | some ('n', n) =>
          let items := lines.flatten
          batches ((digits? n).getD 1) (items.length + 1) items
        | some (_, n) =>
          let size := (digits? n).getD 1
          let rec together : Nat → List (List String) → List (List String)
            | 0, _ => []
            | fuel + 1, ls =>
              if ls.isEmpty then [] else (ls.take size).flatten :: together fuel (ls.drop size)
          together (lines.length + 1) lines
        | none => if lines.isEmpty then [] else [lines.flatten]
      let groups :=
        match room? with
        | none => groups
        | some room => groups.flatMap (fitting (room - base))
      let isLong := room?.any fun room => lines.flatten.any fun i => room < base + i.length + 1
      let argvs := groups.map (command ++ ·)
      if argvs.isEmpty && !a.has 'r' && unmatched.isNone then ([command], false)
      else (argvs, isLong)
  if tooLong then do
    complain self "cannot fit single argument within argument list size limit"
    quit 1
  let (status, stopped) ← argvs.foldlM (runBatch e self (a.has 't')) (0, false)
  match unmatched with
  | some mark =>
    if stopped then pure status
    else do
      let kind := if mark = '"' then "double" else "single"
      complain self (s!"unmatched {kind} quote; by default quotes are special to xargs "
        ++ "unless you use the -0 option")
      pure 1
  | none => pure status

end CredoAssistant.Shell.Program
