import CredoAssistant.Shell.Condition
import CredoAssistant.Shell.Program.Common

/-!
Conditions as a program tests them: by the number of their arguments as long as there are few, and
by the ranks of their operators otherwise.
-/
namespace CredoAssistant.Shell.Program

namespace Testing

/-- The program's name and the last of its arguments, for messages. -/
structure Setting where
  self : String
  last : String

/-- Whether a condition holds, and the arguments behind it. -/
abbrev Tested := Bool × List String

def refuse {α : Type} (s : Setting) (message : String) : Run α := do
  complain s.self message
  quit 2

/-- Something is missing at the end. -/
def beyond {α : Type} (s : Setting) : Run α := do
  refuse s s!"missing argument after {← named s.last}"

/-- The arguments behind the first one, of which there must be some. -/
def behind (s : Setting) (args : List String) : Run (List String) := do
  if args.tail.isEmpty then beyond s else pure args.tail

def isBinary (op : String) : Bool :=
  ["=", "!=", "==", "-nt", "-ot", "-ef", "-eq", "-ne", "-lt", "-le", "-gt", "-ge"].contains op

def integer (s : Setting) (text : String) : Run Int := do
  let isSpace := Arithmetic.isSpace
  let cs := text.toList.dropWhile isSpace
  let negative := cs.head? == some '-'
  let body := if negative || cs.head? == some '+' then cs.drop 1 else cs
  let ds := body.takeWhile Char.isDigit
  if ds.isEmpty || !(body.drop ds.length).all isSpace then
    refuse s s!"invalid integer {← named text}"
  else
    let n : Int := (Arithmetic.ofDigits 10 ds : Nat)
    pure (if negative then -n else n)

/-- A condition on a file or a text. -/
def unary (s : Setting) (args : List String) : Run Tested := do
  let op := args.headD ""
  if !(["-e", "-r", "-w", "-x", "-N", "-O", "-G", "-f", "-d", "-s", "-S", "-c", "-b", "-p",
      "-L", "-h", "-u", "-g", "-k", "-t", "-n", "-z"].contains op) then
    refuse s s!"{← named op}: unary operator expected"
  else do
    let rest ← behind s args
    let arg := rest.headD ""
    let holds ←
      if op = "-z" then pure (arg == "")
      else if op = "-n" then pure (arg != "")
      else if op = "-t" then do
        let _ ← integer s arg
        pure false
      else if op = "-N" then do
        let found ← Run.inode true arg
        pure (found.toOption.any fun i => i.accessed ≤ i.changed)
      else Run.fileCondition op arg
    pure (holds, rest.tail)

/-- A condition on two texts, integers or files. An integer may be the length of a text. -/
def binary (s : Setting) (isLength : Bool) (args : List String) : Run Tested := do
  let args := if isLength then args.tail else args
  match args with
  | a :: op :: rest => do
    let ofLength := rest.head? == some "-l" && 2 ≤ rest.length
    let behind := if ofLength then rest.tail else rest
    let b := behind.headD ""
    let number (measured : Bool) (text : String) : Run Int := do
      if measured then pure (text.length : Nat) else integer s text
    let holds ←
      if op = "=" ∨ op = "==" then pure (a == rest.headD "")
      else if op = "!=" then pure (a != rest.headD "")
      else if ["-nt", "-ot", "-ef"].contains op then
        if isLength || ofLength then refuse s s!"{op} does not accept -l"
        else if op = "-ef" then Run.binaryCondition a op b
        else do
          match ← Run.changeTime? a, ← Run.changeTime? b with
          | some t, some u => pure (if op = "-nt" then decide (u < t) else decide (t < u))
          | some _, none => pure (op == "-nt")
          | none, some _ => pure (op == "-ot")
          | none, none => pure false
      else do
        let x ← number isLength a
        let y ← number ofLength b
        pure (
          if op = "-eq" then x == y
          else if op = "-ne" then x != y
          else if op = "-ge" then decide (y ≤ x)
          else if op = "-gt" then decide (y < x)
          else if op = "-le" then decide (x ≤ y)
          else decide (x < y))
    pure (holds, behind.tail)
  | _ => beyond s

def isSwitch (a : String) : Bool := a.startsWith "-" && a.length = 2

mutual

/-- A condition with `count` arguments. -/
def ofCount (s : Setting) : Nat → Nat → List String → Run Tested
  | 0, _, _ => beyond s
  | fuel + 1, count, args => do
    let one (args : List String) : Tested := (args.headD "" != "", args.tail)
    let two (args : List String) : Run Tested := do
      if args.head? = some "!" then
        let (b, rest) := one args.tail
        pure (!b, rest)
      else if isSwitch (args.headD "") then unary s args
      else beyond s
    let three (args : List String) : Run Tested := do
      let op := args[1]?.getD ""
      if isBinary op then binary s false args
      else if args.head? = some "!" then do
        let (b, rest) ← two (← behind s args)
        pure (!b, rest)
      else if args.head? = some "(" ∧ args[2]? = some ")" then
        pure ((one args.tail).1, args.drop 3)
      else if op = "-a" ∨ op = "-o" then disjunction s fuel args
      else refuse s s!"{← named op}: binary operator expected"
    match count with
    | 1 => pure (one args)
    | 2 => two args
    | 3 => three args
    | 4 => do
      if args.head? = some "!" then do
        let (b, rest) ← three (← behind s args)
        pure (!b, rest)
      else if args.head? = some "(" ∧ args[3]? = some ")" then do
        let (b, rest) ← two args.tail
        pure (b, rest.tail)
      else disjunction s fuel args
    | _ => disjunction s fuel args

/-- A condition that may be negated or stand in parentheses. -/
def term (s : Setting) : Nat → List String → Run Tested
  | 0, _ => beyond s
  | fuel + 1, args => do
    match args with
    | [] => beyond s
    | "!" :: rest => do
      if rest.isEmpty then beyond s
      else do
        let (b, rest) ← term s fuel rest
        pure (!b, rest)
    | "(" :: rest => do
      if rest.isEmpty then beyond s
      else do
        let inner := 1 + (rest.tail.takeWhile (· != ")")).length
        let (b, left) ← ofCount s fuel (if 4 < inner then rest.length else inner) rest
        match left with
        | ")" :: left => pure (b, left)
        | [] => refuse s ((← named ")") ++ " expected")
        | a :: _ => refuse s ((← named ")") ++ s!" expected, found {← named a}")
    | a :: _ =>
      if 4 ≤ args.length ∧ a = "-l" ∧ isBinary (args[2]?.getD "") then binary s true args
      else if 3 ≤ args.length ∧ isBinary (args[1]?.getD "") then binary s false args
      else if isSwitch a then unary s args
      else pure (a != "", args.tail)

/-- Conditions that must all hold. -/
def conjunction (s : Setting) : Nat → List String → Run Tested
  | 0, _ => beyond s
  | fuel + 1, args => do
    match ← term s fuel args with
    | (a, "-a" :: rest) => do
      let (b, rest) ← conjunction s fuel rest
      pure (a && b, rest)
    | r => pure r

/-- Conditions one of which must hold. -/
def disjunction (s : Setting) : Nat → List String → Run Tested
  | 0, _ => beyond s
  | fuel + 1, args => do
    match ← conjunction s fuel args with
    | (a, "-o" :: rest) => do
      let (b, rest) ← disjunction s fuel rest
      pure (a || b, rest)
    | r => pure r

end

end Testing

open Testing

/-- Tests a condition, between brackets when the program is one. -/
def test (bracket : Bool) : Body := fun self args => do
  let s : Setting := ⟨self, (if bracket then args.dropLast else args).getLast?.getD self⟩
  if bracket && args.getLast? != some "]" then refuse s ("missing " ++ (← named "]"))
  else do
    let args := if bracket then args.dropLast else args
    if args.isEmpty then pure 1
    else
      match ← ofCount s (4 * args.length + 8) args.length args with
      | (b, []) => pure (if b then 0 else 1)
      | (_, a :: _) => refuse s s!"extra argument {← named a}"

end CredoAssistant.Shell.Program
