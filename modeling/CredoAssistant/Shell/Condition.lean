import CredoAssistant.Shell.Arithmetic
import CredoAssistant.Shell.Files

/-!
Conditions on texts, integers and files. Operators are told from operands by their place.
-/
namespace CredoAssistant.Shell

namespace Condition

inductive Operator
  | unary
  | binary
  | not
  | and
  | or
  | left
  | right
  deriving DecidableEq, Repr

def operator? (s : String) : Option Operator :=
  if ["-r", "-w", "-x", "-e", "-f", "-d", "-c", "-b", "-p", "-u", "-g", "-k", "-s", "-t", "-z",
    "-n", "-h", "-O", "-G", "-L", "-S"].contains s then some .unary
  else if ["=", "!=", "<", ">", "-eq", "-ne", "-ge", "-gt", "-le", "-lt", "-nt", "-ot",
    "-ef"].contains s then some .binary
  else if s = "!" then some .not
  else if s = "-a" then some .and
  else if s = "-o" then some .or
  else if s = "(" then some .left
  else if s = ")" then some .right
  else none

/-- What stands in front of some arguments: nothing, an operand, or an operator. -/
inductive Lexeme
  | nothing
  | operand
  | operator (op : Operator)
  deriving DecidableEq, Repr

/-- Whether a unary operator stands there as an operand. -/
def isOperand : List String → Bool
  | [] => true
  | [_] => false
  | s :: _ => operator? s == some .binary

def lexeme : List String → Lexeme
  | [] => .nothing
  | s :: rest =>
    match operator? s with
    | none => .operand
    | some .unary => if isOperand rest then .operand else .operator .unary
    | some .left => if rest.isEmpty then .operand else .operator .left
    | some op => .operator op

end Condition

namespace Run

open Condition

/-- An integer in decimal digits. -/
def integer (s : String) : Run Int := do
  match Arithmetic.integer? false s with
  | some n => pure n
  | none => fail s!"Illegal number: {s}"

/-- A natural number of 31 bits. -/
def natural (s : String) : Run Nat := do
  let n ← integer s
  if n < 0 ∨ 2 ^ 31 ≤ n then fail s!"Illegal number: {s}" else pure n.toNat

/-- A condition on a file. -/
def fileCondition (op path : String) : Run Bool := do
  match ← inode (op != "-h" && op != "-L") path with
  | .error _ => pure false
  | .ok i =>
    let has (bit : Nat) : Bool := i.mode &&& bit != 0
    pure <|
      match op with
      | "-b" => false
      | "-c" =>
        match i.content with
        | .device => true
        | _ => false
      | "-d" => i.isDirectory
      | "-f" => i.isFile
      | "-h" => i.isLink
      | "-L" => i.isLink
      | "-p" =>
        match i.content with
        | .pipe => true
        | _ => false
      | "-S" => false
      | "-s" => 0 < i.size
      | "-x" => i.isDirectory || i.runs
      | "-u" => has 2048
      | "-g" => has 1024
      | "-k" => has 512
      | "-O" => i.owner == 0
      | "-G" => i.group == 0
      | _ => true

/-- When a file was changed, if it is there. -/
def changeTime? (path : String) : Run (Option Int) := do
  return (← inode true path).toOption.map Inode.changed

def unaryCondition (op arg : String) : Run Bool := do
  if op = "-z" then pure (arg == "")
  else if op = "-n" then pure (arg != "")
  else if op = "-t" then do
    let _ ← integer arg
    pure false
  else fileCondition op arg

def binaryCondition (a op b : String) : Run Bool := do
  if op = "=" then pure (a == b)
  else if op = "!=" then pure (a != b)
  else if op = "<" then pure (decide (a < b))
  else if op = ">" then pure (decide (b < a))
  else if op = "-nt" ∨ op = "-ot" then do
    match ← changeTime? a, ← changeTime? b with
    | some t, some u => pure (if op = "-nt" then decide (u < t) else decide (t < u))
    | _, _ => pure false
  else if op = "-ef" then do
    match ← node true a, ← node true b with
    | .ok (m, _), .ok (n, _) => pure (m == n)
    | _, _ => pure false
  else do
    let x ← integer a
    let y ← integer b
    pure (
      if op = "-eq" then x == y
      else if op = "-ne" then x != y
      else if op = "-ge" then decide (y ≤ x)
      else if op = "-gt" then decide (y < x)
      else if op = "-le" then decide (x ≤ y)
      else decide (x < y))

/-- A condition without other ones on its sides; `whole` is one in parentheses. Arguments are given
back from the last one of the condition on. -/
def primary (whole : Lexeme → List String → Run (Bool × List String)) (l : Lexeme)
    (args : List String) : Run (Bool × List String) := do
  match l with
  | .nothing => pure (false, args)
  | .operator .left => do
    let inner := args.tail
    let next := lexeme inner
    if next = .operator .right then pure (false, inner)
    else do
      let (b, args) ← whole next inner
      let rest := args.tail
      if lexeme rest = .operator .right then pure (b, rest) else fail "closing paren expected"
  | .operator .unary => do
    match args with
    | op :: arg :: rest => do return (← unaryCondition op arg, arg :: rest)
    | op :: _ => fail s!"{op}: argument expected"
    | [] => pure (false, [])
  | _ => do
    match args with
    | a :: op :: rest =>
      if lexeme (op :: rest) = .operator .binary then
        match rest with
        | b :: _ => do return (← binaryCondition a op b, rest)
        | [] => fail s!"{op}: argument expected"
      else pure (a != "", args)
    | args => pure (args.headD "" != "", args)

/-- A condition that may be negated. -/
def negation (whole : Lexeme → List String → Run (Bool × List String)) :
    Nat → Lexeme → List String → Run (Bool × List String)
  | 0, l, args => primary whole l args
  | fuel + 1, l, args => do
    if l = .operator .not then do
      let next := lexeme args.tail
      let (b, args) ← negation whole fuel next (if next = .nothing then args else args.tail)
      pure (!b, args)
    else primary whole l args

/-- Conditions that must all hold. -/
def conjunction (whole : Lexeme → List String → Run (Bool × List String)) :
    Nat → Lexeme → List String → Run (Bool × List String)
  | 0, _, args => pure (false, args)
  | fuel + 1, l, args => do
    let (a, args) ← negation whole (args.length + 1) l args
    if lexeme args.tail = .operator .and then do
      let rest := args.drop 2
      let (b, args) ← conjunction whole fuel (lexeme rest) rest
      pure (a && b, args)
    else pure (a, args)

/-- Conditions one of which must hold. -/
def disjunction : Nat → Lexeme → List String → Run (Bool × List String)
  | 0, _, args => pure (false, args)
  | fuel + 1, l, args => do
    let (a, args) ← conjunction (disjunction fuel) (args.length + 1) l args
    if lexeme args.tail = .operator .or then do
      let rest := args.drop 2
      let (b, args) ← disjunction fuel (lexeme rest) rest
      pure (a || b, args)
    else pure (a, args)

/-- Whether the condition that some arguments state holds. -/
def holds : Nat → List String → Run Bool
  | 0, _ => pure false
  | fuel + 1, args => do
    let general (args : List String) (l : Lexeme) : Run Bool := do
      let (b, args) ← disjunction (args.length + 1) l args
      match args with
      | s :: _ :: _ => fail ((if s = "" then "" else s ++ ": ") ++ "unexpected operator")
      | _ => pure b
    let special : Run Bool := do
      if args.head? = some "(" ∧ args.getLast? = some ")" then
        let inner := args.tail.dropLast
        general inner (lexeme inner)
      else if args.head? = some "!" then do return !(← holds fuel args.tail)
      else general args (lexeme args)
    match args with
    | [] => pure false
    | [_, op, _] => if operator? op = some .binary then general args .operand else special
    | [_, _, _, _] => special
    | args => general args (lexeme args)

/-- Tests a condition, between brackets when the command is one. -/
def test (command : String) (args : List String) : Run Nat := do
  let result (args : List String) : Run Nat := do
    return if ← holds (args.length + 1) args then 0 else 1
  if command = "[" then
    if args.getLast? = some "]" then result args.dropLast else fail "missing ]"
  else result args

end Run

end CredoAssistant.Shell
