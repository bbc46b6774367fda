import CredoAssistant.Number.Instances
import CredoAssistant.Shell.Script

/-!
Arithmetic of shell expansions: integers of 64 bits, the operators of their usual ranks, variables
and assignments to them.
-/
namespace CredoAssistant.Shell.Arithmetic

/-- An integer brought into 64 bits. -/
def wrap (x : Int) : Int := Int.bmod x (2 ^ 64)

/-- The greatest integer of 64 bits. -/
def greatest : Nat := 2 ^ 63 - 1

/-- Whether a character is a digit of a base up to sixteen. -/
def digit? (base : Nat) (c : Char) : Option Nat :=
  let n :=
    if c.isDigit then c.toNat - '0'.toNat
    else if 'a' ≤ c ∧ c ≤ 'f' then c.toNat - 'a'.toNat + 10
    else if 'A' ≤ c ∧ c ≤ 'F' then c.toNat - 'A'.toNat + 10
    else 16
  if n < base then some n else none

/-- The value of digits in a base. -/
def ofDigits (base : Nat) (cs : List Char) : Nat :=
  cs.foldl (fun n c => n * base + (digit? base c).getD 0) 0

/-- Reads an unsigned integer in front of a text: hexadecimal after `0x`, binary after `0b`, octal
after another zero, decimal otherwise. -/
def readUnsigned (cs : List Char) : Option (Nat × List Char) :=
  let span (base : Nat) (cs : List Char) : Option (Nat × List Char) :=
    let ds := cs.takeWhile fun c => (digit? base c).isSome
    if ds.isEmpty then none else some (ofDigits base ds, cs.drop ds.length)
  match cs with
  | '0' :: x :: rest =>
    if x = 'x' ∨ x = 'X' then
      match span 16 rest with
      | some r => some r
      | none => some (0, x :: rest)
    else if x = 'b' ∨ x = 'B' then
      match span 2 rest with
      | some r => some r
      | none => some (0, x :: rest)
    else span 8 cs
  | cs => span 10 cs

def isSpace (c : Char) : Bool := c == ' ' || ('\t' ≤ c && c ≤ '\r')

/-- Reads a signed integer in front of a text, after blanks: its value, which is kept within 64
bits, whether it had to be, and what follows it. -/
def readInteger (anyBase : Bool) (cs : List Char) : Option (Int × Bool × List Char) :=
  let cs := cs.dropWhile isSpace
  let negative := cs.head? == some '-'
  let body := if negative || cs.head? == some '+' then cs.drop 1 else cs
  let unsigned :=
    if anyBase then readUnsigned body
    else
      let ds := body.takeWhile Char.isDigit
      if ds.isEmpty then none else some (ofDigits 10 ds, body.drop ds.length)
  unsigned.map fun (n, rest) =>
    let limit := if negative then greatest + 1 else greatest
    let kept : Int := (min n limit : Nat)
    (if negative then -kept else kept, limit < n, rest)

/-- Reads an unsigned word of 64 bits in front of a text, after blanks: its value, which a minus
turns around and the greatest word bounds, whether it was too large, and what follows it. -/
def readWord (cs : List Char) : Option (Nat × Bool × List Char) :=
  let cs := cs.dropWhile isSpace
  let negative := cs.head? == some '-'
  let body := if negative || cs.head? == some '+' then cs.drop 1 else cs
  (readUnsigned body).map fun (n, rest) =>
    let exceeds := decide (2 ^ 64 ≤ n)
    let turned := if negative then (2 ^ 64 - n) % 2 ^ 64 else n
    (if exceeds then 2 ^ 64 - 1 else turned, exceeds, rest)

/-- The integer that a text stands for as a whole, blanks at its ends aside. An empty text stands
for zero where any base is read. -/
def integer? (anyBase : Bool) (s : String) : Option Int :=
  match readInteger anyBase s.toList with
  | some (n, false, rest) => if rest.all isSpace then some n else none
  | some (_, true, _) => none
  | none => if anyBase && s.toList.all isSpace then some 0 else none

/-- The operators between two operands. -/
inductive Binary
  | mul
  | div
  | rem
  | add
  | sub
  | shiftLeft
  | shiftRight
  | less
  | lessEq
  | greater
  | greaterEq
  | equal
  | unequal
  | bitAnd
  | bitXor
  | bitOr
  deriving DecidableEq, Repr

/-- The rank of an operator; a lower one binds closer. -/
def Binary.rank : Binary → Nat
  | mul => 0
  | div => 0
  | rem => 0
  | add => 1
  | sub => 1
  | shiftLeft => 2
  | shiftRight => 2
  | less => 3
  | lessEq => 3
  | greater => 3
  | greaterEq => 3
  | equal => 4
  | unequal => 4
  | bitAnd => 5
  | bitXor => 6
  | bitOr => 7

/-- The operators before an operand. -/
inductive Unary
  | negate
  | not
  | complement
  deriving DecidableEq, Repr

/-- Why a text is no expression or has no value. -/
inductive Fault
  | noPrimary
  | noParenthesis
  | noColon
  | notEnded
  | zeroDivision
  deriving DecidableEq, Repr

def Fault.message : Fault → String
  | noPrimary => "expecting primary"
  | noParenthesis => "expecting ')'"
  | noColon => "expecting ':'"
  | notEnded => "expecting EOF"
  | zeroDivision => "division by zero"

/-- An expression. An assignment may combine the old value with the new one. Where a text breaks off
being an expression a fault stands, which comes after the value of what is complete. -/
inductive Expr
  | number (n : Int)
  | variable (name : String)
  | unary (op : Unary) (a : Expr)
  | binary (op : Binary) (a b : Expr)
  | both (a b : Expr)
  | either (a b : Expr)
  | choose (test yes no : Expr)
  | assign (name : String) (op : Option Binary) (a : Expr)
  | broken (before : Expr) (fault : Fault)
  deriving Repr, Inhabited

/-- The fault in an expression that is read but has no value taken. -/
def Expr.fault? : Expr → Option Fault
  | .number _ => none
  | .variable _ => none
  | .unary _ a => a.fault?
  | .binary _ a b => a.fault?.or b.fault?
  | .both a b => a.fault?.or b.fault?
  | .either a b => a.fault?.or b.fault?
  | .choose a b c => a.fault?.or (b.fault?.or c.fault?)
  | .assign _ _ a => a.fault?
  | .broken a f => a.fault?.or (some f)

inductive Token
  | number (n : Int)
  | name (s : String)
  | sign (s : String)
  deriving DecidableEq, Repr

/-- The signs of expressions, longer ones first. -/
def signs : List String :=
  ["<<=", ">>=", "<<", ">>", "<=", ">=", "==", "!=", "&&", "||", "*=", "/=", "%=", "+=", "-=", "&=",
    "^=", "|=", "(", ")", "*", "/", "%", "+", "-", "<", ">", "&", "^", "|", "!", "~", "?", ":", "="]

/-- Cuts an expression into tokens. A character without a meaning is a sign that nothing expects. -/
def tokens : Nat → List Char → List Token
  | 0, _ => []
  | fuel + 1, cs =>
    match cs.dropWhile fun c => c == ' ' || c == '\t' || c == '\n' with
    | [] => []
    | c :: rest =>
      let cs := c :: rest
      if c.isDigit then
        match readUnsigned cs with
        | some (n, rest) => .number (min n greatest : Nat) :: tokens fuel rest
        | none => []
      else if isNameStart c then
        let name := cs.takeWhile isNameChar
        .name (String.ofList name) :: tokens fuel (cs.drop name.length)
      else
        match signs.find? fun s => s.toList.isPrefixOf cs with
        | some s => .sign s :: tokens fuel (cs.drop s.length)
        | none => .sign (String.singleton c) :: tokens fuel rest

def binary? : Token → Option Binary
  | .sign s =>
    if s = "*" then some .mul
    else if s = "/" then some .div
    else if s = "%" then some .rem
    else if s = "+" then some .add
    else if s = "-" then some .sub
    else if s = "<<" then some .shiftLeft
    else if s = ">>" then some .shiftRight
    else if s = "<" then some .less
    else if s = "<=" then some .lessEq
    else if s = ">" then some .greater
    else if s = ">=" then some .greaterEq
    else if s = "==" then some .equal
    else if s = "!=" then some .unequal
    else if s = "&" then some .bitAnd
    else if s = "^" then some .bitXor
    else if s = "|" then some .bitOr
    else none
  | _ => none

/-- The operator of an assignment; a plain one has none. -/
def assignment? : Token → Option (Option Binary)
  | .sign "=" => some none
  | .sign s =>
    if ["<<=", ">>=", "*=", "/=", "%=", "+=", "-=", "&=", "^=", "|="].contains s then
      (binary? (.sign (s.dropEnd 1).toString)).map some
    else none
  | _ => none

/-- What one step of reading gives: a part, and what follows it unless it is broken. -/
abbrev Read := Expr × Option (List Token)

/-- A part that breaks off. -/
def Read.broken (e : Expr) (f : Fault) : Read := (.broken e f, none)

/-- Goes on behind a part that is complete. -/
def Read.andThen (r : Read) (next : Expr → List Token → Read) : Read :=
  match r with
  | (e, some rest) => next e rest
  | (e, none) => (e, none)

/-- Puts a part into a larger one. -/
def Read.within (r : Read) (f : Expr → Expr) : Read := (f r.1, r.2)

/-- Reads an operand; `whole` reads what stands in parentheses. -/
def primary (whole : List Token → Read) : List Token → Read
  | .number n :: rest => (.number n, some rest)
  | .name s :: rest => (.variable s, some rest)
  | .sign "(" :: rest =>
    (whole rest).andThen fun e rest =>
      match rest with
      | .sign ")" :: rest => (e, some rest)
      | _ => .broken e .noParenthesis
  | .sign "+" :: rest => primary whole rest
  | .sign "-" :: rest => (primary whole rest).within (.unary .negate)
  | .sign "!" :: rest => (primary whole rest).within (.unary .not)
  | .sign "~" :: rest => (primary whole rest).within (.unary .complement)
  | _ => .broken (.number 0) .noPrimary

/-- Reads operators of a rank below `rank` and their operands behind a first one. -/
def operators (whole : List Token → Read) : Nat → Nat → Expr → List Token → Read
  | 0, _, a, ts => (a, some ts)
  | fuel + 1, rank, a, ts =>
    match ts.head?.bind binary? with
    | none => (a, some ts)
    | some op =>
      if rank ≤ op.rank then (a, some ts)
      else
        let right := (primary whole ts.tail).andThen fun b rest =>
          operators whole fuel op.rank b rest
        (right.within (.binary op a)).andThen fun e rest => operators whole fuel rank e rest

/-- Reads a sum of conditions, which group to the right. -/
def conjunction (whole : List Token → Read) : Nat → List Token → Read
  | 0, _ => .broken (.number 0) .noPrimary
  | fuel + 1, ts =>
    let first := (primary whole ts).andThen fun a rest => operators whole ts.length 8 a rest
    first.andThen fun a rest =>
      match rest with
      | .sign "&&" :: rest => (conjunction whole fuel rest).within (.both a)
      | rest => (a, some rest)

def disjunction (whole : List Token → Read) : Nat → List Token → Read
  | 0, _ => .broken (.number 0) .noPrimary
  | fuel + 1, ts =>
    (conjunction whole (ts.length + 1) ts).andThen fun a rest =>
      match rest with
      | .sign "||" :: rest => (disjunction whole fuel rest).within (.either a)
      | rest => (a, some rest)

def selection (whole : List Token → Read) : Nat → List Token → Read
  | 0, _ => .broken (.number 0) .noPrimary
  | fuel + 1, ts =>
    (disjunction whole (ts.length + 1) ts).andThen fun test rest =>
      match rest with
      | .sign "?" :: rest =>
        match whole rest with
        | (yes, some (.sign ":" :: rest)) => (selection whole fuel rest).within (.choose test yes)
        | (yes, some _) => (.choose test (.broken yes .noColon) (.number 0), none)
        | (yes, none) => (.choose test yes (.number 0), none)
      | rest => (test, some rest)

/-- Reads an expression with its assignments, which group to the right. -/
def expression : Nat → List Token → Read
  | 0, _ => .broken (.number 0) .noPrimary
  | fuel + 1, ts =>
    let plain := selection (expression fuel) (ts.length + 1) ts
    match ts with
    | .name s :: t :: rest =>
      match assignment? t with
      | some op => (expression fuel rest).within (.assign s op)
      | none => plain
    | _ => plain

/-- Reads a text as one expression. -/
def parse (cs : List Char) : Expr :=
  let ts := tokens (cs.length + 1) cs
  match expression (ts.length + 1) ts with
  | (e, some []) => e
  | (e, some _) => .broken e .notEnded
  | (e, none) => e

/-- The truth of a comparison as a number. -/
def truth (b : Bool) : Int := if b then 1 else 0

/-- An integer as the word of 64 bits that stands for it. -/
def toWord (x : Int) : Nat := (Int.emod x (2 ^ 64)).toNat

/-- Whether a quotient does not fit into 64 bits, which no machine forgives. -/
def Binary.traps (op : Binary) (a b : Int) : Bool :=
  (op == div || op == rem) && a == -(2 ^ 63) && b == -1

/-- Applies an operator to two integers. -/
def Binary.apply (op : Binary) (a b : Int) : Except Fault Int :=
  let ofWord (n : Nat) : Int := wrap (n : Int)
  match op with
  | mul => .ok (wrap (a * b))
  | div => if b = 0 then .error .zeroDivision else .ok (wrap (Int.tdiv a b))
  | rem => if b = 0 then .error .zeroDivision else .ok (wrap (Int.tmod a b))
  | add => .ok (wrap (a + b))
  | sub => .ok (wrap (a - b))
  | shiftLeft => .ok (wrap (a * 2 ^ (toWord b % 64)))
  | shiftRight => .ok (a.fdiv (2 ^ (toWord b % 64)))
  | less => .ok (truth (a < b))
  | lessEq => .ok (truth (a ≤ b))
  | greater => .ok (truth (b < a))
  | greaterEq => .ok (truth (b ≤ a))
  | equal => .ok (truth (a == b))
  | unequal => .ok (truth (a != b))
  | bitAnd => .ok (ofWord (toWord a &&& toWord b))
  | bitXor => .ok (ofWord (toWord a ^^^ toWord b))
  | bitOr => .ok (ofWord (toWord a ||| toWord b))

def Unary.apply (op : Unary) (a : Int) : Int :=
  match op with
  | negate => wrap (-a)
  | not => truth (a == 0)
  | complement => -a - 1

end CredoAssistant.Shell.Arithmetic
