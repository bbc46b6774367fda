import CredoAssistant.Shell.Layout
import CredoAssistant.Shell.Files

/-!
Formatted output: the escapes of texts, and formats whose directives take the arguments in turn.
-/
namespace CredoAssistant.Shell

namespace Escape

def isOctal (c : Char) : Bool := '0' ≤ c && c ≤ '7'

/-- The character of an escape of one letter. -/
def letter? (c : Char) : Option Char :=
  if c = 'a' then some '\x07'
  else if c = 'b' then some '\x08'
  else if c = 't' then some '\t'
  else if c = 'n' then some '\n'
  else if c = 'v' then some '\x0b'
  else if c = 'f' then some '\x0c'
  else if c = 'r' then some '\r'
  else if c = '\\' then some '\\'
  else none

/-- The byte of up to three octal digits. -/
def byte (digits : List Char) : Char := Char.ofNat (Arithmetic.ofDigits 8 digits % 256)

/-- Reads an escape behind its backslash. An unknown one leaves the backslash as it is. -/
def read (cs : List Char) : Char × List Char :=
  let digits := (cs.take 3).takeWhile isOctal
  if !digits.isEmpty then (byte digits, cs.drop digits.length)
  else
    match cs with
    | 'e' :: rest => ('\x1b', rest)
    | cs =>
      match cs.head?.bind letter? with
      | some c => (c, cs.tail)
      | none => ('\\', cs)

/-- Expands the escapes of a text; the flag says that all output stops there. A zero may stand
before octal digits. -/
def expand : Nat → List Char → List Char × Bool
  | 0, _ => ([], false)
  | _ + 1, [] => ([], false)
  | fuel + 1, c :: rest =>
    if c = '\\' then
      match rest with
      | 'c' :: _ => ([], true)
      | rest =>
        let padded :=
          match rest with
          | '0' :: d :: _ => isOctal d
          | _ => false
        let (c, rest) := read (if padded then rest.tail else rest)
        let (cs, stops) := expand fuel rest
        (c :: cs, stops)
    else
      let (cs, stops) := expand fuel rest
      (c :: cs, stops)

def expandText (s : String) : List Char × Bool := expand (s.length + 1) s.toList

end Escape

/-- Texts with one blank between them and a line end behind them, unless the first one asks for none
or an escape stops the output. -/
def echoText (args : List String) : List Char :=
  let (closed, args) :=
    match args with
    | "-n" :: rest => (false, rest)
    | args => (true, args)
  let (cs, stops) := Escape.expandText (" ".intercalate args)
  if stops || !closed then cs else cs ++ ['\n']

/-- What a format has written so far, the last character first, the arguments that are left, and the
status. A failure, or an escape that stops all output, ends it. -/
structure Formatted where
  written : List Char
  args : List String
  status : Nat
  stopped : Bool
  failure : Option String

def Formatted.isOver (f : Formatted) : Bool := f.stopped || f.failure.isSome

namespace Run

/-- Checks that a text was read to its end as a number. -/
def checkConversion (s : String) (left : Option (List Char)) (exceeds : Bool) : Run Nat := do
  match left with
  | none =>
    if s = "" then pure 0
    else do
      warn s!"{s}: expected numeric value"
      pure 1
  | some (_ :: _) => do
    warn s!"{s}: not completely converted"
    pure 1
  | some [] =>
    if exceeds then do
      warn s!"{s}: Numerical result out of range"
      pure 1
    else pure 0

/-- The character behind a quotation mark, which stands for its number. -/
def quotedNumber? (s : String) : Option Nat :=
  match s.toList with
  | c :: rest => if c = '"' ∨ c = '\'' then some ((rest.head?.map Char.toNat).getD 0) else none
  | [] => none

/-- The integer that an argument stands for, and a status. -/
def signedArgument (s : String) : Run (Int × Nat) := do
  match quotedNumber? s with
  | some n => pure ((n : Nat), 0)
  | none =>
    match Arithmetic.readInteger true s.toList with
    | some (n, exceeds, rest) => do return (n, ← checkConversion s (some rest) exceeds)
    | none => do return (0, ← checkConversion s none false)

/-- The natural number of 64 bits that an argument stands for, and a status. -/
def unsignedArgument (s : String) : Run (Nat × Nat) := do
  match quotedNumber? s with
  | some n => pure (n, 0)
  | none =>
    match Arithmetic.readWord s.toList with
    | some (n, exceeds, rest) => do return (n, ← checkConversion s (some rest) exceeds)
    | none => do return (0, ← checkConversion s none false)

def floatArgument (s : String) : Run (Floating × Nat) := do
  match quotedNumber? s with
  | some n => pure (Floating.ofInt .double n, 0)
  | none =>
    match Floating.read? .double s.toList with
    | some r => do return (r.value, ← checkConversion s (some r.rest) r.exceeds)
    | none => do return (Floating.ofInt .double 0, ← checkConversion s none false)

/-- A width or precision: digits, or an argument in the place of an asterisk. -/
def measure (f : Formatted) (cs : List Char) : Run (Option Int × Formatted × List Char) := do
  match cs with
  | '*' :: rest => do
    let (n, status) ← signedArgument (f.args.headD "")
    pure (some n, { f with args := f.args.tail, status := max f.status status }, rest)
  | cs =>
    let ds := cs.takeWhile Char.isDigit
    let n : Option Int := if ds.isEmpty then none else some (Arithmetic.ofDigits 10 ds : Nat)
    pure (n, f, cs.drop ds.length)

/-- The greatest width and precision that a value can be laid out with. -/
def mostWidth : Nat := 2 ^ 31 - 1

/-- Writes one argument as a directive asks. `shown` is the directive in messages. -/
def directive (l : Layout) (shown : List Char) (c : Char) (f : Formatted) : Run Formatted := do
  let arg := f.args.headD ""
  let put (cs : List Char) (status : Nat) (stopped : Bool) : Formatted :=
    ⟨cs.reverse ++ f.written, f.args.tail, max f.status status, stopped, none⟩
  if !"sbcdiouxXeEfFgGaA".toList.contains c then
    pure { f with failure := some s!"{String.ofList shown}: invalid directive" }
  else if mostWidth < l.width || mostWidth < l.precision.getD 0 then
    pure { f with failure := some "xvsnprintf failed" }
  else if c = 's' then pure (put (l.text arg.toList) 0 false)
  else if c = 'b' then
    let (cs, stops) := Escape.expandText arg
    pure (put (l.text cs) 0 stops)
  else if c = 'c' then pure (put (l.pad [arg.toList.headD '\x00']) 0 false)
  else if c = 'd' ∨ c = 'i' then do
    let (n, status) ← signedArgument arg
    pure (put (l.signed n) status false)
  else if c = 'o' ∨ c = 'u' ∨ c = 'x' ∨ c = 'X' then do
    let (n, status) ← unsignedArgument arg
    pure (put (l.unsigned c n) status false)
  else do
    let (x, status) ← floatArgument arg
    pure (put (l.float .double c x) status false)

/-- Goes through a format once. -/
def formatOnce : Nat → List Char → Formatted → Run Formatted
  | 0, _, f => pure f
  | fuel + 1, cs, f => do
    let put (c : Char) : Formatted := { f with written := c :: f.written }
    match cs with
    | [] => pure f
    | '\\' :: rest =>
      let (c, rest) := Escape.read rest
      formatOnce fuel rest (put c)
    | '%' :: '%' :: rest => formatOnce fuel rest (put '%')
    | '%' :: rest => do
      let flags := rest.takeWhile fun c => "#-+ 0".toList.contains c
      let (width, f, behind) ← measure f (rest.drop flags.length)
      let (precision, f, behind) ←
        match behind with
        | '.' :: more => do
          let (n, f, behind) ← measure f more
          pure (some (n.getD 0), f, behind)
        | behind => pure (none, f, behind)
      match behind with
      | [] => pure { f with failure := some "missing format character" }
      | c :: behind => do
        let shown := cs.take (cs.length - behind.length)
        let width := width.getD 0
        let flags := if width < 0 then '-' :: flags else flags
        let precision := precision.bind fun n => if n < 0 then none else some n.toNat
        let f ← directive ⟨flags, width.natAbs, precision⟩ shown c f
        if f.isOver then pure f else formatOnce fuel behind f
    | c :: rest => formatOnce fuel rest (put c)

/-- Goes through a format as long as arguments are left over that it takes. -/
def formatAll (format : List Char) : Nat → Formatted → Run Formatted
  | 0, f => pure f
  | fuel + 1, f => do
    let g ← formatOnce (format.length + 1) format f
    if g.isOver || g.args.isEmpty || g.args.length == f.args.length then pure g
    else formatAll format fuel g

/-- Writes arguments in a format. What stands before a failure is written too. -/
def printf (args : List String) : Run Nat := do
  match args with
  | [] => fail "usage: printf format [arg ...]"
  | format :: rest => do
    let f ← formatAll format.toList (rest.length + 1) ⟨[], rest, 0, false, none⟩
    let written := String.ofList f.written.reverse
    match f.failure with
    | none => do
      print written
      pure f.status
    | some message => do
      setStatus 2
      warn message
      print written
      throw .fault

end Run

end CredoAssistant.Shell
