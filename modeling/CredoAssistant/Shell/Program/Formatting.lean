import CredoAssistant.Shell.Format
import CredoAssistant.Shell.Program.Common

/-!
Programs that write their arguments: in a format, or one behind the other.
-/
namespace CredoAssistant.Shell.Program

namespace Formatting

/-- What an escape stands for: characters, the end of all output, or nothing that can be. -/
inductive Escaped
  | chars (cs : List Char)
  | stop
  | refused (message : String)

/-- Reads hexadecimal digits, at most so many. -/
def hexadecimal (most : Nat) (cs : List Char) : List Char :=
  (cs.take most).takeWhile fun c => (Arithmetic.digit? 16 c).isSome

/-- Whether a number may stand for a character where it is written as an escape. -/
def isNameable (n : Nat) : Bool :=
  !((n ≤ 0x9F && !([0x24, 0x40, 0x60].contains n)) || (0xD800 ≤ n && n ≤ 0xDFFF))

/-- Reads an escape behind its backslash. With `padded` a zero stands before octal digits. -/
def readEscape (padded : Bool) (cs : List Char) : Escaped × List Char :=
  let missing : Escaped := .refused "missing hexadecimal number in escape"
  let octal (cs : List Char) : Escaped × List Char :=
    let ds := (cs.take 3).takeWhile Escape.isOctal
    (.chars [Escape.byte ds], cs.drop ds.length)
  match cs with
  | [] => (.chars ['\\'], [])
  | 'c' :: rest => (.stop, rest)
  | 'e' :: rest => (.chars ['\x1b'], rest)
  | '"' :: rest => (.chars ['"'], rest)
  | 'x' :: rest =>
    let ds := hexadecimal 2 rest
    if ds.isEmpty then (missing, rest)
    else (.chars [Char.ofNat (Arithmetic.ofDigits 16 ds)], rest.drop ds.length)
  | c :: rest =>
    if c = 'u' ∨ c = 'U' then
      let length := if c = 'u' then 4 else 8
      let ds := hexadecimal length rest
      let n := Arithmetic.ofDigits 16 ds
      if ds.length < length then (missing, rest)
      else if isNameable n then (.chars (Octets.ofChars [Char.ofNat n]), rest.drop length)
      else
        let shown := (String.ofList ds).toLower
        (.refused s!"invalid universal character name \\{c}{shown}", rest)
    else if Escape.isOctal c then octal (if padded && c == '0' then rest else cs)
    else
      match Escape.letter? c with
      | some e => (.chars [e], rest)
      | none => (.chars ['\\', c], rest)

/-- Expands the escapes of a text; what is left out ends it. -/
def expand : Nat → List Char → List Char × Escaped
  | 0, _ => ([], .chars [])
  | _ + 1, [] => ([], .chars [])
  | fuel + 1, c :: rest =>
    if c = '\\' then
      match readEscape true rest with
      | (.chars cs, rest) =>
        let (more, ending) := expand fuel rest
        (cs ++ more, ending)
      | (other, _) => ([], other)
    else
      let (more, ending) := expand fuel rest
      (c :: more, ending)

/-- What was written, the last character first; the arguments that are left; the status; and how it
ended before its time. -/
structure Written where
  written : List Char
  args : List String
  status : Nat
  ending : Escaped

def Written.put (w : Written) (cs : List Char) : Written :=
  { w with written := cs.reverse ++ w.written }

def Written.isOver (w : Written) : Bool :=
  match w.ending with
  | .chars _ => false
  | _ => true

/-- Complains about a text that is no number to its end. -/
def check (self s : String) (length : Nat) (rest : List Char) (exceeds : Bool) : Run Nat := do
  let name ← named s
  if exceeds then do
    complain self s!"{name}: Numerical result out of range"
    pure 1
  else if rest.isEmpty then pure 0
  else if rest.length = length then do
    complain self s!"{name}: expected a numeric value"
    pure 1
  else do
    complain self s!"{name}: value not completely converted"
    pure 1

/-- The number of the character behind a quotation mark. What follows it is told of. -/
def quotedNumber? (self s : String) : Run (Option Nat) := do
  match s.toList with
  | mark :: c :: rest =>
    if mark = '"' ∨ mark = '\'' then do
      let all := if ← usesUtf8 then Octets.toCharacters (c :: rest) else c :: rest
      let first := all.headD c
      let number := if Octets.firstApart ≤ first.toNat then c.toNat else first.toNat
      let left := Octets.ofCharacters all.tail
      if !left.isEmpty && (← Run.value? "POSIXLY_CORRECT").isNone then
        complain self ("warning: " ++ String.ofList left
          ++ ": character(s) following character constant have been ignored")
      pure (some number)
    else pure none
  | _ => pure none

def integerArgument (self s : String) : Run (Int × Nat) := do
  match ← quotedNumber? self s with
  | some n => pure ((n : Nat), 0)
  | none => do
    let cs := s.toList
    match Arithmetic.readInteger true cs with
    | some (n, exceeds, rest) => do return (n, ← check self s cs.length rest exceeds)
    | none => do return (0, ← check self s cs.length cs false)

def naturalArgument (self s : String) : Run (Nat × Nat) := do
  match ← quotedNumber? self s with
  | some n => pure (n, 0)
  | none => do
    let cs := s.toList
    match Arithmetic.readWord cs with
    | some (n, exceeds, rest) => do return (n, ← check self s cs.length rest exceeds)
    | none => do return (0, ← check self s cs.length cs false)

def pointedArgument (self s : String) : Run (Floating × Nat) := do
  match ← quotedNumber? self s with
  | some n => pure (Floating.ofInt .extended n, 0)
  | none => do
    let cs := s.toList
    match Floating.read? .extended cs with
    | some r => do return (r.value, ← check self s cs.length r.rest r.exceeds)
    | none => do return (Floating.ofInt .extended 0, ← check self s cs.length cs false)

/-- A width or precision: digits, or an argument in the place of an asterisk. -/
def measure (self what : String) (w : Written) (cs : List Char) :
    Run (Option Int × Written × List Char) := do
  match cs with
  | '*' :: rest => do
    match w.args with
    | [] => pure (some 0, w, rest)
    | s :: args => do
      let (n, status) ← integerArgument self s
      let w := { w with args, status := max w.status status }
      if n.natAbs < 2 ^ 31 then pure (some n, w, rest)
      else pure (none, { w with ending := .refused s!"invalid {what}: {← named s}" }, rest)
  | cs =>
    let ds := cs.takeWhile Char.isDigit
    let n : Option Int := if ds.isEmpty then none else some (Arithmetic.ofDigits 10 ds : Nat)
    pure (n, w, cs.drop ds.length)

/-- The directives that go with some flags. -/
def allowed (flags : List Char) (pointed : Bool) (c : Char) : Bool :=
  let all := "aAcdeEfFgGiosuxX".toList
  let without (flag : Bool) (others : String) : Bool := !(flag && others.toList.contains c)
  all.contains c && without (flags.contains '\'' || flags.contains 'I') "aAceEosxX"
    && without (flags.contains '#') "cdisu" && without (flags.contains '0') "cs"
    && without pointed "c"

/-- Writes one argument as a directive asks. What was written before goes out first, since there may
be a complaint about the argument. -/
def directive (self : String) (l : Layout) (c : Char) (w : Written) : Run Written := do
  Program.put self w.written.reverse
  let w := { w with written := [] }
  let arg := w.args.headD ""
  let w := { w with args := w.args.tail }
  let put (cs : List Char) (status : Nat) : Written :=
    { w.put cs with status := max w.status status }
  if c = 's' then pure (put (l.text arg.toList) 0)
  else if c = 'c' then pure (put (l.pad [arg.toList.headD '\x00']) 0)
  else if c = 'd' ∨ c = 'i' then do
    let (n, status) ← integerArgument self arg
    pure (put (l.signed n) status)
  else if "ouxX".toList.contains c then do
    let (n, status) ← naturalArgument self arg
    pure (put (l.unsigned c n) status)
  else do
    let (x, status) ← pointedArgument self arg
    pure (put (l.float .extended c x) status)

/-- Goes through a format once. -/
def formatOnce (self : String) : Nat → List Char → Written → Run Written
  | 0, _, w => pure w
  | fuel + 1, cs, w => do
    let go := formatOnce self fuel
    if w.isOver then pure w
    else
      match cs with
      | [] => pure w
      | '\\' :: rest =>
        match readEscape false rest with
        | (.chars cs, rest) => go rest (w.put cs)
        | (ending, _) => pure { w with ending }
      | '%' :: '%' :: rest => go rest (w.put ['%'])
      | '%' :: 'b' :: rest => do
        let (cs, ending) := expand ((w.args.headD "").length + 1) (w.args.headD "").toList
        go rest { w.put cs with args := w.args.tail, ending }
      | '%' :: 'q' :: rest => do
        match w.args with
        | [] => go rest w
        | s :: args => do
          let shown ← shellName false s
          go rest { w.put shown.toList with args }
      | '%' :: rest => do
        let flags := rest.takeWhile fun c => "I'-+ #0".toList.contains c
        let (width, w, behind) ← measure self "field width" w (rest.drop flags.length)
        let (precision, w, behind) ←
          match behind with
          | '.' :: more => do
            let (n, w, behind) ← measure self "precision" w more
            pure (some (n.getD 0), w, behind)
          | behind => pure (none, w, behind)
        let behind' := behind.dropWhile fun c => "lLhjtz".toList.contains c
        let c := behind'.headD '\x00'
        let shown := String.ofList (cs.take (cs.length - behind'.length + 1))
        if w.isOver then pure w
        else if allowed flags precision.isSome c then do
          let width := width.getD 0
          let flags := if width < 0 then '-' :: flags else flags
          let precision := precision.bind fun n => if n < 0 then none else some n.toNat
          go behind'.tail (← directive self ⟨flags, width.natAbs, precision⟩ c w)
        else pure { w with ending := .refused s!"{shown}: invalid conversion specification" }
      | c :: rest => go rest (w.put [c])

/-- Goes through a format as long as arguments are left over that it takes. -/
def formatAll (self : String) (format : List Char) : Nat → Written → Run Written
  | 0, w => pure w
  | fuel + 1, w => do
    let v ← formatOnce self (format.length + 1) format w
    if v.isOver || v.args.isEmpty || v.args.length == w.args.length then pure v
    else formatAll self format fuel v

end Formatting

open Formatting

/-- Writes arguments in a format. -/
def printf : Body := fun self args => do
  let args := if args.head? = some "--" then args.tail else args
  match args with
  | [] => misuse self "missing operand" 1
  | format :: rest => do
    let w ← formatAll self format.toList (rest.length + 1) ⟨[], rest, 0, .chars []⟩
    let written := w.written.reverse
    match w.ending with
    | .refused message => do
      complain self message
      put self written
      pure 1
    | .stop => do
      put self written
      pure 0
    | .chars _ => do
      match w.args with
      | [] => pure ()
      | s :: _ => complain self s!"warning: ignoring excess arguments, starting with {← named s}"
      put self written
      pure w.status

/-- Expands the escapes that the program `echo` knows; the flag says that output stops there. -/
def fullEscapes : Nat → List Char → List Char × Bool
  | 0, _ => ([], false)
  | fuel + 1, cs =>
    let go (lead : List Char) (rest : List Char) : List Char × Bool :=
      let (more, stops) := fullEscapes fuel rest
      (lead ++ more, stops)
    match cs with
    | [] => ([], false)
    | '\\' :: 'c' :: _ => ([], true)
    | '\\' :: 'x' :: rest =>
      let ds := hexadecimal 2 rest
      if ds.isEmpty then go ['\\', 'x'] rest
      else go [Char.ofNat (Arithmetic.ofDigits 16 ds)] (rest.drop ds.length)
    | '\\' :: '0' :: rest =>
      let ds := (rest.take 3).takeWhile Escape.isOctal
      go [Escape.byte ds] (rest.drop ds.length)
    | '\\' :: rest =>
      let (c, left) := Escape.read rest
      go [c] left
    | c :: rest => go [c] rest

/-- Writes arguments with one blank between two. -/
def echo : Body := fun self args => do
  let isFlag (s : String) : Bool :=
    s.startsWith "-" && 1 < s.length && (s.toList.drop 1).all ['n', 'e', 'E'].contains
  let flags := args.takeWhile isFlag
  let letters := flags.flatMap fun s => s.toList.drop 1
  let text := " ".intercalate (args.drop flags.length)
  let expands := ((letters.filter (· != 'n')).getLast?) == some 'e'
  let (cs, stops) :=
    if expands then fullEscapes (text.length + 1) text.toList else (text.toList, false)
  put self (if stops || letters.contains 'n' then cs else cs ++ ['\n'])
  pure 0

end CredoAssistant.Shell.Program
