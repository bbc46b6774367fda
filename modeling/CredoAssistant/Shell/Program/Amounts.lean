import CredoAssistant.Shell.Layout
import CredoAssistant.Shell.Program.Columns
import CredoAssistant.Shell.Program.Common

/-!
Numbers in fields of lines, with or without the letters of powers, which are read, scaled and
written anew.
-/
namespace CredoAssistant.Shell.Program

namespace Amounts

/-- How the letter of a power is understood: not at all, as it stands, or as a power of 1000 or
1024, of which the last may have to say so. -/
inductive Scale
  | plain
  | either
  | thousands
  | binary
  | marked
  deriving DecidableEq, Repr

/-- What a number becomes that has too many digits. -/
inductive Rounding
  | up
  | down
  | outward
  | inward
  | nearest
  deriving DecidableEq, Repr

/-- What is done about a text that is no number. -/
inductive Strictness
  | abort
  | fail
  | warn
  | ignore
  deriving DecidableEq, Repr

/-- How numbers are read and written. -/
structure Manner where
  source : Scale
  target : Scale
  sourceUnit : Nat
  targetUnit : Nat
  rounding : Rounding
  strictness : Strictness
  suffix : String
  padding : Option Int
  zeros : Nat
  places : Option Nat
  front : String
  back : String
  delimiter : Option Char
  spans : List Span
  close : Char

/-- Why a text is no number. -/
inductive Flaw
  | number
  | tooLarge
  | letter
  | forbidden
  | unmarked
  | rest (text : String)
  deriving DecidableEq, Repr

/-- How many digits a number can have that is read. -/
def mostDigits : Nat := 33

/-- How many digits a number can have that is written in full. -/
def mostShown : Nat := 18

def Scale.base : Scale → Nat
  | .binary => 1024
  | .marked => 1024
  | _ => 1000

/-- A number as a machine holds it. -/
def held (x : Rat) : Rat :=
  match (Floating.ofRatio .extended (x < 0) x.num.natAbs x.den).1 with
  | .finite s m e =>
    let (num, den) := Binary64.scaled m 1 (-e)
    mkRat (if s then -(num : Int) else num) den
  | _ => x

/-- The number that digits stand for, as a machine adds them up. -/
def heldDigits (ds : List Char) : Rat :=
  ds.foldl (fun x c => held (x * 10 + (Decimal.value [c] : Nat))) 0

/-- Reads a number with a letter behind it: its value, and how many digits stand behind its
point. -/
def read (scale : Scale) (cs : List Char) : Except Flaw (Rat × Nat) := do
  let (negative, body) : Bool × List Char :=
    match cs with
    | '-' :: rest => (true, rest)
    | _ => (false, cs)
  let whole := body.takeWhile Char.isDigit
  let behind := body.drop whole.length
  let (fraction, rest) ← match behind with
    | '.' :: more =>
      let ds := more.takeWhile Char.isDigit
      let behind := more.drop ds.length
      if ds.isEmpty && behind.head? != some '.' then .error .number else .ok (ds, behind)
    | _ => if whole.isEmpty then .error .number else .ok ([], behind)
  if mostDigits < (whole.dropWhile (· == '0')).length then .error .tooLarge
  let part := held (heldDigits fraction / (10 ^ fraction.length : Nat))
  let size := held (heldDigits whole + part)
  let value := if negative then -size else size
  match rest.dropWhile fun c => c == ' ' || c == '\t' with
  | [] => if rest.isEmpty then .ok (value, fraction.length) else .error .letter
  | c :: more =>
    match Quantity.powers.idxOf? c with
    | none => .error .letter
    | some i => do
      if scale = .plain then .error .forbidden
      let isMarked := more.head? == some 'i'
      let base := if scale = .either && isMarked then 1024 else scale.base
      if scale = .marked && !isMarked then .error .unmarked
      let more := if (scale = .either || scale = .marked) && isMarked then more.tail else more
      if more.isEmpty then .ok (held (value * (base ^ (i + 1) : Nat)), 0)
      else .error (.rest (String.ofList more))

/-- What is wrong with a text, in words. -/
def Flaw.message (utf8 : Bool) (text : String) : Flaw → String
  | .number => s!"invalid number: {quotedIn utf8 text}"
  | .tooLarge => s!"value too large to be converted: {quotedIn utf8 text}"
  | .letter => s!"invalid suffix in input: {quotedIn utf8 text}"
  | .forbidden => s!"rejecting suffix in input: {quotedIn utf8 text} (consider using --from)"
  | .unmarked =>
    let mark := "'i'"
    s!"missing {mark} suffix in input: {quotedIn utf8 text} (e.g Ki/Mi/Gi)"
  | .rest more => s!"invalid suffix in input {quotedIn utf8 text}: {quotedIn utf8 more}"

/-- The integer that a number becomes. -/
def Rounding.apply (r : Rounding) (x : Rat) : Int :=
  match r with
  | .up => x.ceil
  | .down => x.floor
  | .outward => if x < 0 then x.floor else x.ceil
  | .inward => if x < 0 then x.ceil else x.floor
  | .nearest => if x < 0 then (x - mkRat 1 2).ceil else (x + mkRat 1 2).floor

/-- A number without whole factors of a base, and how many there were. -/
def reduced (base : Nat) : Nat → Rat → Rat × Nat
  | 0, x => (x, 0)
  | fuel + 1, x =>
    if (base : Rat) ≤ x || x ≤ -(base : Rat) then
      let (y, n) := reduced base fuel (held (x / base))
      (y, n + 1)
    else (x, 0)

/-- How large numbers can become in powers of a base. -/
def mostPowers : Nat := 6000

/-- A number with a number of places, in a width that zeros fill. -/
def pointed (zeros places : Nat) (x : Rat) : String :=
  let n := Binary64.roundDiv (x.num.natAbs * 10 ^ places) x.den
  let l : Layout := ⟨if zeros = 0 then [] else ['0'], zeros, none⟩
  let sign := if x < 0 then ['-'] else []
  String.ofList (l.number true sign (l.pointed places n))

/-- A number as it is written, with a number of places where it is not scaled. -/
def shown (m : Manner) (places : Nat) (x : Rat) : String :=
  let cut (places : Nat) (x : Rat) : Rat :=
    held (mkRat (m.rounding.apply (held (x * (10 ^ places : Nat)))) (10 ^ places))
  if m.target = .plain then pointed m.zeros places (cut places x)
  else
    let base := m.target.base
    let (y, power) := reduced base mostPowers x
    let isSmall (z : Rat) : Bool := -10 < z && z < 10
    let kept :=
      match m.places with
      | some n => min (power * 3) n
      | none => if isSmall y then 1 else 0
    let y := cut kept y
    let isFull : Bool := (base : Rat) ≤ y || y ≤ -(base : Rat)
    let (y, power) := if isFull then (held (y / base), power + 1) else (y, power)
    let behind := m.places.getD (if y != 0 && isSmall y && 0 < power then 1 else 0)
    let letter := if power = 0 then [] else [Quantity.powers.getD (power - 1) '?']
    let mark := if m.target = .marked && 0 < power then ['i'] else []
    pointed m.zeros behind y ++ String.ofList (letter ++ mark)

/-- A number in six digits at the most. -/
def brief (x : Rat) : String :=
  let f := (Floating.ofRatio .extended (x < 0) x.num.natAbs x.den).1
  String.ofList (Layout.float ⟨[], 0, none⟩ .extended 'g' f)

/-- Why a number cannot be written, if that is so. -/
def excess? (m : Manner) (places : Nat) (x : Rat) : Option String :=
  let (_, power) := reduced 10 mostPowers x
  if m.target = .plain && mostShown < power + places then
    if places = 0 then some s!"value too large to be printed: '{brief x}' (consider using --to)"
    else
      some s!"value/precision too large to be printed: '{brief x}/{places}' (consider using --to)"
  else if mostDigits - 1 < power then
    some s!"value too large to be printed: '{brief x}' (cannot handle values > 999Q)"
  else none

/-- A field with its number written anew, or what is wrong with it. -/
def converted (m : Manner) (utf8 : Bool) (index : Nat) (field : String) : Except String String := do
  let cs := field.toList
  let own := m.suffix.toList
  let isCut := own.length < cs.length && own.reverse.isPrefixOf cs.reverse && !own.isEmpty
  let cs := if isCut then cs.take (cs.length - own.length) else cs
  let body := cs.dropWhile fun c => c == ' ' || c == '\t'
  let padding : Int :=
    match m.padding, m.delimiter with
    | some n, _ => n
    | none, none => if body.length < cs.length || 1 < index then cs.length else 0
    | none, some _ => 0
  match read m.source body with
  | .error flaw => .error (flaw.message utf8 (String.ofList body))
  | .ok (x, places) =>
    let x := held (held (x * m.sourceUnit) / m.targetUnit)
    let places := m.places.getD places
    match excess? m places x with
    | some message => .error message
    | none =>
      let text := (shown m places x).toList ++ own
      let blanks := List.replicate (padding.natAbs - text.length) ' '
      let filled := if padding < 0 then text ++ blanks else blanks ++ text
      .ok (m.front ++ String.ofList filled ++ m.back)

/-- The fields of a line, each with the blanks before it unless something else stands between
them. -/
def fieldsOf (delimiter : Option Char) : Nat → List Char → List (List Char)
  | 0, cs => [cs]
  | fuel + 1, cs =>
    let isGap (c : Char) : Bool := c == ' ' || c == '\t'
    let front :=
      match delimiter with
      | some d => cs.takeWhile (· != d)
      | none =>
        let blanks := cs.takeWhile isGap
        blanks ++ (cs.drop blanks.length).takeWhile fun c => !isGap c
    match cs.drop front.length with
    | [] => [front]
    | _ :: rest => front :: fieldsOf delimiter fuel rest

/-- Writes a line with the numbers of some of its fields written anew; whether all of them were
right. -/
def convertLine (self : String) (m : Manner) (line : List Char) : Run Bool := do
  let utf8 ← usesUtf8
  let fields := fieldsOf m.delimiter (line.length + 1) line
  let failed ← anyFails (fields.zipIdx 1) fun (field, i) => do
    let text := String.ofList field
    let between := if i < fields.length then String.singleton (m.delimiter.getD ' ') else ""
    if !Span.holds m.spans i then do
      putText self (text ++ between)
      pure false
    else
      match converted m utf8 i text with
      | .ok new => do
        putText self (new ++ between)
        pure false
      | .error message => do
        if m.strictness != .ignore then complain self message
        if m.strictness = .abort then quit 2
        putText self (text ++ between)
        pure true
  pure !failed

/-- What a format says: what stands before and behind the number, its width, the width that zeros
fill, and its places. -/
structure Format where
  front : String
  back : String
  width : Int
  zeros : Nat
  places : Option Nat

/-- Takes the characters before a directive. -/
def beforeDirective : Nat → Nat → List Char → Option (Nat × List Char)
  | 0, _, _ => none
  | fuel + 1, n, cs =>
    match cs with
    | '%' :: '%' :: rest => beforeDirective fuel (n + 1) rest
    | '%' :: rest => some (n, rest)
    | _ :: rest => beforeDirective fuel (n + 1) rest
    | [] => none

/-- Whether there is one more directive in a text. -/
def hasDirective (cs : List Char) : Bool := (beforeDirective (cs.length + 1) 0 cs).isSome

def formatOf (self format : String) : Run Format := do
  let refuse {α : Type} (lead behind : String) : Run α := do
    complain self s!"{lead}format {← named format}{behind}"
    quit 1
  let cs := format.toList
  match beforeDirective (cs.length + 1) 0 cs with
  | none => refuse "" " has no % directive"
  | some (n, rest) => do
    let flags := rest.takeWhile fun c => c == ' ' || c == '\'' || c == '0'
    let rest := rest.drop flags.length
    let isLeft := rest.head? == some '-'
    let digits := (if isLeft then rest.tail else rest).takeWhile Char.isDigit
    let width : Int := Decimal.value digits
    let hasZeros := flags.contains '0' && !isLeft
    let rest := if digits.isEmpty then rest else rest.drop (digits.length + isLeft.toNat)
    if rest.isEmpty then refuse "" " ends in %"
    let (places, rest) : Option Nat × List Char ←
      match rest with
      | '.' :: more => do
        let ds := more.takeWhile Char.isDigit
        if more.head?.any fun c => "+- \t".toList.contains c then refuse "invalid precision in " ""
        pure (some (Decimal.value ds), more.drop ds.length)
      | _ => pure (none, rest)
    match rest with
    | 'f' :: back =>
      if hasDirective back then refuse "" " has too many % directives"
      else
        pure
          { front := String.ofList (cs.take n), back := String.ofList back, places
            width := if isLeft then -width else if hasZeros then 0 else width
            zeros := if hasZeros then width.toNat else 0 }
    | _ => refuse "invalid " ", directive must be %[0]['][-][N][.][N]f"

/-- The size of a unit. -/
def unitSize (self s : String) : Run Nat := do
  let cs := s.toList
  let ds := cs.takeWhile Char.isDigit
  let n := if ds.isEmpty then 1 else Decimal.value ds
  let factor : Option Nat :=
    match cs.drop ds.length with
    | [] => if ds.isEmpty then none else some 1
    | [c] => (Quantity.powers.idxOf? c).map fun i => 1000 ^ (i + 1)
    | [c, 'i'] => (Quantity.powers.idxOf? c).map fun i => 1024 ^ (i + 1)
    | _ => none
  match factor with
  | some f => if 0 < n * f && n * f < 2 ^ 64 then return n * f
  | none => pure ()
  complain self s!"invalid unit size: {← named s}"
  quit 1

def scales : List (String × Scale) :=
  [("none", .plain), ("si", .thousands), ("iec", .binary), ("iec-i", .marked)]

def sourceScales : List (String × Scale) :=
  [("none", .plain), ("auto", .either), ("si", .thousands), ("iec", .binary), ("iec-i", .marked)]

def roundings : List (String × Rounding) :=
  [("up", .up), ("down", .down), ("from-zero", .outward), ("towards-zero", .inward),
    ("nearest", .nearest)]

def strictnesses : List (String × Strictness) :=
  [("abort", .abort), ("fail", .fail), ("warn", .warn), ("ignore", .ignore)]

/-- A whole number that an option gives. -/
def wholeNumber (self what s : String) (isRight : Int → Bool) : Run Int := do
  let (negative, ds) := Binary64.takeSign s.toList
  let value := (digits? (String.ofList ds)).map fun n => if negative then -(n : Int) else n
  match value.filter isRight with
  | some n => pure n
  | none => do
    complain self s!"invalid {what} value {← named s}"
    quit 1

/-- Takes in one option. -/
def withOption (self : String) (m : Manner) (c : Char) (v : String) : Run Manner := do
  match c with
  | 'f' => return { m with source := ← choice self "--from" v sourceScales }
  | 't' => return { m with target := ← choice self "--to" v scales }
  | 'F' => return { m with sourceUnit := ← unitSize self v }
  | 'T' => return { m with targetUnit := ← unitSize self v }
  | 'r' => return { m with rounding := ← choice self "--round" v roundings }
  | 'i' => return { m with strictness := ← choice self "--invalid" v strictnesses }
  | 's' => pure { m with suffix := v }
  | 'p' => return { m with padding := some (← wholeNumber self "padding" v (· != 0)) }
  | 'd' =>
    if 1 < v.length then do
      complain self "the delimiter must be a single character"
      quit 1
    else pure { m with delimiter := some (v.toList.headD '\x00') }
  | 'x' =>
    match Span.read true v with
    | .ok spans => pure { m with spans }
    | .error flaw => misuse self (← listComplaint true flaw) 1
  | 'z' => pure { m with close := '\x00' }
  | _ => pure m

end Amounts

open Amounts in
def numfmt : Body := fun self args => do
  let a ← arguments self
    (.ofText "d:z\x01:\x02:\x03:\x04:\x05:\x06:\x07:\x08:\x0b:\x0c;\x0e\x0f\x10:"
      [("from", '\x01'), ("to", '\x02'), ("from-unit", '\x03'), ("to-unit", '\x04'),
        ("round", '\x05'), ("invalid", '\x06'), ("suffix", '\x07'), ("padding", '\x08'),
        ("field", '\x0b'), ("header", '\x0c'), ("grouping", '\x0e'), ("debug", '\x0f'),
        ("format", '\x10'), ("delimiter", 'd'), ("zero-terminated", 'z')])
    1 args
  let letters : List (Char × Char) :=
    [('\x01', 'f'), ('\x02', 't'), ('\x03', 'F'), ('\x04', 'T'), ('\x05', 'r'), ('\x06', 'i'),
      ('\x07', 's'), ('\x08', 'p'), ('\x0b', 'x'), ('d', 'd'), ('z', 'z')]
  let start : Manner :=
    { source := .plain, target := .plain, sourceUnit := 1, targetUnit := 1, rounding := .outward
      strictness := .abort, suffix := "", padding := none, zeros := 0, places := none, front := ""
      back := "", delimiter := none, spans := [⟨1, some 1⟩], close := '\n' }
  let headers : List Int ← (a.options.filter fun o => o.1 == '\x0c').mapM fun o =>
    if o.2 = "" then pure 1 else wholeNumber self "header" o.2 (0 < ·)
  let m ← a.options.foldlM
    (fun m o =>
      match letters.find? fun l => l.1 == o.1 with
      | some l => withOption self m l.2 o.2
      | none => pure m)
    start
  if a.has '\x10' && a.has '\x0e' then do
    complain self "--grouping cannot be combined with --format"
    quit 1
  if a.has '\x0f' && m.source = .plain && m.target = .plain && m.padding.isNone && !a.has '\x0e'
      && !a.has '\x10' then
    complain self "no conversion option specified"
  let m ←
    match a.value? '\x10' with
    | none => pure m
    | some text => do
      let f ← formatOf self text
      pure
        { m with
          front := f.front, back := f.back, zeros := f.zeros, places := f.places
          padding := if f.width = 0 then m.padding else some f.width }
  if a.has '\x0e' && m.target != .plain then do
    complain self "grouping cannot be combined with --to"
    quit 1
  let convert (line : List Char) : Run Bool := do
    let right ← convertLine self m line
    put self [m.close]
    pure !right
  let failed ←
    if a.operands.isEmpty then do
      match ← contents "-" with
      | .error fault => do
        complain self s!"error reading input: {fault.reason}"
        pure true
      | .ok cs => do
        let skipped := (headers.getLast?.getD 0).toNat
        let lines := linesUpTo m.close cs
        (lines.take skipped).forM fun line => put self (line ++ [m.close])
        let rest := lines.drop skipped
        let isEnded := cs.getLast? == some m.close
        anyFails (rest.zipIdx 1) fun (line, i) => do
          if i = rest.length && !isEnded then do return !(← convertLine self m line)
          else convert line
    else anyFails a.operands fun s => convert s.toList
  if failed && m.strictness = .abort then pure 1
  else pure (if failed && m.strictness = .fail then 2 else 0)

end CredoAssistant.Shell.Program
