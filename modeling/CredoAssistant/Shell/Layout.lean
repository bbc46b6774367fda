import CredoAssistant.Number.Notation
import CredoAssistant.Shell.Arithmetic

/-!
Numbers with a point, and how values are laid out in a format: flags, width and precision, for
texts, integers and such numbers.
-/
namespace CredoAssistant.Shell

/-- A format of numbers: the bits of its mantissas, and its least and greatest exponents. -/
structure Precision where
  bits : Nat
  least : Int
  greatest : Int
  deriving DecidableEq, Repr

namespace Precision

def double : Precision := ⟨53, -1074, 971⟩

def extended : Precision := ⟨64, -16445, 16320⟩

end Precision

/-- A number with a point. The finite value is mantissa · 2 ^ exponent with the given sign. -/
inductive Floating
  | nan (negative : Bool)
  | infinite (negative : Bool)
  | finite (negative : Bool) (mantissa : Nat) (exponent : Int)
  deriving DecidableEq, Repr

/-- What was read in front of a text: the value, whether it left the range of its format, and what
follows it. -/
structure Numeric where
  value : Floating
  exceeds : Bool
  rest : List Char

namespace Floating

/-- The number of a format nearest to `num / den`, ties to the even mantissa, and whether it left
the range: it became infinite, or lost digits below the least exponent. -/
def ofRatio (p : Precision) (negative : Bool) (num den : Nat) : Floating × Bool :=
  if num = 0 then (.finite negative 0 p.least, false)
  else
    let guess : Int := (Nat.log2 num : Int) - (Nat.log2 den : Int) - p.bits
    let low := max p.least guess
    let probe := Binary64.scaled num den low
    let e := if 2 ^ p.bits ≤ probe.1 / probe.2 then low + 1 else low
    let exact := Binary64.scaled num den e
    let m := Binary64.roundDiv exact.1 exact.2
    let (m, e) := if m = 2 ^ p.bits then (2 ^ (p.bits - 1), e + 1) else (m, e)
    if p.greatest < e then (.infinite negative, true)
    else (.finite negative m e, m < 2 ^ (p.bits - 1) && exact.1 % exact.2 != 0)

def ofInt (p : Precision) (n : Int) : Floating := (ofRatio p (n < 0) n.natAbs 1).1

/-- The number nearest to `digits` · `base` ^ `exponent`, where `width` is the greatest exponent of
the base that can matter. -/
def ofPower (p : Precision) (negative : Bool) (base digits : Nat) (exponent : Int) (width : Int) :
    Floating × Bool :=
  let size : Int := (Nat.toDigits base digits).length
  if digits = 0 then ofRatio p negative 0 1
  else if width < exponent + size then (.infinite negative, true)
  else if exponent + size < -width then (.finite negative 0 p.least, true)
  else if 0 ≤ exponent then ofRatio p negative (digits * base ^ exponent.toNat) 1
  else ofRatio p negative digits (base ^ (-exponent).toNat)

/-- Digits in front of a text with at most one point among them: those before it, those behind it,
and the length of all. -/
def pointedDigits (isDigit : Char → Bool) (cs : List Char) : List Char × List Char × Nat :=
  let whole := cs.takeWhile isDigit
  match cs.drop whole.length with
  | '.' :: rest =>
    let fraction := rest.takeWhile isDigit
    if whole.isEmpty && fraction.isEmpty then ([], [], 0)
    else (whole, fraction, whole.length + 1 + fraction.length)
  | _ => (whole, [], whole.length)

/-- An exponent in front of a text behind its mark, and the length of both. -/
def exponentOf (mark : Char) (cs : List Char) : Int × Nat :=
  match cs with
  | c :: rest =>
    let (negative, ds) := Binary64.takeSign rest
    let digits := ds.takeWhile Char.isDigit
    if c.toLower = mark && !digits.isEmpty then
      let n : Int := (Arithmetic.ofDigits 10 digits : Nat)
      (if negative then -n else n, 1 + (rest.length - ds.length) + digits.length)
    else (0, 0)
  | [] => (0, 0)

/-- Reads a number in front of a text that has no sign. -/
def readUnsigned? (p : Precision) (negative : Bool) (cs : List Char) : Option Numeric :=
  let word := (cs.take 8).map Char.toLower
  let isHex (c : Char) : Bool := (Arithmetic.digit? 16 c).isSome
  let decimal : Option Numeric :=
    let (whole, fraction, n) := pointedDigits Char.isDigit cs
    if n = 0 then none
    else
      let (power, m) := exponentOf 'e' (cs.drop n)
      let digits := Arithmetic.ofDigits 10 (whole ++ fraction)
      let (x, exceeds) := ofPower p negative 10 digits (power - fraction.length) 5100
      some ⟨x, exceeds, cs.drop (n + m)⟩
  if word = "infinity".toList then some ⟨.infinite negative, false, cs.drop 8⟩
  else if "inf".toList.isPrefixOf word then some ⟨.infinite negative, false, cs.drop 3⟩
  else if "nan".toList.isPrefixOf word then
    let rest := cs.drop 3
    let inner := (rest.drop 1).takeWhile fun c => c.isAlphanum || c == '_'
    let closed := rest.head? == some '(' && (rest.drop (inner.length + 1)).head? == some ')'
    some ⟨.nan negative, false, if closed then rest.drop (inner.length + 2) else rest⟩
  else
    match word with
    | '0' :: 'x' :: _ =>
      let (whole, fraction, n) := pointedDigits isHex (cs.drop 2)
      if n = 0 then decimal
      else
        let (power, m) := exponentOf 'p' (cs.drop (n + 2))
        let digits := Arithmetic.ofDigits 16 (whole ++ fraction)
        let (x, exceeds) := ofPower p negative 2 digits (power - 4 * fraction.length) 17000
        some ⟨x, exceeds, cs.drop (n + 2 + m)⟩
    | _ => decimal

/-- Reads a number in front of a text, after blanks. -/
def read? (p : Precision) (cs : List Char) : Option Numeric :=
  let (negative, body) := Binary64.takeSign (cs.dropWhile Arithmetic.isSpace)
  readUnsigned? p negative body

end Floating

/-- How a value is laid out: flags, width and precision. -/
structure Layout where
  flags : List Char
  width : Nat
  precision : Option Nat
  deriving DecidableEq, Repr

namespace Layout

def has (l : Layout) (c : Char) : Bool := l.flags.contains c

/-- Fills a text up with blanks. -/
def pad (l : Layout) (cs : List Char) : List Char :=
  let blanks := List.replicate (l.width - cs.length) ' '
  if l.has '-' then cs ++ blanks else blanks ++ cs

/-- Lays out a sign, or the mark of a base, and digits. -/
def number (l : Layout) (zeros : Bool) (sign digits : List Char) : List Char :=
  if zeros && l.has '0' && !l.has '-' then
    sign ++ List.replicate (l.width - sign.length - digits.length) '0' ++ digits
  else l.pad (sign ++ digits)

def text (l : Layout) (cs : List Char) : List Char :=
  l.pad (match l.precision with
    | some n => cs.take n
    | none => cs)

/-- The sign of a number, which may have to be shown for a positive one. -/
def sign (l : Layout) (negative : Bool) : List Char :=
  if negative then ['-'] else if l.has '+' then ['+'] else if l.has ' ' then [' '] else []

/-- The digits of a natural number with as many zeros as the precision asks for. -/
def digits (l : Layout) (base : Nat) (n : Nat) : List Char :=
  let ds := if n = 0 ∧ l.precision = some 0 then [] else Nat.toDigits base n
  List.replicate ((l.precision.getD 1) - ds.length) '0' ++ ds

def signed (l : Layout) (n : Int) : List Char :=
  l.number l.precision.isNone (l.sign (n < 0)) (l.digits 10 n.natAbs)

def unsigned (l : Layout) (directive : Char) (n : Nat) : List Char :=
  if directive = 'o' then
    let ds := l.digits 8 n
    let ds := if l.has '#' && ds.head? != some '0' then '0' :: ds else ds
    l.number l.precision.isNone [] ds
  else if directive = 'u' then l.number l.precision.isNone [] (l.digits 10 n)
  else
    let ds := l.digits 16 n
    let mark := if l.has '#' && n != 0 then ['0', 'x'] else []
    let upper (cs : List Char) := if directive = 'X' then cs.map Char.toUpper else cs
    l.number l.precision.isNone (upper mark) (upper ds)

/-- Digits with a point before the last `places` of them. -/
def pointed (l : Layout) (places n : Nat) : List Char :=
  let ds := Nat.toDigits 10 n
  let ds := List.replicate (places + 1 - ds.length) '0' ++ ds
  let whole := ds.take (ds.length - places)
  if places = 0 then if l.has '#' then whole ++ ['.'] else whole
  else whole ++ '.' :: ds.drop (ds.length - places)

/-- The least power of ten that brings a fraction below one up to one. -/
def lift (den : Nat) : Nat → Nat → Nat
  | 0, _ => 0
  | fuel + 1, num => if den ≤ num then 0 else lift den fuel (num * 10) + 1

/-- The digits of a fraction in scientific notation with `places` of them behind the point, and its
exponent. Halves go to the even neighbour. -/
def scientific (places num den : Nat) : Nat × Int :=
  if num = 0 then (0, 0)
  else
    let power : Int :=
      if den ≤ num then ((Nat.toDigits 10 (num / den)).length : Int) - 1
      else -(lift den 5100 num : Int)
    let shift : Int := places - power
    let n :=
      if 0 ≤ shift then Binary64.roundDiv (num * 10 ^ shift.toNat) den
      else Binary64.roundDiv num (den * 10 ^ (-shift).toNat)
    if n = 10 ^ (places + 1) then (10 ^ places, power + 1) else (n, power)

/-- The exponent of scientific notation. -/
def exponent (mark : Char) (e : Int) : List Char :=
  let ds := Nat.toDigits 10 e.natAbs
  mark :: (if e < 0 then '-' else '+') :: (List.replicate (2 - ds.length) '0' ++ ds)

/-- Digits without zeros at their end behind a point. -/
def dropZeros (cs : List Char) : List Char :=
  if cs.contains '.' then
    let ds := (cs.reverse.dropWhile (· == '0')).reverse
    if ds.getLast? = some '.' then ds.dropLast else ds
  else cs

/-- A mantissa and an exponent in hexadecimal notation behind its mark. -/
def hexadecimal (l : Layout) (p : Precision) (m : Nat) (e : Int) : List Char :=
  let most := (p.bits - 1) / 4
  let places := l.precision.getD most
  let kept := Binary64.roundDiv m (16 ^ (most - places))
  let behind := min places most
  let ds := Nat.toDigits 16 kept
  let ds := List.replicate (behind + 1 - ds.length) '0' ++ ds
  let whole := ds.take (ds.length - behind)
  let fraction := ds.drop (ds.length - behind)
  let fraction :=
    if l.precision.isNone then (fraction.reverse.dropWhile (· == '0')).reverse
    else fraction ++ List.replicate (places - behind) '0'
  let power : Int := if m = 0 then 0 else e + 4 * most
  let point := if fraction.isEmpty && !l.has '#' then [] else ['.']
  let sign := if power < 0 then '-' else '+'
  whole ++ point ++ fraction ++ 'p' :: sign :: Nat.toDigits 10 power.natAbs

/-- A number with a point, in the notation of a directive. -/
def float (l : Layout) (p : Precision) (directive : Char) (x : Floating) : List Char :=
  let upper (cs : List Char) := if directive.isUpper then cs.map Char.toUpper else cs
  match x with
  | .nan s => l.pad (upper (l.sign s ++ "nan".toList))
  | .infinite s => l.pad (upper (l.sign s ++ "inf".toList))
  | .finite s m e =>
    if directive = 'a' ∨ directive = 'A' then
      l.number true (l.sign s ++ upper ['0', 'x']) (upper (l.hexadecimal p m e))
    else
      let (num, den) := Binary64.scaled m 1 (-e)
      let places := l.precision.getD 6
      let mark := if directive.isUpper then 'E' else 'e'
      let body :=
        if directive = 'f' ∨ directive = 'F' then
          l.pointed places (Binary64.roundDiv (num * 10 ^ places) den)
        else if directive = 'e' ∨ directive = 'E' then
          let (n, power) := scientific places num den
          l.pointed places n ++ exponent mark power
        else
          let places := max places 1
          let (n, power) := scientific (places - 1) num den
          let trim (cs : List Char) := if l.has '#' then cs else dropZeros cs
          if power < -4 ∨ (places : Int) ≤ power then
            trim (l.pointed (places - 1) n) ++ exponent mark power
          else
            let behind := ((places : Int) - 1 - power).toNat
            trim (l.pointed behind (Binary64.roundDiv (num * 10 ^ behind) den))
      l.number true (l.sign s) body

end Layout

end CredoAssistant.Shell
