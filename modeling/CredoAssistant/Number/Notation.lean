import CredoAssistant.Number.Binary64

/-!
Text forms of binary64 numbers. Reading accepts a sign, decimal digits with a point and an exponent;
writing uses the shortest digits, positional between 10 ^ -4 and 10 ^ 16 and scientific elsewhere.

The shortest digits are the fewest that read back as the same number, and of those the nearest to
it. The search tries each digit count from 1 to 17 and looks only at the two neighbours of the exact
value on that decimal grid.
-/
namespace CredoAssistant.Binary64

/-! ### Shortest digits -/

/-- A positive decimal `digits` · 10 ^ `exponent`. -/
structure Numeral where
  digits : Nat
  exponent : Int
  deriving DecidableEq, Repr

/-- The half-open reading interval of a finite number, over one common denominator: the number lies
between the two bounds, and the bounds themselves read back when the mantissa is even. -/
structure Interval where
  low : Nat
  mid : Nat
  high : Nat
  den : Nat
  closed : Bool

/-- All reals that round to mantissa · 2 ^ exponent. Below a power of two the grid is twice as
fine. -/
def interval (m : Nat) (e : Int) : Interval :=
  let below := if m = 2 ^ 52 ∧ minExponent < e then 1 else 2
  let scale := if 0 ≤ e then 2 ^ e.toNat else 1
  let den := if 0 ≤ e then 1 else 2 ^ (-e).toNat
  ⟨(4 * m - below) * scale, 4 * m * scale, (4 * m + 2) * scale, 4 * den, m % 2 == 0⟩

/-- Whether `d` lies in the interval. -/
def Interval.contains (i : Interval) (d : Numeral) : Bool :=
  let (num, den) :=
    if 0 ≤ d.exponent then (d.digits * 10 ^ d.exponent.toNat, 1)
    else (d.digits, 10 ^ (-d.exponent).toNat)
  let x := num * i.den
  let lo := i.low * den
  let hi := i.high * den
  if i.closed then lo ≤ x && x ≤ hi else lo < x && x < hi

/-- The exponent `p` with 10 ^ (p - 1) ≤ num / den < 10 ^ p. -/
def magnitude (num den : Nat) : Int :=
  if den ≤ num then ((Decimal.digits (num / den)).length : Int)
  else
    let p : Int := 1 - ((Decimal.digits (den / num)).length : Int)
    if num * 10 ^ (-p).toNat < den then p else p + 1

/-- The neighbours of the exact value on the grid of multiples of 10 ^ `e` that read back, the
nearer one first. -/
def candidates (i : Interval) (e : Int) : List Numeral :=
  let (num, den) :=
    if 0 ≤ e then (i.mid, i.den * 10 ^ e.toNat) else (i.mid * 10 ^ (-e).toNat, i.den)
  let q := num / den
  let r := num % den
  let down : Numeral := ⟨q, e⟩
  let up : Numeral := ⟨q + 1, e⟩
  let ordered :=
    if den < 2 * r || (2 * r == den && q % 2 == 1) then [up, down] else [down, up]
  ordered.filter fun d => d.digits != 0 && i.contains d

/-- The first hit among the digit counts `n`, `n + 1`, … with `left` counts still to try. -/
def search (i : Interval) (p : Int) (n : Nat) : Nat → Option Numeral
  | 0 => none
  | left + 1 =>
    match candidates i (p - n) with
    | d :: _ => some d
    | [] => search i p (n + 1) left

/-- The shortest decimal of mantissa · 2 ^ exponent for a positive mantissa. -/
def shortest (m : Nat) (e : Int) : Numeral :=
  let i := interval m e
  let p := magnitude i.mid i.den
  (search i p 1 17).getD ⟨m, 0⟩

/-! ### Texts -/

/-- Positional notation while the decimal point falls in `-4 < point ≤ 16`. -/
def isPositional (point : Int) : Bool := -4 < point && point ≤ 16

/-- Digits around a decimal point that stands after `point` digits; a whole number ends in `.0`. -/
def positional (ds : List Char) (point : Int) : List Char :=
  if point ≤ 0 then '0' :: '.' :: (List.replicate (-point).toNat '0' ++ ds)
  else
    let n := point.toNat
    let whole := ds.take n ++ List.replicate (n - ds.length) '0'
    let fraction := ds.drop n
    whole ++ '.' :: (if fraction.isEmpty then ['0'] else fraction)

/-- One digit before the point, and a signed exponent of at least two digits. -/
def scientific (ds : List Char) (point : Int) : List Char :=
  let e := point - 1
  let mantissa :=
    match ds with
    | d :: f :: rest => d :: '.' :: f :: rest
    | other => other
  let power := Decimal.digits e.natAbs
  let padded := List.replicate (2 - power.length) '0' ++ power
  mantissa ++ 'e' :: (if e < 0 then '-' else '+') :: padded

/-- The digits of a decimal without trailing zeros, and the place of its point. -/
def layout (d : Numeral) : List Char × Int :=
  let all := Decimal.digits d.digits
  ((all.reverse.dropWhile (· == '0')).reverse, d.exponent + all.length)

/-- The shortest text that reads back. -/
def text : Binary64 → String
  | nan => "nan"
  | infinite s => if s then "-inf" else "inf"
  | finite s m e =>
    let body :=
      if m = 0 then ['0', '.', '0']
      else
        let (ds, point) := layout (shortest m e)
        if isPositional point then positional ds point else scientific ds point
    String.ofList (if s then '-' :: body else body)

/-- One decimal place, halves of the exact value to the even neighbour. -/
def oneDecimal : Binary64 → String
  | nan => "nan"
  | infinite s => if s then "-inf" else "inf"
  | finite s m e =>
    let (num, den) := scaled (m * 10) 1 (-e)
    let tenths := roundDiv num den
    let body := Decimal.digits (tenths / 10) ++ '.' :: Decimal.digits (tenths % 10)
    String.ofList (if s then '-' :: body else body)

/-- A sign at the front of a text: whether it is a minus, and what follows it. -/
def takeSign : List Char → Bool × List Char
  | '-' :: rest => (true, rest)
  | '+' :: rest => (false, rest)
  | cs => (false, cs)

/-- An unsigned decimal: digits with at most one point and an optional exponent. At least one digit
stands around the point, and at least one after an exponent mark. -/
def readUnsigned (negative : Bool) (cs : List Char) : Option Binary64 :=
  let whole := cs.takeWhile Char.isDigit
  let rest := cs.dropWhile Char.isDigit
  let (fraction, rest) :=
    match rest with
    | '.' :: tail => (tail.takeWhile Char.isDigit, tail.dropWhile Char.isDigit)
    | _ => ([], rest)
  let digits := whole ++ fraction
  if digits.isEmpty then none
  else
    let scale (power : Int) : Binary64 :=
      ofDecimal negative (Decimal.value digits) (power - fraction.length)
    match rest with
    | [] => some (scale 0)
    | mark :: tail =>
      if mark = 'e' ∨ mark = 'E' then
        let (below, power) := takeSign tail
        if Decimal.isNumeral power then
          let n : Int := (Decimal.value power : Nat)
          some (scale (if below then -n else n))
        else none
      else none

/-- A signed decimal, or a name of infinity or NaN in any case. -/
def read? (s : List Char) : Option Binary64 :=
  let (negative, body) := takeSign s
  let word := String.ofList (body.map Char.toLower)
  if word = "inf" ∨ word = "infinity" then some (infinite negative)
  else if word = "nan" then some nan
  else readUnsigned negative body

end CredoAssistant.Binary64
