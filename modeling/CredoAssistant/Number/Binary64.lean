import CredoAssistant.Number.Decimal

/-!
Numbers of the binary64 format, as data: a sign, a mantissa and an exponent of two. Every finite
value is exact here, so signs, zeros and roundings are statements about natural numbers.
-/
namespace CredoAssistant

/-- A binary64 number. The finite value is mantissa · 2 ^ exponent with the given sign; zero keeps
its sign. -/
inductive Binary64
  | nan
  | infinite (negative : Bool)
  | finite (negative : Bool) (mantissa : Nat) (exponent : Int)
  deriving DecidableEq, Repr, Inhabited

namespace Binary64

/-- The exponent of the smallest positive number. -/
def minExponent : Int := -1074

/-- The largest exponent of a finite number. -/
def maxExponent : Int := 971

def zero (negative : Bool) : Binary64 := .finite negative 0 minExponent

/-- The quotient `num / den` rounded to the nearest natural number, halves to the even one. -/
def roundDiv (num den : Nat) : Nat :=
  let q := num / den
  let r := num % den
  if den < 2 * r || (2 * r == den && q % 2 == 1) then q + 1 else q

/-- `num / den` divided by 2 ^ `e`, as a pair of numerator and denominator. -/
def scaled (num den : Nat) (e : Int) : Nat × Nat :=
  if 0 ≤ e then (num, den * 2 ^ e.toNat) else (num * 2 ^ (-e).toNat, den)

/-- The binary64 number nearest to `num / den`, ties to the even mantissa. Values past the largest
finite number become infinite. -/
def ofRatio (negative : Bool) (num den : Nat) : Binary64 :=
  if num = 0 then zero negative
  else
    let guess : Int := (Nat.log2 num : Int) - (Nat.log2 den : Int) - 53
    let low := max minExponent guess
    let probe := scaled num den low
    let e := if 2 ^ 53 ≤ probe.1 / probe.2 then low + 1 else low
    let exact := scaled num den e
    let m := roundDiv exact.1 exact.2
    let (m, e) := if m = 2 ^ 53 then (2 ^ 52, e + 1) else (m, e)
    if maxExponent < e then .infinite negative else .finite negative m e

/-- The binary64 number nearest to the integer `i`. -/
def ofInt (i : Int) : Binary64 := ofRatio (i < 0) i.natAbs 1

/-- The binary64 number nearest to `digits` · 10 ^ `exponent`. Exponents that decide the result by
themselves are answered without forming the power. -/
def ofDecimal (negative : Bool) (digits : Nat) (exponent : Int) : Binary64 :=
  if digits = 0 then zero negative
  else
    let size : Int := (Decimal.digits digits).length
    if 310 < exponent + size then .infinite negative
    else if exponent + size < -330 then zero negative
    else if 0 ≤ exponent then ofRatio negative (digits * 10 ^ exponent.toNat) 1
    else ofRatio negative digits (10 ^ (-exponent).toNat)

def isNan : Binary64 → Bool
  | nan => true
  | _ => false

/-- Zero of either sign. -/
def isZero : Binary64 → Bool
  | finite _ 0 _ => true
  | _ => false

/-- Strictly below zero. Neither zero is, and NaN is not. -/
def isBelowZero : Binary64 → Bool
  | nan => false
  | infinite s => s
  | finite s m _ => s && m != 0

/-- At least zero. Both zeros are; NaN is not. -/
def isNonNegative (x : Binary64) : Bool := !x.isNan && !x.isBelowZero

/-- The integer a finite number stands for, when it has no fractional part. -/
def whole? : Binary64 → Option Int
  | finite s m e =>
    let (num, den) := scaled m 1 (-e)
    if num % den = 0 then
      let n : Int := (num / den : Nat)
      some (if s then -n else n)
    else none
  | _ => none

end Binary64

end CredoAssistant
