import CredoAssistant.Number.Instances

/-!
Decimal numerals over lists of characters: writing a number with the fewest digits, reading ASCII
digits back.
-/
namespace CredoAssistant.Decimal

/-- The digits of `n`, without leading zeros. -/
def digits (n : Nat) : List Char := Nat.toDigits 10 n

/-- The value of a list of digits. -/
def value (cs : List Char) : Nat := Nat.ofDigitChars 10 cs 0

theorem value_digits (n : Nat) : value (digits n) = n :=
  Nat.ofDigitChars_toDigits (by decide) (by decide)

/-- An integer with a minus sign when it is negative. -/
def integer (i : Int) : List Char :=
  if i < 0 then '-' :: digits i.natAbs else digits i.natAbs

/-- An integer as text. -/
def text (i : Int) : String := String.ofList (integer i)

/-- Whether a list holds at least one digit and nothing else. -/
def isNumeral (cs : List Char) : Bool := !cs.isEmpty && cs.all Char.isDigit

end CredoAssistant.Decimal
