import CredoAssistant.Number.Decimal

/-!
Calendar dates, clock times and their combination, as configuration files write them.
-/
namespace CredoAssistant

/-- A day of the proleptic Gregorian calendar. -/
structure Date where
  year : Nat
  month : Nat
  day : Nat
  deriving DecidableEq, Repr, Inhabited

/-- A time of day with microseconds. -/
structure Clock where
  hour : Nat
  minute : Nat
  second : Nat
  micro : Nat
  deriving DecidableEq, Repr, Inhabited

/-- A date, a time, or both; both together may carry an offset from UTC in minutes. -/
inductive Moment
  | date (d : Date)
  | clock (t : Clock)
  | dateTime (d : Date) (t : Clock) (offset : Option Int)
  deriving DecidableEq, Repr, Inhabited

def Date.isLeap (year : Nat) : Bool :=
  year % 4 == 0 && (year % 100 != 0 || year % 400 == 0)

def Date.daysIn (year month : Nat) : Nat :=
  if month = 2 then (if isLeap year then 29 else 28)
  else if month = 4 ∨ month = 6 ∨ month = 9 ∨ month = 11 then 30
  else 31

/-- Whether the day exists. -/
def Date.isValid (d : Date) : Bool :=
  1 ≤ d.year && d.year ≤ 9999 && 1 ≤ d.month && d.month ≤ 12 && 1 ≤ d.day
    && d.day ≤ daysIn d.year d.month

/-- Decimal digits of `n` filled up with zeros to `width`. -/
def Decimal.padded (width n : Nat) : List Char :=
  let ds := Decimal.digits n
  List.replicate (width - ds.length) '0' ++ ds

namespace Moment

def dateText (d : Date) : List Char :=
  Decimal.padded 4 d.year ++ '-' :: Decimal.padded 2 d.month ++ '-' :: Decimal.padded 2 d.day

/-- Six places follow the second unless it is whole. -/
def clockText (t : Clock) : List Char :=
  Decimal.padded 2 t.hour ++ ':' :: Decimal.padded 2 t.minute ++ ':' :: Decimal.padded 2 t.second
    ++ (if t.micro = 0 then [] else '.' :: Decimal.padded 6 t.micro)

def offsetText (minutes : Int) : List Char :=
  let n := minutes.natAbs
  let mark := if minutes < 0 then '-' else '+'
  mark :: Decimal.padded 2 (n / 60) ++ ':' :: Decimal.padded 2 (n % 60)

/-- The ISO 8601 form. -/
def text : Moment → String
  | date d => String.ofList (dateText d)
  | clock t => String.ofList (clockText t)
  | dateTime d t offset =>
    String.ofList (dateText d ++ 'T' :: clockText t ++ (offset.map offsetText).getD [])

/-- The parts of a clock time that are shown: the second only when it or a fraction is there. -/
def clockParts (t : Clock) : List Nat :=
  if t.micro ≠ 0 then [t.hour, t.minute, t.second, t.micro]
  else if t.second ≠ 0 then [t.hour, t.minute, t.second]
  else [t.hour, t.minute]

def displayParts (ns : List Nat) : String :=
  ", ".intercalate (ns.map fun n => String.ofList (Decimal.digits n))

/-- An offset from UTC; one below zero is shown as a day less and the seconds above. -/
def displayOffset (minutes : Int) : String :=
  let seconds (n : Int) : String := "seconds=" ++ Decimal.text n
  let zone (delta : String) : String := "datetime.timezone(datetime.timedelta(" ++ delta ++ "))"
  if minutes = 0 then "datetime.timezone.utc"
  else if 0 < minutes then zone (seconds (minutes * 60))
  else zone ("days=-1, " ++ seconds (minutes * 60 + 86400))

/-- The form that messages show. -/
def display : Moment → String
  | date d => "datetime.date(" ++ displayParts [d.year, d.month, d.day] ++ ")"
  | clock t => "datetime.time(" ++ displayParts (clockParts t) ++ ")"
  | dateTime d t offset =>
    let zone :=
      match offset with
      | some minutes => ", tzinfo=" ++ displayOffset minutes
      | none => ""
    "datetime.datetime(" ++ displayParts ([d.year, d.month, d.day] ++ clockParts t) ++ zone ++ ")"

end Moment

end CredoAssistant
