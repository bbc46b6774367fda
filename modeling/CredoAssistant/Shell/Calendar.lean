import CredoAssistant.Moment

/-!
Moments of the clock of a system, in nanoseconds since the year 1970, as dates and times of day, and
formats that write them.
-/
namespace CredoAssistant.Shell

/-- A moment seen on a calendar and a clock, at an offset from universal time in seconds. -/
structure Calendar where
  year : Int
  month : Nat
  day : Nat
  hour : Nat
  minute : Nat
  second : Nat
  nano : Nat
  offset : Int
  deriving DecidableEq, Repr

namespace Calendar

/-- The number of days from the first of March of the year zero to a day. Years begin in March, so
that a leap day is the last one. -/
def daysFromMarch (year : Int) (month day : Nat) : Int :=
  let y := if month ≤ 2 then year - 1 else year
  let m := if month ≤ 2 then month + 9 else month - 3
  let before := (153 * m + 2) / 5 + day
  y * 365 + Int.fdiv y 4 - Int.fdiv y 100 + Int.fdiv y 400 + before - 1

/-- The number of days from the start of the year 1970 to a day. -/
def dayNumber (year : Int) (month day : Nat) : Int := daysFromMarch year month day - 719468

/-- The year, month and day with a number. -/
def ofDayNumber (n : Int) : Int × Nat × Nat :=
  let z := n + 719468
  let era := Int.fdiv z 146097
  let doe := (z - era * 146097).toNat
  let yoe := (doe - doe / 1460 + doe / 36524 - doe / 146096) / 365
  let doy := doe - (365 * yoe + yoe / 4 - yoe / 100)
  let mp := (5 * doy + 2) / 153
  let day := doy - (153 * mp + 2) / 5 + 1
  let month := if mp < 10 then mp + 3 else mp - 9
  (yoe + era * 400 + (if month ≤ 2 then 1 else 0), month, day)

def nanosecondsPerSecond : Int := 10 ^ 9

/-- A moment on the calendar. -/
def ofNanoseconds (offset : Int) (t : Int) : Calendar :=
  let seconds := Int.fdiv t nanosecondsPerSecond + offset
  let (year, month, day) := ofDayNumber (Int.fdiv seconds 86400)
  let rest := (Int.fmod seconds 86400).toNat
  let nano := (Int.fmod t nanosecondsPerSecond).toNat
  ⟨year, month, day, rest / 3600, rest / 60 % 60, rest % 60, nano, offset⟩

def days (c : Calendar) : Int := dayNumber c.year c.month c.day

/-- The seconds since the year 1970. -/
def seconds (c : Calendar) : Int :=
  c.days * 86400 + c.hour * 3600 + c.minute * 60 + c.second - c.offset

def toNanoseconds (c : Calendar) : Int := c.seconds * nanosecondsPerSecond + c.nano

/-- The day of the week; Sunday is zero. -/
def weekday (c : Calendar) : Nat := (Int.fmod (c.days + 4) 7).toNat

/-- The day of the year, from zero on. -/
def yearDay (c : Calendar) : Nat := (c.days - dayNumber c.year 1 1).toNat

def monthNames : List String :=
  ["January", "February", "March", "April", "May", "June", "July", "August", "September", "October",
    "November", "December"]

def dayNames : List String :=
  ["Sunday", "Monday", "Tuesday", "Wednesday", "Thursday", "Friday", "Saturday"]

def nameIn (names : List String) (n : Nat) : String := (names[n]?).getD "?"

def short (s : String) : String := String.ofList (s.toList.take 3)

/-- Whether a year has 53 weeks that begin on Mondays, in which the one with its fourth of January
is the first. -/
def weeksOf (year : Int) : Nat :=
  let start := Int.fmod (dayNumber year 1 1 + 3) 7
  let isLong := start = 3 || (start = 2 && Date.isLeap year.toNat)
  if isLong then 53 else 52

/-- The year and week that a day belongs to, where weeks are never cut at the end of a year. -/
def isoWeek (c : Calendar) : Int × Nat :=
  let weekday := (c.weekday + 6) % 7
  let n : Int := Int.fdiv ((c.yearDay : Int) - weekday + 10) 7
  if n < 1 then (c.year - 1, weeksOf (c.year - 1))
  else if weeksOf c.year < n.toNat then (c.year + 1, 1)
  else (c.year, n.toNat)

/-- An offset from universal time: hours and minutes, with colons between as many parts as asked
for. -/
def offsetText (colons : Nat) (offset : Int) : String :=
  let n := offset.natAbs
  let two (k : Nat) : String := String.ofList (Decimal.padded 2 k)
  let sign := if offset < 0 then "-" else "+"
  let parts := [two (n / 3600), two (n / 60 % 60), two (n % 60)]
  match colons with
  | 0 => sign ++ two (n / 3600) ++ two (n / 60 % 60)
  | 1 => sign ++ ":".intercalate (parts.take 2)
  | 2 => sign ++ ":".intercalate parts
  | _ =>
    let needed := if n % 60 ≠ 0 then 3 else if n / 60 % 60 ≠ 0 then 2 else 1
    sign ++ ":".intercalate (parts.take needed)

/-- How a part of a format is written: with a sign that replaces its padding, in other letters, and
at least so wide. -/
structure Style where
  pad : Option Char
  upper : Bool
  swaps : Bool
  width : Option Nat
  colons : Nat

/-- A number with its padding. -/
def Style.number (s : Style) (pad : Char) (width : Nat) (n : Int) : String :=
  let ds := Nat.toDigits 10 n.natAbs
  let sign := if n < 0 then ['-'] else []
  let pad := s.pad.getD pad
  let width := s.width.getD width
  if pad = '-' then String.ofList (sign ++ ds)
  else
    let filler := List.replicate (width - sign.length - ds.length) (if pad = '_' then ' ' else '0')
    String.ofList (if pad = '_' then filler ++ sign ++ ds else sign ++ filler ++ ds)

/-- A text with its letters and padding. -/
def Style.text (s : Style) (t : String) : String :=
  let cs := t.toList
  let cs := if s.upper then cs.map Char.toUpper else cs
  let filler := List.replicate (s.width.getD 0 - cs.length) (if s.pad = some '0' then '0' else ' ')
  String.ofList (filler ++ cs)

/-- Writes what a letter of a format stands for. -/
def directive (zone : String) (c : Calendar) (s : Style) (letter : Char) : Option String :=
  let hour12 := if c.hour % 12 = 0 then 12 else c.hour % 12
  let half := if c.hour < 12 then "AM" else "PM"
  let plain : Style := ⟨none, false, false, none, 0⟩
  let two (n : Nat) : String := plain.number '0' 2 n
  let named (t : String) : String :=
    (if s.swaps then { s with upper := true } else s).text t
  let year := plain.number '0' 0 c.year
  let date := plain.number '0' 4 c.year ++ "-" ++ two c.month ++ "-" ++ two c.day
  let time := two c.hour ++ ":" ++ two c.minute ++ ":" ++ two c.second
  let slashed := two c.month ++ "/" ++ two c.day ++ "/" ++ two (Int.fmod c.year 100).toNat
  let month := nameIn monthNames (c.month - 1)
  let day := nameIn dayNames c.weekday
  if letter = 'a' then some (named (short day))
  else if letter = 'A' then some (named day)
  else if letter = 'b' || letter = 'h' then some (named (short month))
  else if letter = 'B' then some (named month)
  else if letter = 'c' then
    some (s.text (short day ++ " " ++ short month ++ " " ++ plain.number '_' 2 c.day ++ " " ++ time
      ++ " " ++ year))
  else if letter = 'C' then some (s.number '0' 2 (Int.fdiv c.year 100))
  else if letter = 'd' then some (s.number '0' 2 c.day)
  else if letter = 'D' || letter = 'x' then some (s.text slashed)
  else if letter = 'e' then some (s.number '_' 2 c.day)
  else if letter = 'F' then some (s.text date)
  else if letter = 'g' then some (s.number '0' 2 (Int.fmod c.isoWeek.1 100))
  else if letter = 'G' then some (s.number '0' 4 c.isoWeek.1)
  else if letter = 'H' then some (s.number '0' 2 c.hour)
  else if letter = 'I' then some (s.number '0' 2 hour12)
  else if letter = 'j' then some (s.number '0' 3 (c.yearDay + 1))
  else if letter = 'k' then some (s.number '_' 2 c.hour)
  else if letter = 'l' then some (s.number '_' 2 hour12)
  else if letter = 'm' then some (s.number '0' 2 c.month)
  else if letter = 'M' then some (s.number '0' 2 c.minute)
  else if letter = 'n' then some (s.text "\n")
  else if letter = 'N' then
    let width := s.width.getD 9
    let ds := Decimal.padded 9 c.nano
    some (String.ofList (ds.take width ++ List.replicate (width - 9) '0'))
  else if letter = 'p' then
    some (if s.swaps then s.text half.toLower else s.text half)
  else if letter = 'P' then some (s.text half.toLower)
  else if letter = 'q' then some (s.number '0' 1 ((c.month + 2) / 3))
  else if letter = 'r' then some (s.text (two hour12 ++ ":" ++ two c.minute ++ ":" ++ two c.second
    ++ " " ++ half))
  else if letter = 'R' then some (s.text (two c.hour ++ ":" ++ two c.minute))
  else if letter = 's' then some (s.number '0' 1 c.seconds)
  else if letter = 'S' then some (s.number '0' 2 c.second)
  else if letter = 't' then some (s.text "\t")
  else if letter = 'T' || letter = 'X' then some (s.text time)
  else if letter = 'u' then some (s.number '0' 1 (if c.weekday = 0 then 7 else c.weekday : Nat))
  else if letter = 'U' then some (s.number '0' 2 ((c.yearDay + 7 - c.weekday) / 7))
  else if letter = 'V' then some (s.number '0' 2 c.isoWeek.2)
  else if letter = 'w' then some (s.number '0' 1 c.weekday)
  else if letter = 'W' then some (s.number '0' 2 ((c.yearDay + 7 - (c.weekday + 6) % 7) / 7))
  else if letter = 'y' then some (s.number '0' 2 (Int.fmod c.year 100))
  else if letter = 'Y' then some (s.number '0' (if c.year < 0 then 5 else 4) c.year)
  else if letter = 'z' then some (s.text (offsetText s.colons c.offset))
  else if letter = 'Z' then some (if s.swaps then s.text zone.toLower else s.text zone)
  else if letter = '%' then some (s.text "%")
  else none

/-- Writes a moment in a format. What is no directive stands for itself. -/
def format (zone : String) (c : Calendar) : Nat → List Char → List Char
  | 0, _ => []
  | _ + 1, [] => []
  | fuel + 1, '%' :: rest =>
    let flags := rest.takeWhile fun f => "-_0+^#".toList.contains f
    let behind := rest.drop flags.length
    let digits := behind.takeWhile Char.isDigit
    let behind := behind.drop digits.length
    let colons := (behind.takeWhile (· == ':')).length
    let behind := behind.drop colons
    let behind :=
      match behind with
      | 'E' :: more => more
      | 'O' :: more => more
      | behind => behind
    let width := if digits.isEmpty then none else some (Decimal.value digits)
    let pad := (flags.filter fun f => f == '-' || f == '_' || f == '0').getLast?
    let style : Style := ⟨pad, flags.contains '^', flags.contains '#', width, colons⟩
    match behind with
    | letter :: more =>
      match directive zone c style letter with
      | some text => text.toList ++ format zone c fuel more
      | none => '%' :: format zone c fuel rest
    | [] => '%' :: format zone c fuel rest
  | fuel + 1, ch :: rest => ch :: format zone c fuel rest

def formatText (zone : String) (c : Calendar) (s : String) : String :=
  String.ofList (format zone c (s.length + 1) s.toList)

end Calendar

/-- A zone of time: its name and its offset from universal time in seconds. -/
structure Zone where
  name : String
  offset : Int
  deriving DecidableEq, Repr

namespace Zone

def universal : Zone := ⟨"UTC", 0⟩

/-- Reads a zone as a name with the hours that it lies to the west. -/
def ofText (s : String) : Zone :=
  let cs := s.toList
  let name := cs.takeWhile Char.isAlpha
  let rest := cs.drop name.length
  let (below, body) :=
    match rest with
    | '-' :: more => (true, more)
    | '+' :: more => (false, more)
    | more => (false, more)
  let parts := (String.ofList body).splitOn ":"
  if name.length < 3 || body.isEmpty || !parts.all fun p => Decimal.isNumeral p.toList then
    if name.length < 3 then universal
    else if rest.isEmpty then ⟨if s = "UTC0" || s = "GMT" then "GMT" else s, 0⟩ else universal
  else
    let value (i : Nat) : Int := ((parts[i]?).map fun p => Decimal.value p.toList).getD 0
    let n := value 0 * 3600 + value 1 * 60 + value 2
    ⟨String.ofList name, if below then n else -n⟩

end Zone

end CredoAssistant.Shell
