import CredoAssistant.Shell.Calendar

/-!
Reading dates as people write them: days by their numbers or names, times of day, zones, and lengths
of time from now, in any order.
-/
namespace CredoAssistant.Shell.DateText

/-- A word or number of a date. A number has a sign or none, its digits, and those behind a
point. -/
inductive Token
  | number (sign : Option Bool) (digits fraction : List Char)
  | word (s : String)
  | sign (c : Char)
  deriving DecidableEq, Repr

/-- Passes over a remark in parentheses. -/
def skipRemark : Nat → List Char → List Char
  | _, [] => []
  | depth, c :: rest =>
    if c = '(' then skipRemark (depth + 1) rest
    else if c = ')' then if depth ≤ 1 then rest else skipRemark (depth - 1) rest
    else skipRemark depth rest

def isGap (c : Char) : Bool := c == ' ' || ('\t' ≤ c && c ≤ '\r')

/-- Cuts a date into tokens. -/
def tokens : Nat → List Char → List Token
  | 0, _ => []
  | _ + 1, [] => []
  | fuel + 1, c :: rest =>
    let number (sign : Option Bool) (cs : List Char) : List Token :=
      let digits := cs.takeWhile Char.isDigit
      let behind := cs.drop digits.length
      match behind with
      | p :: more =>
        let fraction := more.takeWhile Char.isDigit
        if (p = '.' || p = ',') && !fraction.isEmpty then
          .number sign digits fraction :: tokens fuel (more.drop fraction.length)
        else .number sign digits [] :: tokens fuel behind
      | [] => [.number sign digits []]
    if isGap c then tokens fuel rest
    else if c.isDigit then number none (c :: rest)
    else if c = '-' || c = '+' then
      let behind := rest.dropWhile isGap
      if (behind.head?).any Char.isDigit then number (some (c == '-')) behind
      else tokens fuel rest
    else if c.isAlpha then
      let letters := (c :: rest).takeWhile fun d => d.isAlpha || d == '.'
      let word := String.ofList ((letters.filter (· != '.')).map Char.toLower)
      .word word :: tokens fuel ((c :: rest).drop letters.length)
    else if c = '(' then tokens fuel (skipRemark 0 (c :: rest))
    else .sign c :: tokens fuel rest

/-- What was read of a date so far, each part with how often it was given. -/
structure Found where
  year : Int
  yearDigits : Nat
  month : Nat
  day : Nat
  dates : Nat
  hour : Nat
  minute : Nat
  second : Nat
  nano : Nat
  half : Option Bool
  times : Nat
  weekday : Nat
  ordinal : Int
  weekdays : Nat
  zone : Int
  zones : Nat
  years : Int
  months : Int
  days : Int
  nanos : Int
  shifts : Nat

def value (ds : List Char) : Nat := Decimal.value ds

/-- Nanoseconds of the digits behind a point. -/
def nanosOf (fraction : List Char) : Nat :=
  let ds := fraction.take 9
  value ds * 10 ^ (9 - ds.length)

/-- The number of a name that is written in full or cut to three letters. -/
def nameIndex? (names : List String) (others : List (String × Nat)) (s : String) : Option Nat :=
  let isName (name : String) : Bool :=
    let name := name.toLower
    s == name || s == Calendar.short name
  match names.findIdx? isName with
  | some i => some i
  | none => (others.find? fun o => o.1 == s).map Prod.snd

def month? (s : String) : Option Nat :=
  (nameIndex? Calendar.monthNames [("sept", 8)] s).map (· + 1)

def weekday? (s : String) : Option Nat :=
  nameIndex? Calendar.dayNames [("tues", 2), ("wednes", 3), ("thur", 4), ("thurs", 4)] s

/-- A unit of time: how many months, days or nanoseconds it is. -/
inductive Measure
  | years
  | months
  | days (n : Int)
  | nanos (n : Int)
  deriving DecidableEq, Repr

def unit? (s : String) : Option Measure :=
  let s := if s.endsWith "s" && 1 < s.length then (s.dropEnd 1).toString else s
  let second : Int := 10 ^ 9
  if s = "year" then some .years
  else if s = "month" then some .months
  else if s = "fortnight" then some (.days 14)
  else if s = "week" then some (.days 7)
  else if s = "day" then some (.days 1)
  else if s = "hour" then some (.nanos (3600 * second))
  else if s = "minute" || s = "min" then some (.nanos (60 * second))
  else if s = "second" || s = "sec" then some (.nanos second)
  else none

def ordinal? (s : String) : Option Int :=
  ([("last", -1), ("this", 0), ("next", 1), ("first", 1), ("third", 3), ("fourth", 4), ("fifth", 5),
    ("sixth", 6), ("seventh", 7), ("eighth", 8), ("ninth", 9), ("tenth", 10), ("eleventh", 11),
    ("twelfth", 12)].find? fun e => e.1 == s).map Prod.snd

def dayShift? (s : String) : Option Int :=
  ([("tomorrow", 1), ("yesterday", -1), ("today", 0), ("now", 0)].find? fun e => e.1 == s).map
    Prod.snd

/-- The hours that a zone lies to the east. -/
def zone? (s : String) : Option Int :=
  let named : List (String × Int) :=
    [("gmt", 0), ("ut", 0), ("utc", 0), ("wet", 0), ("west", 1), ("bst", 1), ("cet", 1),
      ("cest", 2), ("met", 1), ("mest", 2), ("eet", 2), ("eest", 3), ("msk", 3), ("ist", 5),
      ("jst", 9), ("est", -5), ("edt", -4), ("cst", -6), ("cdt", -5), ("mst", -7), ("mdt", -6),
      ("pst", -8), ("pdt", -7), ("hst", -10), ("z", 0)]
  let letters : List (String × Int) :=
    "abcdefghi".toList.zipIdx.map (fun e => (String.singleton e.1, (e.2 : Int) + 1))
      ++ "klm".toList.zipIdx.map (fun e => (String.singleton e.1, (e.2 : Int) + 10))
      ++ "nopqrs".toList.zipIdx.map (fun e => (String.singleton e.1, -(e.2 : Int) - 1))
      ++ "uvwxy".toList.zipIdx.map (fun e => (String.singleton e.1, -(e.2 : Int) - 8))
  ((named ++ letters).find? fun e => e.1 == s).map fun e => e.2 * 3600

/-- Adds a length of time. -/
def shift (f : Found) (n : Int) (u : Measure) : Found :=
  let f := { f with shifts := f.shifts + 1 }
  match u with
  | .years => { f with years := f.years + n }
  | .months => { f with months := f.months + n }
  | .days k => { f with days := f.days + n * k }
  | .nanos k => { f with nanos := f.nanos + n * k }

/-- Whether the lengths of time before a word go back. -/
def backwards (ts : List Token) : Int × List Token :=
  match ts with
  | .word "ago" :: rest => (-1, rest)
  | .word "hence" :: rest => (1, rest)
  | ts => (1, ts)

/-- An offset of a zone, as hours and minutes with or without a colon. -/
def offset (below : Bool) (digits : List Char) (ts : List Token) : Int × List Token :=
  let sign : Int := if below then -1 else 1
  let n := value digits
  match ts with
  | .sign ':' :: .number none minutes [] :: rest =>
    (sign * ((n : Int) * 3600 + (value minutes : Int) * 60), rest)
  | ts =>
    if digits.length ≤ 2 then (sign * (n : Int) * 3600, ts)
    else (sign * (((n / 100 : Nat) : Int) * 3600 + ((n % 100 : Nat) : Int) * 60), ts)

/-- What may follow a time of day: a half of the day, or an offset. -/
def afterTime (f : Found) (ts : List Token) : Found × List Token :=
  let f := { f with times := f.times + 1 }
  match ts with
  | .word "am" :: rest => ({ f with half := some false }, rest)
  | .word "pm" :: rest => ({ f with half := some true }, rest)
  | .number (some below) digits [] :: rest =>
    match rest with
    | .word w :: _ =>
      if (unit? w).isSome then (f, ts)
      else
        let (n, rest) := offset below digits rest
        ({ f with zone := n, zones := f.zones + 1 }, rest)
    | rest =>
      let (n, rest) := offset below digits rest
      ({ f with zone := n, zones := f.zones + 1 }, rest)
  | ts => (f, ts)

/-- A number that stands alone: a year, a date or a time of day. -/
def lone (f : Found) (ds : List Char) : Found :=
  let n := value ds
  if f.dates = 1 && f.yearDigits = 0 && f.shifts = 0 && (0 < f.times || 2 < ds.length) then
    { f with year := n, yearDigits := ds.length }
  else if 4 < ds.length then
    { f with dates := f.dates + 1, day := n % 100, month := n / 100 % 100
             year := (n / 10000 : Nat), yearDigits := ds.length - 4 }
  else
    let (hour, minute) := if ds.length ≤ 2 then (n, 0) else (n / 100, n % 100)
    { f with times := f.times + 1, hour, minute, second := 0, nano := 0, half := none }

def date (f : Found) (year : Option (List Char)) (month day : Nat) : Found :=
  match year with
  | none => { f with dates := f.dates + 1, month, day }
  | some ds =>
    { f with dates := f.dates + 1, year := value ds, yearDigits := ds.length, month, day }

/-- Reads the items of a date. -/
def items : Nat → Found → List Token → Option Found
  | 0, _, _ => none
  | _ + 1, f, [] => some f
  | fuel + 1, f, t :: ts =>
    match t, ts with
    | .number none h [],
      .sign ':' :: .number none m [] :: .sign ':' :: .number none s fraction :: rest =>
      let f := { f with hour := value h, minute := value m, second := value s,
                        nano := nanosOf fraction, half := none }
      let (f, rest) := afterTime f rest
      items fuel f rest
    | .number none h [], .sign ':' :: .number none m [] :: rest =>
      let f := { f with hour := value h, minute := value m, second := 0, nano := 0, half := none }
      let (f, rest) := afterTime f rest
      items fuel f rest
    | .number none h [], .word "am" :: rest =>
      items fuel { f with hour := value h, minute := 0, second := 0, nano := 0, half := some false,
                          times := f.times + 1 } rest
    | .number none h [], .word "pm" :: rest =>
      items fuel { f with hour := value h, minute := 0, second := 0, nano := 0, half := some true,
                          times := f.times + 1 } rest
    | .number none a [], .sign '/' :: .number none b [] :: .sign '/' :: .number none c [] :: rest =>
      if 4 ≤ a.length then items fuel (date f (some a) (value b) (value c)) rest
      else items fuel (date f (some c) (value a) (value b)) rest
    | .number none a [], .sign '/' :: .number none b [] :: rest =>
      items fuel (date f none (value a) (value b)) rest
    | .number none y [], .number (some true) m [] :: .number (some true) d [] :: rest =>
      let f := date f (some y) (value m) (value d)
      match rest with
      | .word "t" :: rest => items fuel f rest
      | rest => items fuel f rest
    | .number none n fraction, .word w :: rest =>
      match month? w, unit? w, weekday? w with
      | some month, _, _ =>
        match rest with
        | .number (some true) y [] :: rest => items fuel (date f (some y) month (value n)) rest
        | .number none y [] :: .sign ':' :: more =>
          items fuel (date f none month (value n)) (.number none y [] :: .sign ':' :: more)
        | .number none y [] :: rest => items fuel (date f (some y) month (value n)) rest
        | rest => items fuel (date f none month (value n)) rest
      | none, some u, _ =>
        let (sign, rest) := backwards rest
        let extra : Int := if u = .nanos (10 ^ 9) then (nanosOf fraction : Nat) else 0
        let f := shift f (sign * (value n : Int)) u
        items fuel { f with nanos := f.nanos + sign * extra } rest
      | none, none, some day =>
        items fuel { f with weekday := day, ordinal := value n, weekdays := f.weekdays + 1 } rest
      | none, none, none => if fraction.isEmpty then items fuel (lone f n) ts else none
    | .number (some below) n fraction, .word w :: rest =>
      match unit? w with
      | some u =>
        let (sign, rest) := backwards rest
        let sign := if below then -sign else sign
        let extra : Int := if u = .nanos (10 ^ 9) then (nanosOf fraction : Nat) else 0
        let f := shift f (sign * (value n : Int)) u
        items fuel { f with nanos := f.nanos + sign * extra } rest
      | none => none
    | .number none h [], .number (some below) z [] :: rest =>
      let (n, rest) := offset below z rest
      items fuel
        { f with hour := value h, minute := 0, second := 0, nano := 0, half := none
                 times := f.times + 1, zone := n, zones := f.zones + 1 } rest
    | .number none n [], ts => items fuel (lone f n) ts
    | .word w, ts =>
      match month? w, weekday? w, unit? w, ordinal? w, dayShift? w, zone? w with
      | some month, _, _, _, _, _ =>
        match ts with
        | .number none d [] :: .sign ',' :: .number none y [] :: rest =>
          items fuel (date f (some y) month (value d)) rest
        | .number (some true) d [] :: .number (some true) y [] :: rest =>
          items fuel (date f (some y) month (value d)) rest
        | .number none d [] :: rest => items fuel (date f none month (value d)) rest
        | _ => none
      | none, some day, _, _, _, _ =>
        let f := { f with weekday := day, ordinal := 0, weekdays := f.weekdays + 1 }
        match ts with
        | .sign ',' :: rest => items fuel f rest
        | rest => items fuel f rest
      | none, none, some u, _, _, _ =>
        let (sign, rest) := backwards ts
        items fuel (shift f sign u) rest
      | none, none, none, some n, _, _ =>
        match ts with
        | .word v :: rest =>
          match unit? v, weekday? v with
          | some u, _ =>
            let (sign, rest) := backwards rest
            items fuel (shift f (sign * n) u) rest
          | none, some day =>
            items fuel { f with weekday := day, ordinal := n, weekdays := f.weekdays + 1 } rest
          | none, none => none
        | _ => none
      | none, none, none, none, some n, _ => items fuel (shift f n (.days 1)) ts
      | none, none, none, none, none, some z =>
        let f := { f with zone := z, zones := f.zones + 1 }
        match ts with
        | .number (some below) ds [] :: .word v :: rest =>
          if (unit? v).isSome then items fuel f ts
          else
            let (n, rest) := offset below ds (.word v :: rest)
            items fuel { f with zone := z + n } rest
        | .number (some below) ds [] :: rest =>
          let (n, rest) := offset below ds rest
          items fuel { f with zone := z + n } rest
        | ts => items fuel f ts
      | none, none, none, none, none, none => none
    | _, _ => none

/-- The moment that the parts of a date stand for, seen from now. -/
def resolve (now : Calendar) (f : Found) : Option Int := do
  if 1 < f.times || 1 < f.dates || 1 < f.weekdays || 1 < f.zones then none
  let year : Int :=
    if f.dates = 0 then now.year
    else if f.yearDigits = 0 then now.year
    else if f.yearDigits ≤ 2 then (if f.year < 69 then f.year + 2000 else f.year + 1900)
    else f.year
  let (month, day) := if f.dates = 0 then (now.month, now.day) else (f.month, f.day)
  if month < 1 || 12 < month || day < 1 || Date.daysIn year.toNat month < day then none
  let hour ←
    match f.half with
    | none => if f.hour < 24 then some f.hour else none
    | some late =>
      if f.hour < 1 || 12 < f.hour then none
      else some (f.hour % 12 + if late then 12 else 0)
  if 59 < f.minute || 60 < f.second then none
  let isTimed := 0 < f.times || (0 < f.shifts && f.dates = 0 && f.weekdays = 0)
  let (hour, minute, second, nano) :=
    if 0 < f.times then (hour, f.minute, f.second, f.nano)
    else if isTimed then (now.hour, now.minute, now.second, now.nano)
    else (0, 0, 0, 0)
  let base := Calendar.dayNumber year month day
  let base :=
    if 0 < f.weekdays && f.dates = 0 then
      let weekday : Int := Int.fmod (base + 4) 7
      let isOther := weekday ≠ f.weekday
      base + Int.fmod ((f.weekday : Int) - weekday + 7) 7
        + 7 * (f.ordinal - if 0 < f.ordinal && isOther then 1 else 0)
    else base
  let (y, m, d) := Calendar.ofDayNumber base
  let months := y * 12 + (m : Int) - 1 + f.years * 12 + f.months
  let first := Calendar.dayNumber (Int.fdiv months 12) ((Int.fmod months 12).toNat + 1) 1
  let number := first + (d : Int) - 1 + f.days
  let offset := if 0 < f.zones then f.zone else now.offset
  let seconds := number * 86400 + hour * 3600 + minute * 60 + second - offset
  some (seconds * 10 ^ 9 + nano + f.nanos)

/-- Nothing that was read. -/
def nothing : Found :=
  ⟨0, 0, 0, 0, 0, 0, 0, 0, 0, none, 0, 0, 0, 0, 0, 0, 0, 0, 0, 0, 0⟩

/-- The moment that a text stands for, seen from now. Behind an at-sign stand seconds. -/
def read? (now : Calendar) (s : String) : Option Int :=
  let cs := s.toList.dropWhile isGap
  match tokens (cs.length + 1) cs with
  | [.sign '@', .number sign ds fraction] =>
    let n : Int := (value ds * 10 ^ 9 + nanosOf fraction : Nat)
    some (if sign = some true then -n else n)
  | ts => (items (ts.length + 1) nothing ts).bind (resolve now)

end CredoAssistant.Shell.DateText
