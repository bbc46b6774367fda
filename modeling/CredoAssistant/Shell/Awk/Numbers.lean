import CredoAssistant.Shell.Layout

/-!
Arithmetic on numbers with a point. Sums, products, quotients and remainders are those of the exact
values, rounded once; the functions of the circle and of growth are the machine's own.
-/
namespace CredoAssistant.Shell.Awk

namespace Numbers

def zero : Floating := .finite false 0 Precision.double.least

def ofInt (n : Int) : Floating := Floating.ofInt .double n

def ofNat (n : Nat) : Floating := ofInt n

def ofBool (b : Bool) : Floating := ofNat b.toNat

/-- What is no number, as the machine answers it. -/
def undefined : Floating := .nan true

/-- The number nearest to an exact value. -/
def nearest (num : Int) (den : Nat) : Floating :=
  (Floating.ofRatio .double (num < 0) num.natAbs den).1

/-- The value of a finite number as a numerator over a power of two. -/
def exact (negative : Bool) (m : Nat) (e : Int) : Int × Nat :=
  let (num, den) := Binary64.scaled m 1 (-e)
  (if negative then -(num : Int) else num, den)

def negate : Floating → Floating
  | .nan s => .nan (!s)
  | .infinite s => .infinite (!s)
  | .finite s m e => .finite (!s) m e

def isZero : Floating → Bool
  | .finite _ 0 _ => true
  | _ => false

def isNan : Floating → Bool
  | .nan _ => true
  | _ => false

def isNegative : Floating → Bool
  | .nan s => s
  | .infinite s => s
  | .finite s _ _ => s

def add (x y : Floating) : Floating :=
  match x, y with
  | .nan s, _ => .nan s
  | _, .nan s => .nan s
  | .infinite s, .infinite t => if s = t then .infinite s else undefined
  | .infinite s, _ => .infinite s
  | _, .infinite s => .infinite s
  | .finite s m e, .finite t n f =>
    let (a, b) := exact s m e
    let (c, d) := exact t n f
    let sum := a * d + c * b
    if sum = 0 then .finite (s && t) 0 Precision.double.least else nearest sum (b * d)

def subtract (x y : Floating) : Floating :=
  if isNan y then add x y else add x (negate y)

def multiply (x y : Floating) : Floating :=
  let negative := isNegative x != isNegative y
  match x, y with
  | .nan s, _ => .nan s
  | _, .nan s => .nan s
  | .infinite _, _ => if isZero y then undefined else .infinite negative
  | _, .infinite _ => if isZero x then undefined else .infinite negative
  | .finite s m e, .finite t n f =>
    let (a, b) := exact s m e
    let (c, d) := exact t n f
    if m = 0 ∨ n = 0 then .finite negative 0 Precision.double.least else nearest (a * c) (b * d)

def divide (x y : Floating) : Floating :=
  let negative := isNegative x != isNegative y
  match x, y with
  | .nan s, _ => .nan s
  | _, .nan s => .nan s
  | .infinite _, .infinite _ => undefined
  | .infinite _, _ => .infinite negative
  | _, .infinite _ => .finite negative 0 Precision.double.least
  | .finite s m e, .finite t n f =>
    let (a, b) := exact s m e
    let (c, d) := exact t n f
    if n = 0 then if m = 0 then undefined else .infinite negative
    else if m = 0 then .finite negative 0 Precision.double.least
    else nearest (a * d * (if c < 0 then -1 else 1)) (b * c.natAbs)

/-- The remainder of a division, which has the sign of what is divided. -/
def remainder (x y : Floating) : Floating :=
  match x, y with
  | .nan s, _ => .nan s
  | _, .nan s => .nan s
  | .infinite _, _ => undefined
  | _, .infinite _ => x
  | .finite s m e, .finite t n f =>
    if n = 0 then undefined
    else
      let (a, b) := exact s m e
      let (c, d) := exact t n f
      let left := (a.natAbs * d) % (c.natAbs * b)
      if left = 0 then .finite s 0 Precision.double.least
      else nearest (if s then -(left : Int) else left) (b * d)

/-- Whether a number is less than another one. -/
def isLess (x y : Floating) : Bool :=
  match x, y with
  | .nan _, _ => false
  | _, .nan _ => false
  | .infinite s, .infinite t => s && !t
  | .infinite s, _ => s
  | _, .infinite t => !t
  | .finite s m e, .finite t n f =>
    let (a, b) := exact s m e
    let (c, d) := exact t n f
    a * d < c * b

def isEqual (x y : Floating) : Bool :=
  match x, y with
  | .nan _, _ => false
  | _, .nan _ => false
  | x, y => !isLess x y && !isLess y x

/-- A number without its fraction, if it is finite. -/
def truncated? : Floating → Option Int
  | .finite s m e =>
    let (a, b) := exact s m e
    let n : Int := (a.natAbs / b : Nat)
    some (if s then -n else n)
  | _ => none

/-- A number without its fraction. -/
def truncated (x : Floating) : Floating := ((truncated? x).map ofInt).getD x

/-- The integer that a number is, if it is one. -/
def whole? : Floating → Option Int
  | .finite s m e =>
    let (a, b) := exact s m e
    if a.natAbs % b = 0 then truncated? (.finite s m e) else none
  | _ => none

/-- The integer within bounds that is nearest to a number without its fraction. -/
def clamped (low high : Int) (x : Floating) : Int :=
  match x, truncated? x with
  | _, some n => max low (min high n)
  | .infinite s, none => if s then low else high
  | _, none => low

/-- The greatest integer and the least one that a program holds. -/
def mostInteger : Int := 2 ^ 63 - 1
def leastInteger : Int := -2 ^ 63

def toInteger (x : Floating) : Int := clamped leastInteger mostInteger x

/-! Functions of the machine -/

/-- A number in the machine's own form. -/
def toMachine : Floating → Float
  | .nan _ => Float.ofBits 0x7ff8000000000000
  | .infinite s => Float.ofBits (if s then 0xfff0000000000000 else 0x7ff0000000000000)
  | .finite s m e =>
    let sign : Nat := if s then 2 ^ 63 else 0
    let bits : Nat := if m < 2 ^ 52 then m else (e + 1075).toNat * 2 ^ 52 + (m - 2 ^ 52)
    Float.ofBits (UInt64.ofNat (sign + bits))

/-- A number from the machine's own form. What is no number came from numbers. -/
def ofMachine (x : Float) : Floating :=
  let bits := x.toBits.toNat
  let s : Bool := 2 ^ 63 ≤ bits
  let e : Nat := bits / 2 ^ 52 % 2 ^ 11
  let m : Nat := bits % 2 ^ 52
  if e = 2047 then if m = 0 then .infinite s else undefined
  else if e = 0 then .finite s m Precision.double.least
  else .finite s (m + 2 ^ 52) ((e : Int) - (1075 : Int))

def through (f : Float → Float) (x : Floating) : Floating :=
  match x with
  | .nan s => .nan s
  | x => ofMachine (f (toMachine x))

def throughBoth (f : Float → Float → Float) (x y : Floating) : Floating :=
  match x, y with
  | .nan s, _ => .nan s
  | _, .nan s => .nan s
  | x, y => ofMachine (f (toMachine x) (toMachine y))

def power (x y : Floating) : Floating := if isZero y then ofNat 1 else throughBoth Float.pow x y

/-! Texts -/

/-- The number at the front of a text; there is none in most texts, which counts as zero. -/
def ofText (s : String) : Floating :=
  ((Floating.read? .double s.toList).map Numeric.value).getD zero

/-- The number that a text from outside stands for as a whole, with blanks around it. -/
def ofInput? (s : String) : Option Floating :=
  let cs := s.toList.dropWhile Arithmetic.isSpace
  let (_, body) := Binary64.takeSign cs
  if body.head?.any fun c => c.isDigit || c == '.' then
    (Floating.read? .double cs).bind fun r =>
      if r.rest.all Arithmetic.isSpace then some r.value else none
  else none

/-- Texts in a format with one number. -/
def inFormat (format : String) (x : Floating) : String :=
  let rec go : Nat → List Char → List Char
    | 0, _ => []
    | _ + 1, [] => []
    | fuel + 1, '%' :: '%' :: rest => '%' :: go fuel rest
    | fuel + 1, '%' :: rest =>
      let flags := rest.takeWhile fun c => "#-+ 0".toList.contains c
      let behind := rest.drop flags.length
      let width := behind.takeWhile Char.isDigit
      let behind := behind.drop width.length
      let (places, behind) : Option Nat × List Char :=
        match behind with
        | '.' :: more =>
          let ds := more.takeWhile Char.isDigit
          (some (Nat.ofDigitChars 10 ds 0), more.drop ds.length)
        | _ => (none, behind)
      let l : Layout := ⟨flags, Nat.ofDigitChars 10 width 0, places⟩
      match behind with
      | [] => []
      | c :: more =>
        if c = 'd' ∨ c = 'i' then l.signed (toInteger x) ++ go fuel more
        else l.float .double c x ++ go fuel more
    | fuel + 1, c :: rest => c :: go fuel rest
  String.ofList (go (format.length + 1) format.toList)

/-- A number as text: an integer in all its digits, another one in a format. -/
def text (format : String) (x : Floating) : String :=
  match whole? x with
  | some n =>
    if leastInteger ≤ n && n ≤ 2 ^ 64 - 1 then toString n
    else if n = 2 ^ 64 then toString ((2 : Int) ^ 64 - 1)
    else inFormat format x
  | none => inFormat format x

end Numbers

end CredoAssistant.Shell.Awk
