import CredoAssistant.Shell.Layout
import CredoAssistant.Shell.Program.Common

/-!
Numbers in a row, from a first one by equal steps up to a last one, and numbers as products of
primes.
-/
namespace CredoAssistant.Shell.Program

/-! ### Products of primes -/

namespace Factors

/-- A power of a number modulo another one. -/
def power (m : Nat) : Nat → Nat → Nat → Nat
  | 0, _, _ => 1 % m
  | fuel + 1, base, n =>
    if n = 0 then 1 % m
    else
      let half := power m fuel (base * base % m) (n / 2)
      if n % 2 = 1 then half * base % m else half

/-- Whether a base shows that an odd number is composite: `n - 1` is `odd` times two to the
`twos`. -/
def isWitness (n odd twos base : Nat) : Bool :=
  let start := power n (Nat.log2 n + 2) (base % n) odd
  let squares := (List.range twos).map fun i => power n (Nat.log2 n + 2) start (2 ^ i)
  base % n != 0 && start != 1 && !squares.contains (n - 1)

def smallPrimes : List Nat := [2, 3, 5, 7, 11, 13, 17, 19, 23, 29, 31, 37, 41]

/-- Takes the twos out of a number. -/
def twosOf : Nat → Nat → Nat × Nat
  | 0, n => (n, 0)
  | fuel + 1, n =>
    if n % 2 = 0 && n != 0 then
      let (odd, twos) := twosOf fuel (n / 2)
      (odd, twos + 1)
    else (n, 0)

/-- Whether a number is prime, as far as the witnesses tell. -/
def isPrime (n : Nat) : Bool :=
  if n < 2 then false
  else if smallPrimes.any fun p => n % p = 0 then smallPrimes.contains n
  else
    let (odd, twos) := twosOf (Nat.log2 n + 1) (n - 1)
    !smallPrimes.any (isWitness n odd twos)

/-- Walks along a cycle modulo a number at two speeds until a divisor shows. -/
def cycle (n c : Nat) : Nat → Nat → Nat → Option Nat
  | 0, _, _ => none
  | fuel + 1, slow, fast =>
    let step (x : Nat) : Nat := (x * x + c) % n
    let slow := step slow
    let fast := step (step fast)
    let d := Nat.gcd (max slow fast - min slow fast) n
    if d = 1 then cycle n c fuel slow fast
    else if d = n then none
    else some d

/-- A divisor of a composite number. -/
def divisor (n : Nat) : Option Nat :=
  (List.range 20).findSome? fun c => cycle n (c + 1) 400000 2 2

/-- The prime factors of a number that has no small ones. -/
def large : Nat → Nat → List Nat
  | 0, n => [n]
  | fuel + 1, n =>
    if n = 1 then []
    else if isPrime n then [n]
    else
      match divisor n with
      | some d => large fuel d ++ large fuel (n / d)
      | none => [n]

/-- Takes small factors out of a number, from one on. -/
def small : Nat → Nat → Nat → List Nat × Nat
  | 0, _, n => ([], n)
  | fuel + 1, d, n =>
    if n < d * d then if n = 1 then ([], 1) else ([n], 1)
    else if n % d = 0 then
      let (more, rest) := small fuel d (n / d)
      (d :: more, rest)
    else small fuel (d + 1) n

/-- The prime factors of a number in order. -/
def of (n : Nat) : List Nat :=
  if n < 2 then []
  else
    let (front, rest) := small 5000 2 n
    front ++ (large (Nat.log2 n + 1) rest).mergeSort

/-- The factors as a text, with `powers` as powers of different ones. -/
def text (powers : Bool) (n : Nat) : String :=
  let fs := of n
  let shown :=
    if powers then
      fs.eraseDups.map fun p =>
        let count := fs.count p
        if count = 1 then toString p else s!"{p}^{count}"
    else fs.map toString
  " ".intercalate ((toString n ++ ":") :: shown) ++ "\n"

end Factors

def factor : Body := fun self args => do
  let a ← arguments self (.ofText "h" [("exponents", 'h')]) 1 args
  let tell (token : String) : Run Bool := do
    let cs := token.toList.dropWhile (· == ' ')
    let digits := if cs.head? = some '+' then cs.tail else cs
    match digits? (String.ofList digits) with
    | some n => do
      putText self (Factors.text (a.has 'h') n)
      pure false
    | none => fails self s!"{← named token} is not a valid positive integer"
  if !a.operands.isEmpty then do return statusOf (← anyFails a.operands tell)
  else
    match ← contents "-" with
    | .ok cs => do
      let isGap (c : Char) : Bool := " \n\t\x00".toList.contains c
      let tokens := (piecesBetween isGap cs).filter fun t => !t.isEmpty
      return statusOf (← anyFails tokens fun t => tell (String.ofList t))
    | .error fault => do
      complain self s!"error reading input: {fault.reason}"
      pure 1

/-! ### Numbers in a row -/

namespace Sequence

/-- A number as it was given: its value, how wide its digits are, and how many of them stand behind
the point, if that is known. -/
structure Numeral where
  value : Floating
  width : Int
  places : Option Nat

/-- The width and the places of a decimal with a point or an exponent. -/
def measure (cs : List Char) : Int × Option Nat :=
  let isMark (c : Char) : Bool := c == 'e' || c == 'E'
  let front := cs.takeWhile fun c => !isMark c
  let whole := front.takeWhile (· != '.')
  let hasPoint := front.contains '.'
  let fraction := front.length - whole.length - 1
  let pointed : Int :=
    if !hasPoint then 0
    else if fraction = 0 then -1
    else if (whole.getLast?).any Char.isDigit then 0 else 1
  let places := if hasPoint then fraction else 0
  match cs.drop front.length with
  | [] => ((cs.length : Int) + pointed, some places)
  | _ :: power =>
    let (negative, digits) := Binary64.takeSign power
    let n := Decimal.value (digits.takeWhile Char.isDigit)
    let base : Int := (front.length : Int) + pointed
    if negative && n != 0 then
      let more : Int := if hasPoint && fraction != 0 then 0 else 1
      (base + more + n, some (places + n))
    else
      let places' := places - min places n
      let less : Int := if hasPoint && places' = 0 && fraction != 0 then 1 else 0
      (base - less + ((n - min fraction n : Nat) : Int), some places')

/-- Reads a number to the end of its text. -/
def numeral? (s : String) : Option Numeral := do
  let r ← Floating.read? .extended s.toList
  let overflows := r.exceeds && match r.value with
    | .infinite _ => true
    | _ => false
  if !r.rest.isEmpty || overflows then none
  else
    let cs := s.toList.dropWhile fun c => Arithmetic.isSpace c || c == '+'
    let isHex := cs.any fun c => c == 'x' || c == 'X'
    let isFinite := match r.value with
      | .finite .. => true
      | _ => false
    if isHex || !isFinite then
      some ⟨r.value, 0, if cs.any fun c => c == '.' || c == 'p' then none else some 0⟩
    else
      let (width, places) := measure cs
      some ⟨r.value, width, places⟩

/-- A number as a fraction of integers. -/
def ratio : Floating → Int × Nat
  | .finite negative m e =>
    let (num, den) := Binary64.scaled m 1 (-e)
    (if negative then -(num : Int) else num, den)
  | _ => (0, 1)

def ofRatio (num : Int) (den : Nat) : Floating :=
  (Floating.ofRatio .extended (num < 0) num.natAbs den).1

/-- The member of a sequence with a number, which is rounded twice. -/
def member (first step : Floating) (i : Nat) : Floating :=
  let (a, b) := ratio step
  let (c, d) := ratio (ofRatio (a * (i : Int)) b)
  let (n, m) := ratio first
  ofRatio (n * (d : Int) + c * (m : Int)) (m * d)

/-- Whether one number is less than another one. -/
def isLess : Floating → Floating → Bool
  | .infinite s, .infinite t => s && !t
  | .infinite s, _ => s
  | _, .infinite t => !t
  | x, y =>
    let (a, b) := ratio x
    let (c, d) := ratio y
    a * (d : Int) < c * (b : Int)

def isZero : Floating → Bool
  | .finite _ 0 _ => true
  | _ => false

/-- How numbers are written: a text before them and one behind, a layout and a directive. -/
structure Format where
  before : List Char
  layout : Layout
  directive : Char
  behind : List Char

def Format.body (f : Format) (x : Floating) : List Char := f.layout.float .extended f.directive x

def Format.text (f : Format) (x : Floating) : List Char := f.before ++ f.body x ++ f.behind

/-- What is wrong with a format. -/
inductive Misformat
  | none
  | endless
  | unknown (c : Char)
  | tooMany
  deriving DecidableEq, Repr

def Misformat.text (quoted : String) : Misformat → String
  | none => s!"format {quoted} has no % directive"
  | endless => s!"format {quoted} ends in %"
  | unknown c => s!"format {quoted} has unknown %{c} directive"
  | tooMany => s!"format {quoted} has too many % directives"

/-- Text up to a directive; two signs stand for one. -/
def plain : List Char → List Char × List Char
  | '%' :: '%' :: rest =>
    let (front, behind) := plain rest
    ('%' :: front, behind)
  | '%' :: rest => ([], '%' :: rest)
  | c :: rest =>
    let (front, behind) := plain rest
    (c :: front, behind)
  | [] => ([], [])

/-- Reads a format with one directive. -/
def format (s : String) : Except Misformat Format :=
  match plain s.toList with
  | (before, _ :: rest) =>
    let flags := rest.takeWhile "-+#0 '".toList.contains
    let rest := rest.drop flags.length
    let width := rest.takeWhile Char.isDigit
    let rest := rest.drop width.length
    let (precision, rest) :=
      match rest with
      | '.' :: more =>
        let ds := more.takeWhile Char.isDigit
        (some (Decimal.value ds), more.drop ds.length)
      | rest => (none, rest)
    match if rest.head? = some 'L' then rest.tail else rest with
    | [] => .error .endless
    | c :: rest =>
      if !"efgaEFGA".toList.contains c then .error (.unknown c)
      else
        match plain rest with
        | (behind, []) => .ok ⟨before, ⟨flags, Decimal.value width, precision⟩, c, behind⟩
        | _ => .error .tooMany
  | _ => .error .none

/-- The format of numbers without one, with `padded` of one width. -/
def standard (padded : Bool) (first step last : Numeral) : Format :=
  let make (flags : List Char) (width : Nat) (places : Nat) : Format :=
    ⟨[], ⟨flags, width, some places⟩, 'f', []⟩
  match first.places, step.places, last.places with
  | some a, some b, some c =>
    let places := max a b
    if !padded then make [] 0 places
    else
      let firstWidth :=
        first.width + ((places - a : Nat) : Int) + if a = 0 && places != 0 then 1 else 0
      let lastWidth := last.width + (places : Int) - (c : Int)
        + (if c != 0 && places = 0 then -1 else 0) + if c = 0 && places != 0 then 1 else 0
      make ['0'] (max firstWidth lastWidth).toNat places
  | _, _, _ => ⟨[], ⟨[], 0, none⟩, 'g', []⟩

/-- The greatest number of members that are told of a sequence that goes on. -/
def most : Nat := 200000

/-- The texts of the members from the one with number `i` on, and whether there are more of them
than can be told. A member just behind the last one is one of them if it is written like the last
one. -/
def members (f : Format) (first step last : Floating) : Nat → Nat → List (List Char) × Bool
  | 0, _ => ([], true)
  | fuel + 1, i =>
    let x := member first step i
    let isDown := isLess step (.finite false 0 0)
    let isBeyond (y : Floating) : Bool := if isDown then isLess y last else isLess last y
    let next := member first step (i + 1)
    let text := f.text x
    if !isBeyond next then
      let (more, endless) := members f first step last fuel (i + 1)
      (text :: more, endless)
    else
      let readBack := (Floating.read? .extended (f.body next)).filter fun r => r.rest.isEmpty
      let isLast := readBack.any fun r => !isLess r.value last && !isLess last r.value
      if isLast && f.text next != text then ([text, f.text next], false) else ([text], false)

/-- Natural numbers as texts, from one on by a step. -/
def naturals (step last : Nat) : Nat → Nat → List (List Char) × Bool
  | 0, n => ([], n ≤ last)
  | fuel + 1, n =>
    if last < n then ([], false)
    else
      let (more, endless) := naturals step last fuel (n + step)
      (Nat.toDigits 10 n :: more, endless)

end Sequence

open Sequence in
def seq : Body := fun self args => do
  let spec := Spec.ofText "f:s:w" [("format", 'f'), ("separator", 's'), ("equal-width", 'w')]
  -- A negative number is an operand.
  let isNegative (s : String) : Bool :=
    match s.toList with
    | '-' :: c :: _ => c == '.' || c.isDigit
    | _ => false
  let options := args.takeWhile fun s => !isNegative s
  let a ← arguments self { spec with strict := true } 1 options
  let operands := a.operands ++ args.drop options.length
  match operands with
  | [] => misuse self "missing operand" 1
  | _ :: _ :: _ :: x :: _ => misuse self s!"extra operand {← named x}" 1
  | _ => pure ()
  let wanted ← (a.value? 'f').mapM fun s => do
    match format s with
    | .ok f => pure f
    | .error flaw => do
      complain self (flaw.text (← named s))
      quit 1
  if wanted.isSome && a.has 'w' then
    misuse self "format string may not be specified when printing equal width strings" 1
  let separator := ((a.value? 's').getD "\n").toList
  let finish (members : List (List Char) × Bool) : Run Nat := do
    let shown := (members.1.intersperse separator).flatten
    if !shown.isEmpty then put self (shown ++ if members.2 then [] else ['\n'])
    if members.2 then Run.forever
    pure 0
  let plainStep :=
    match operands with
    | [_, s, _] => (digits? s).filter (· != 0)
    | _ => some 1
  match operands.mapM digits?, plainStep, a.has 'w' || wanted.isSome with
  | some ns, some step, false =>
    finish (naturals step (ns.getLastD 0) most (if ns.length = 1 then 1 else ns.headD 1))
  | _, _, _ => do
    let numbers ← operands.zipIdx.mapM fun (s, i) => do
      match numeral? s with
      | some n =>
        match n.value with
        | .nan _ => do
          let what ← named "not-a-number"
          misuse self s!"invalid {what} argument: {← named s}" 1
        | value =>
          if i = 1 && operands.length = 3 && isZero value then
            misuse self s!"invalid Zero increment value: {← named s}" 1
          else pure n
      | none => misuse self s!"invalid floating point argument: {← named s}" 1
    let one : Numeral := ⟨Floating.ofInt .extended 1, 1, some 0⟩
    let (first, step, last) :=
      match numbers with
      | [first, step, last] => (first, step, last)
      | [first, last] => (first, one, last)
      | numbers => (one, one, numbers.headD one)
    let f := wanted.getD (standard (a.has 'w') first step last)
    let isDown := isLess step.value (.finite false 0 0)
    let isEmpty :=
      if isDown then isLess first.value last.value else isLess last.value first.value
    if isEmpty then pure 0 else finish (members f first.value step.value last.value most 0)

end CredoAssistant.Shell.Program
