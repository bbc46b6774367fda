import CredoAssistant.Shell.Arithmetic

/-!
Permissions of files: twelve bits, and changes to them as octal digits or as letters that name whose
permissions change, how, and which.
-/
namespace CredoAssistant.Shell.Mode

/-- All bits of permissions. -/
def all : Nat := 4095

/-- The bits that are in `a` and not in `b`. -/
def without (a b : Nat) : Nat := a &&& (all ^^^ (b &&& all))

/-- Where the value of a change comes from: it is written, it is taken from the permissions of
somebody else, or it lets run what somebody may run already. -/
inductive Kind
  | plain
  | copied
  | runnable
  deriving DecidableEq, Repr

/-- A change: whose bits it touches, none when nobody is named; an operator; and the value, with the
bits that were spelled out. -/
structure Change where
  affected : Nat
  op : Char
  kind : Kind
  value : Nat
  mentioned : Nat
  deriving DecidableEq, Repr

/-- The bits of somebody. -/
def bitsOf (who : Char) : Nat :=
  if who = 'u' then 2496
  else if who = 'g' then 1080
  else if who = 'o' then 519
  else if who = 'a' then all
  else 0

/-- The bits that a letter gives. -/
def valueOf (c : Char) : Nat :=
  if c = 'r' then 292
  else if c = 'w' then 146
  else if c = 'x' then 73
  else if c = 's' then 3072
  else if c = 't' then 512
  else 0

def isOperator (c : Char) : Bool := c == '+' || c == '-' || c == '='

def isOctal (c : Char) : Bool := '0' ≤ c && c ≤ '7'

/-- Reads the changes behind the letters for somebody. -/
def changesOf (affected : Nat) : Nat → List Char → Option (List Change)
  | 0, _ => none
  | _ + 1, [] => some []
  | fuel + 1, op :: rest =>
    if !isOperator op then none
    else
      let digits := rest.takeWhile isOctal
      let letters := rest.takeWhile ['r', 'w', 'x', 'X', 's', 't'].contains
      if !digits.isEmpty then
        let value := Arithmetic.ofDigits 8 digits
        if affected ≠ 0 || digits.length ≠ rest.length || all < value then none
        else some [⟨all, op, .plain, value, all⟩]
      else
        match rest with
        | who :: rest' =>
          if ['u', 'g', 'o'].contains who then do
            let more ← changesOf affected fuel rest'
            let value := bitsOf who &&& 511
            some (⟨affected, op, .copied, value, if affected = 0 then value else affected &&& value⟩
              :: more)
          else do
            let more ← changesOf affected fuel (rest.drop letters.length)
            let value := letters.foldl (fun n c => n ||| valueOf c) 0
            let kind : Kind := if letters.contains 'X' then .runnable else .plain
            some (⟨affected, op, kind, value, if affected = 0 then value else affected &&& value⟩
              :: more)
        | [] => some [⟨affected, op, .plain, 0, 0⟩]

/-- Reads the changes for one list of names. -/
def clause? (cs : List Char) : Option (List Change) :=
  let who := cs.takeWhile ['u', 'g', 'o', 'a'].contains
  let rest := cs.drop who.length
  let affected := who.foldl (fun n c => n ||| bitsOf c) 0
  if rest.isEmpty then none else changesOf affected (rest.length + 1) rest

/-- Reads a mode: octal digits, or changes between commas. -/
def parse? (s : String) : Option (List Change) :=
  let cs := s.toList
  if (cs.head?).any isOctal then
    let value := Arithmetic.ofDigits 8 cs
    if !cs.all isOctal || all < value then none
    else
      let mentioned := if cs.length < 5 then (value &&& 3584) ||| 511 else all
      some [⟨all, '=', .plain, value, mentioned⟩]
  else return (← (s.splitOn ",").mapM fun part => clause? part.toList).flatten

/-- Whether some bits of three have the bit of a letter; then all three have it. -/
def spread (value : Nat) : Nat :=
  let wide (bits : Nat) : Nat := if value &&& bits = 0 then 0 else bits
  value ||| wide 292 ||| wide 146 ||| wide 73

/-- Permissions after a change. Where nobody is named, the mask keeps bits back; directories keep
the bits for whom programs run unless these are spelled out. -/
def applyOne (isDirectory : Bool) (mask : Nat) (mode : Nat) (c : Change) : Nat :=
  let omitted := if isDirectory then without 3072 c.mentioned else 0
  let value :=
    match c.kind with
    | .plain => c.value
    | .copied => spread (c.value &&& mode)
    | .runnable => if isDirectory || mode &&& 73 ≠ 0 then c.value ||| 73 else c.value
  let value := without (value &&& (if c.affected = 0 then without all mask else c.affected)) omitted
  if c.op = '+' then mode ||| value
  else if c.op = '-' then without mode value
  else
    let preserved := (if c.affected = 0 then 0 else without all c.affected) ||| omitted
    (mode &&& preserved) ||| value

def apply (isDirectory : Bool) (mask : Nat) (changes : List Change) (mode : Nat) : Nat :=
  changes.foldl (applyOne isDirectory mask) mode

/-- Permissions in four octal digits or fewer. -/
def octal (mode : Nat) : String := String.ofList (Nat.toDigits 8 mode)

/-- Permissions as nine letters. -/
def letters (mode : Nat) : String :=
  let bit (n : Nat) (c : Char) : Char := if mode &&& n = 0 then '-' else c
  let run (x special : Nat) (both alone : Char) : Char :=
    if mode &&& special = 0 then bit x 'x' else if mode &&& x = 0 then alone else both
  String.ofList
    [bit 256 'r', bit 128 'w', run 64 2048 's' 'S', bit 32 'r', bit 16 'w', run 8 1024 's' 'S',
      bit 4 'r', bit 2 'w', run 1 512 't' 'T']

end CredoAssistant.Shell.Mode
