import CredoAssistant.Shell.Digest
import CredoAssistant.Shell.Program.Common

/-!
Bytes written in digits of some base, so that texts can hold them, and the programs that write and
read them so.
-/
namespace CredoAssistant.Shell

/-- How bytes are written: their bits in digits of some size, which may be filled up to whole
groups, may start with the last bit of each byte, and of which some stand for nothing anywhere; or
four bytes in five digits. -/
inductive Encoding
  | bits (digits : List Char) (size : Nat) (group : Nat) (fills : Bool) (reversed : Bool)
    (strangers : List Char)
  | z85
  deriving Repr

namespace Encoding

def capitals : String := "ABCDEFGHIJKLMNOPQRSTUVWXYZ"
def smallLetters : String := "abcdefghijklmnopqrstuvwxyz"
def tenDigits : String := "0123456789"

def base64 : Encoding :=
  .bits (capitals ++ smallLetters ++ tenDigits ++ "+/").toList 6 4 true false []

def base64url : Encoding :=
  .bits (capitals ++ smallLetters ++ tenDigits ++ "-_").toList 6 4 true false ['+', '/']

def base32 : Encoding := .bits (capitals ++ "234567").toList 5 8 true false []

def base32hex : Encoding :=
  .bits (tenDigits ++ "ABCDEFGHIJKLMNOPQRSTUV").toList 5 8 true false []

def base16 : Encoding := .bits (tenDigits ++ "ABCDEF").toList 4 2 false false []

def base2 (reversed : Bool) : Encoding := .bits ['0', '1'] 1 8 false reversed []

/-- The digits of base eighty-five. -/
def digits85 : List Char :=
  (tenDigits ++ smallLetters ++ capitals ++ ".-:+=^!/*?&<>()[]\x7b\x7d@%$#").toList

/-- The digits of an encoding. -/
def digits : Encoding → List Char
  | bits digits .. => digits
  | z85 => digits85

/-- The digits of a number, of which there are so many. -/
def inDigits (alphabet : List Char) (count n : Nat) : List Char :=
  let base := alphabet.length
  (List.range count).map fun i => alphabet.getD (n / base ^ (count - 1 - i) % base) '0'

/-- The number that some digits stand for. -/
def value (alphabet ds : List Char) : Nat :=
  ds.foldl (fun n c => n * alphabet.length + (alphabet.idxOf? c).getD 0) 0

/-- Bytes in digits, unless a whole number of them is missing. -/
def encode? (e : Encoding) (bytes : List UInt8) : Option (List Char) :=
  match e with
  | z85 =>
    if bytes.length % 4 = 0 then
      some ((Digest.pieces 4 bytes.length bytes).flatMap fun p =>
        inDigits digits85 5 (Digest.ofBigBytes p))
    else none
  | bits alphabet size group fills reversed _ =>
    let written (p : List UInt8) : List Char :=
      let count := (p.length * 8 + size - 1) / size
      let n := Digest.ofBigBytes p * 2 ^ (count * size - p.length * 8)
      let ds := inDigits alphabet count n
      let ds := if reversed then ds.reverse else ds
      ds ++ if fills then List.replicate (group - count) '=' else []
    some ((Digest.pieces (group * size / 8) bytes.length bytes).flatMap written)

/-- The bytes of a group of digits, and whether it is right. -/
def decodeGroup (e : Encoding) (g : List Char) : List UInt8 × Bool :=
  let known := g.takeWhile e.digits.contains
  match e with
  | z85 =>
    let n := value digits85 g
    if known.length = 5 && n < 2 ^ 32 then (Digest.bigBytes 4 n, true) else ([], false)
  | bits alphabet size group fills reversed _ =>
    let rest := g.drop known.length
    let spare := known.length * size % 8
    let isRight := !known.isEmpty && g.length == group && spare < size
      && rest.all (· == '=') && (fills || rest.isEmpty)
    let count := known.length * size / 8
    let ds := if reversed then known.reverse else known
    let bytes := Digest.bigBytes count (value alphabet ds / 2 ^ spare)
    (if size = 5 && g.length < group then [] else bytes, isRight)

/-- How many digits a group has. -/
def groupSize : Encoding → Nat
  | bits _ _ group .. => group
  | z85 => 5

/-- The bytes of groups of digits up to the first wrong one, and whether all are right. -/
def decodeGroups (e : Encoding) : List (List Char) → List UInt8 × Bool
  | [] => ([], true)
  | g :: rest =>
    match e.decodeGroup g with
    | (bytes, false) => (bytes, false)
    | (bytes, true) =>
      let (more, isRight) := e.decodeGroups rest
      (bytes ++ more, isRight)

/-- The bytes of digits, between which lines may end. -/
def decode (e : Encoding) (text : List Char) : List UInt8 × Bool :=
  let ds := text.filter (· != '\n')
  let strange :=
    match e with
    | bits _ _ _ _ _ strangers => strangers
    | z85 => []
  if ds.any strange.contains then ([], false)
  else e.decodeGroups (Digest.pieces e.groupSize (ds.length + 1) ds)

end Encoding

end CredoAssistant.Shell

namespace CredoAssistant.Shell.Program

/-- The encodings by the names of their options, each with a letter for it. -/
def encodings : List (String × Char × Encoding) :=
  [("base64", '\x01', .base64), ("base64url", '\x02', .base64url), ("base32", '\x03', .base32),
    ("base32hex", '\x04', .base32hex), ("base16", '\x05', .base16),
    ("base2msbf", '\x06', .base2 false), ("base2lsbf", '\x07', .base2 true), ("z85", '\x08', .z85)]

/-- Lines of a width; without one there is a single line that stays open. -/
def wrapped (width : Nat) (cs : List Char) : List Char :=
  if width = 0 then cs else unlines (Digest.pieces width cs.length cs)

/-- Encodes or decodes a file. Without a fixed encoding an option names it. -/
def encodeWith (fixed : Option Encoding) : Body := fun self args => do
  let known := if fixed.isSome then [] else encodings
  let letters := String.ofList (known.map fun e => e.2.1)
  let a ← arguments self
    (.ofText ("diw:" ++ letters)
      ((known.map fun e => (e.1, e.2.1))
        ++ [("decode", 'd'), ("ignore-garbage", 'i'), ("wrap", 'w')]))
    1 args
  let widths ← (a.options.filter fun o => o.1 == 'w').mapM fun o => do
    match Quantity.read? "" (-Quantity.mostInteger) Quantity.mostInteger o.2 with
    | some q =>
      if q.trails || q.value < 0 then do
        complain self s!"invalid wrap size: {← named o.2}"
        quit 1
      else pure (if q.exceeds then 0 else q.value.toNat)
    | none => do
      complain self s!"invalid wrap size: {← named o.2}"
      quit 1
  let chosen := lastOf a (known.map fun e => e.2.1)
  let encoding ←
    match fixed.orElse fun _ => chosen.bind fun c =>
      (known.find? fun e => e.2.1 == c).map fun e => e.2.2 with
    | some e => pure e
    | none => misuse self "missing encoding type" 1
  match a.operands[1]? with
  | some x => misuse self s!"extra operand {← named x}" 1
  | none => pure ()
  let file := a.operands.headD "-"
  match ← contents file with
  | .error fault => do
    let isRead := fault = .isDirectory || (file = "-" && fault = .badStream)
    let what ← if isRead then pure "read error" else shellName false file
    complain self s!"{what}: {fault.reason}"
    pure 1
  | .ok cs =>
    if a.has 'd' then do
      let isKnown (c : Char) : Bool := encoding.digits.contains c || c == '='
      let (bytes, isRight) := encoding.decode (if a.has 'i' then cs.filter isKnown else cs)
      put self (Octets.ofBytes bytes)
      if isRight then pure 0
      else do
        complain self "invalid input"
        pure 1
    else
      match encoding.encode? (Octets.toBytes cs) with
      | some text => do
        put self (wrapped (widths.getLast?.getD 76) text)
        pure 0
      | none => do
        complain self "invalid input (length must be multiple of 4 characters)"
        pure 1

end CredoAssistant.Shell.Program
