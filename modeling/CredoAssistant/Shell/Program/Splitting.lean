import CredoAssistant.Shell.Digest
import CredoAssistant.Shell.Program.Common
import CredoAssistant.Shell.Program.Spacing

/-!
Files taken apart into pieces of their own, by sizes, by numbers of lines, or into so many parts.
-/
namespace CredoAssistant.Shell.Program

namespace Splitting

/-- How a file is taken apart: into pieces of so many lines or bytes, or of as many whole lines as
fit into a size; or into so many parts of bytes, of lines, or of lines that are dealt out. -/
inductive Way
  | lines (count : Nat)
  | bytes (size : Nat)
  | fitting (size : Nat)
  | parts (count : Nat)
  | lineParts (count : Nat)
  | dealt (count : Nat)
  deriving DecidableEq, Repr

/-- The number of parts, where it is known beforehand. -/
def Way.parts? : Way → Option Nat
  | .parts n => some n
  | .lineParts n => some n
  | .dealt n => some n
  | _ => none

/-- Whole lines together, as many as fit into a size; longer ones are broken. A last line that is
not ended needs more room than it takes. -/
def fitted (size : Nat) (close : Char) : List (List Char) → List Char → List (List Char)
  | [], current => if current.isEmpty then [] else [current]
  | line :: rest, current =>
    let isOpen := !current.isEmpty && line.getLast? != some close
    if current.length + line.length + isOpen.toNat ≤ size then
      fitted size close rest (current ++ line)
    else
      let before := if current.isEmpty then [] else [current]
      let broken := Digest.pieces size line.length line
      match broken.getLast? with
      | some last => before ++ broken.dropLast ++ fitted size close rest last
      | none => before ++ fitted size close rest []

/-- The places at which the parts of a file end. -/
def ends (length count : Nat) : List Nat :=
  (List.range count).map fun i => (i + 1) * (length / count) + min (i + 1) (length % count)

/-- Takes the lines at the front that start before a place, at which the first line stands
already. -/
def takeBefore (limit : Nat) : Nat → List (List Char) → List Char × Nat × List (List Char)
  | place, [] => ([], place, [])
  | place, line :: rest =>
    if place < limit then
      let (cs, place, left) := takeBefore limit (place + line.length) rest
      (line ++ cs, place, left)
    else ([], place, line :: rest)

/-- The lines of each part; a line belongs to the part in which it starts. -/
def shares : List Nat → Nat → List (List Char) → List (List Char)
  | [], _, _ => []
  | stop :: rest, place, lines =>
    let (cs, place, left) := takeBefore stop place lines
    cs :: shares rest place left

/-- The lines of a text with their ends. -/
def wholeLines (close : Char) (cs : List Char) : List (List Char) :=
  let lines := linesUpTo close cs
  let closed := cs.getLast? == some close
  (lines.zipIdx).map fun (l, i) =>
    if i + 1 = lines.length && !closed then l else l ++ [close]

/-- The pieces of a file. -/
def Way.pieces (w : Way) (close : Char) (cs : List Char) : List (List Char) :=
  match w with
  | .lines n =>
    (Digest.pieces n cs.length (wholeLines close cs)).map List.flatten
  | .bytes n => Digest.pieces n cs.length cs
  | .fitting n => fitted n close (wholeLines close cs) []
  | .parts n =>
    let stops := ends cs.length n
    (stops.zip (0 :: stops)).map fun (stop, start) => (cs.drop start).take (stop - start)
  | .lineParts n => shares (ends cs.length n) 0 (wholeLines close cs)
  | .dealt n =>
    let lines := (wholeLines close cs).zipIdx
    (List.range n).map fun i =>
      ((lines.filter fun l => l.2 % n = i).map Prod.fst).flatten

/-- How the files are named: what stands before and behind, the signs that count them, the number
from which they count, how many signs there are, and whether there may be more. -/
structure Naming where
  base : String
  ending : String
  signs : List Char
  start : Nat
  length : Nat
  widens : Bool

/-- A number in the signs, of which there are so many. -/
def Naming.inSigns (n : Naming) (length value : Nat) : String :=
  let size := n.signs.length
  String.ofList ((List.range length).map fun i =>
    n.signs.getD (value / size ^ (length - 1 - i) % size) 'a')

/-- The name of the file with a number. When the signs run out that do not start with the last one,
the last one moves to the front and there is one sign more. -/
def Naming.name? (n : Naming) : Nat → Nat → String → Nat → Option String
  | 0, _, _, _ => none
  | fuel + 1, length, front, value =>
    let size := n.signs.length
    let room := if n.widens then (size - 1) * size ^ (length - 1) else size ^ length
    if value < room then some (n.base ++ front ++ n.inSigns length value ++ n.ending)
    else if n.widens then
      n.name? fuel (length + 1) (front.push (n.signs.getLastD 'z')) (value - room)
    else none

/-- A number that an option gives, which is at least one. -/
def amount (self what letters s : String) : Run Nat := do
  let refuse : Run Nat := do
    complain self s!"{what}: {← named s}"
    quit 1
  match Quantity.read? letters (-Quantity.mostInteger - 1) Quantity.mostInteger s with
  | some q => if q.trails || q.value < 1 then refuse else pure q.value.toNat
  | none => refuse

/-- Reads into how many parts a file is taken apart, and which of them alone is shown, if one is. -/
def partsOf (self s : String) : Run (Way × Option Nat) := do
  let s := String.ofList (s.toList.dropWhile Arithmetic.isSpace)
  let (make, text) : (Nat → Way) × String :=
    if s.startsWith "r/" then (.dealt, (s.drop 2).toString)
    else if s.startsWith "l/" then (.lineParts, (s.drop 2).toString)
    else (.parts, s)
  let chunks := "invalid number of chunks"
  match text.splitOn "/" with
  | first :: more@(_ :: _) =>
    match (Quantity.read? "" (-Quantity.mostInteger) Quantity.mostInteger first).filter
        fun q => !q.trails with
    | none => do
      let _ ← amount self chunks "" text
      quit 1
    | some q => do
      let count ← amount self chunks "" ("/".intercalate more)
      if q.value < 1 || (count : Int) < q.value then do
        complain self s!"invalid chunk number: {← named first}"
        quit 1
      else pure (make count, some q.value.toNat)
  | _ => do return (make (← amount self chunks "" text), none)

/-- Writes the pieces of a file. -/
def writePieces (self : String) (n : Naming) (tells : Bool) (input : Option Nat)
    (pieces : List (List Char)) : Run Unit :=
  pieces.zipIdx.forM fun (cs, i) => do
    match n.name? 64 n.length "" (n.start + i) with
    | none => do
      complain self "output file suffixes exhausted"
      quit 1
    | some name => do
      if input.isSome && (← nodeOf name) == input then do
        complain self s!"{← shellName true name} would overwrite input; aborting"
        quit 1
      if tells then putText self s!"creating file {← shellName true name}\n"
      match ← writeFile name cs with
      | .ok () => pure ()
      | .error fault => do
        cannotRead self name fault
        quit 1

end Splitting

open Splitting in
def split : Body := fun self args => do
  let a ← arguments self
    (.ofText "\x07:C:a:b:del:n:t:ux\x01;\x02;\x03\x04:\x05:\x06:"
      [("bytes", 'b'), ("lines", 'l'), ("line-bytes", 'C'), ("number", 'n'),
        ("elide-empty-files", 'e'), ("unbuffered", 'u'), ("suffix-length", 'a'),
        ("additional-suffix", '\x04'), ("numeric-suffixes", '\x01'), ("hex-suffixes", '\x02'),
        ("filter", '\x05'), ("verbose", '\x03'), ("separator", 't'), ("-io-blksize", '\x06')])
    1 (withBareDigits '\x07' "" args)
  let (ways, part, close, length, naming) ← a.options.foldlM
    (fun (acc : List Way × Option Nat × Option Char × Nat × (List Char × Option String))
        (c, v) => do
      let (ways, part, close, length, naming) := acc
      let single : Run Unit := do
        if !ways.isEmpty || (c != '\x07' && a.has '\x07') then
          misuse self "cannot split in more than one way" 1
      match c with
      | 'l' => do
        single
        pure ([.lines (← amount self "invalid number of lines" "" v)], part, close, length, naming)
      | 'b' => do
        single
        let n ← amount self "invalid number of bytes" "bEGKkMmPQRTYZ0" v
        pure ([.bytes n], part, close, length, naming)
      | 'C' => do
        single
        let n ← amount self "invalid number of lines" "bEGKkMmPQRTYZ0" v
        pure ([.fitting n], part, close, length, naming)
      | 'n' => do
        single
        let (way, part) ← partsOf self v
        pure ([way], part, close, length, naming)
      | 'a' => do
        let n ← integer self "invalid suffix length" "" 0 Quantity.mostInteger v
        pure (ways, part, close, n.toNat, naming)
      | 't' => do
        let sign ←
          match v.toList with
          | [] => do
            complain self "empty record separator"
            quit 1
          | [c] => pure c
          | _ =>
            if v = "\\0" then pure '\x00'
            else do
              complain self s!"multi-character separator {← named v}"
              quit 1
        if close.any (· != sign) then do
          complain self "multiple separator characters specified"
          quit 1
        pure (ways, part, some sign, length, naming)
      | '\x04' => do
        if v.toList.contains '/' then
          misuse self s!"invalid suffix {← named v}, contains directory separator" 1
        pure acc
      | '\x07' => do
        single
        pure (ways, part, close, length, naming)
      | _ =>
        if "dx\x01\x02".toList.contains c then do
          let isHex := c = 'x' || c = '\x02'
          let signs := (if isHex then "0123456789abcdef" else "0123456789").toList
          if !v.toList.all signs.contains then do
            let kind := if isHex then "hexadecimal" else "numerical"
            misuse self s!"{← named v}: invalid start value for {kind} suffix" 1
          let zeros := v.toList.takeWhile (· == '0')
          let start := String.ofList (v.toList.drop (min zeros.length (v.length - 1)))
          pure (ways, part, close, length, (signs, if v = "" then naming.2 else some start))
        else pure acc)
    ([], none, none, 0, ("abcdefghijklmnopqrstuvwxyz".toList, none))
  let old := (a.value? '\x07').map fun v => Way.lines (Decimal.value v.toList)
  let way : Way := (ways.head?.orElse fun _ => old).getD (.lines 1000)
  if way = .lines 0 then misuse self ("invalid number of lines: " ++ (← named "0")) 1
  let (signs, start) := naming
  let startValue := (start.getD "0").toList.foldl
    (fun n c => n * signs.length + (signs.idxOf? c).getD 0) 0
  let needed :=
    match way.parts? with
    | none => 0
    | some n =>
      let last := n - 1 + if start.isSome && startValue < n then startValue else 0
      (Nat.toDigits signs.length last).length
  if length != 0 && length < needed then do
    complain self s!"the suffix length needs to be at least {needed}"
    quit 1
  let widens := start.isNone && way.parts?.isNone && length = 0
  let length := if length = 0 then max 2 needed else length
  match a.operands[2]? with
  | some x => misuse self s!"extra operand {← named x}" 1
  | none => pure ()
  if start.any fun s => length < s.length then
    misuse self "numerical suffix start value is too large for the suffix length" 1
  let file := a.operands.headD "-"
  match ← contents file with
  | .error fault => do
    if file = "-" || fault = .isDirectory then cannotRead self file fault
    else complain self s!"cannot open {← shellName true file} for reading: {fault.reason}"
    pure 1
  | .ok cs => do
    let pieces := way.pieces (close.getD '\n') cs
    let pieces := if a.has 'e' then pieces.filter fun p => !p.isEmpty else pieces
    match part with
    | some k => do
      put self ((way.pieces (close.getD '\n') cs).getD (k - 1) [])
      pure 0
    | none => do
      let n : Naming :=
        { base := a.operands.getD 1 "x", ending := (a.value? '\x04').getD "", signs
          start := startValue, length, widens }
      writePieces self n (a.has '\x03') (← nodeOf file) pieces
      pure 0

end CredoAssistant.Shell.Program
