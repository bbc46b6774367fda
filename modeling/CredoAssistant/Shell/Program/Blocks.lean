import CredoAssistant.Shell.Digest
import CredoAssistant.Shell.Program.Common

/-!
Bytes copied in blocks of a size, with conversions on the way.
-/
namespace CredoAssistant.Shell.Program

namespace Blocks

/-- The value of a number: factors between crosses, each with a unit. -/
def value? (s : String) : Option (Int × Bool) :=
  let factor (t : String) : Option (Int × Bool) :=
    let bytes := if t.endsWith "B" then (t.dropEnd 1).toString else t
    let isPlain := bytes.toList.getLast?.any Char.isDigit
    let text := if isPlain then bytes else t
    match Quantity.read? "bcEGkKMPQRTwYZ0" 0 Quantity.mostNatural text with
    | some q => if q.trails then none else some (q.value, q.exceeds)
    | none => none
  (s.splitOn "x").foldlM
    (fun (n, exceeds) t => do
      let (v, e) ← factor t
      some (n * v, exceeds || e))
    ((1 : Int), false)

/-- How many full, partial and shortened records there were. -/
structure Records where
  full : Nat
  part : Nat

def Records.ofPieces (size : Nat) (pieces : List (List Char)) : Records :=
  let full := (pieces.filter fun p => p.length == size).length
  ⟨full, pieces.length - full⟩

/-- Exchanges neighbouring bytes. -/
def swapped : List Char → List Char
  | a :: b :: rest => b :: a :: swapped rest
  | cs => cs

/-- Lines as records of a size, filled up with blanks; how many were shortened. -/
def blocked (size : Nat) (cs : List Char) : List Char × Nat :=
  let lines := linesUpTo '\n' cs
  let shown := lines.flatMap fun l => l.take size ++ List.replicate (size - l.length) ' '
  (shown, (lines.filter fun l => size < l.length).length)

/-- Records of a size as lines without the blanks at their ends. -/
def unblocked (size : Nat) (cs : List Char) : List Char :=
  unlines ((Digest.pieces size cs.length cs).map fun r => (r.reverse.dropWhile (· == ' ')).reverse)

/-- A number of bytes with a unit of thousands or of powers of two. -/
def scaled (base : Nat) (n : Nat) : String :=
  let units := if base = 1000 then "kMGTPE".toList else "KMGTPE".toList
  let rec go : Nat → Nat → String
    | 0, _ => ""
    | fuel + 1, k =>
      let unit := base ^ (k + 1)
      let tenths := (n * 10 + unit / 2) / unit
      let letter := units.getD k 'E'
      let behind := if base = 1000 then "B" else "iB"
      if tenths < 100 then s!"{tenths / 10}.{tenths % 10} {letter}{behind}"
      else
        let whole := (n + unit / 2) / unit
        if whole < base then s!"{whole} {letter}{behind}" else go fuel (k + 1)
  go 6 0

/-- How much was copied. -/
def summary (n : Nat) : String :=
  let bytes := if n = 1 then "1 byte" else s!"{n} bytes"
  let scales := if n < 1000 then "" else if n < 1024 then s!" ({scaled 1000 n})"
    else s!" ({scaled 1000 n}, {scaled 1024 n})"
  s!"{bytes}{scales} copied, 0.0001 s, {scaled 1000 (n * 10000)}/s"

/-- The names of conversions, of flags and of the levels of messages. -/
def conversions : List String :=
  ["ascii", "block", "ebcdic", "excl", "fdatasync", "fsync", "ibm", "lcase", "nocreat", "noerror",
    "notrunc", "sparse", "swab", "sync", "ucase", "unblock"]

def flags : List String :=
  ["append", "binary", "cio", "count_bytes", "direct", "directory", "dsync", "fullblock", "noatime",
    "nocache", "noctty", "nofollow", "nolinks", "nonblock", "oflag", "seek_bytes", "skip_bytes",
    "sync", "text"]

def levels : List String := ["none", "noxfer", "progress"]

/-- Sizes and places, as operands give them; `inBytes` names those that count single bytes. -/
structure Plan where
  input : Option String
  output : Option String
  inSize : Option Nat
  outSize : Option Nat
  both : Option Nat
  convSize : Nat
  skip : Nat
  seek : Nat
  count : Option Nat
  inBytes : List String
  conv : List String
  status : String

/-- Reads a list of words that commas keep apart; those that are not known are complained about. -/
def wordsOf (self what : String) (known : List String) (text : String) : Run (List String) := do
  let words := text.splitOn ","
  match words.find? fun w => !known.contains w with
  | some w => misuse self s!"{what}: {← named w}" 1
  | none => pure words

/-- Reads an operand. -/
def operand (self : String) (p : Plan) (text : String) : Run Plan := do
  let name := String.ofList (text.toList.takeWhile (· != '='))
  let v := String.ofList (text.toList.drop (name.length + 1))
  let unknown : Run Plan := do misuse self s!"unrecognized operand {← shellName true text}" 1
  let number (low : Int) : Run Nat := do
    let refuse (reason : String) : Run Nat := do
      complain self s!"invalid number: {← shellName true v}{reason}"
      quit 1
    match value? v with
    | none => refuse ""
    | some (n, exceeds) =>
      if exceeds || Quantity.mostInteger < n then refuse ": Value too large for defined data type"
      else if n < low then refuse ""
      else pure n.toNat
  let hasB := v.toList.contains 'B'
  let marked (p : Plan) : Plan :=
    let key := if name = "iseek" then "skip" else if name = "oseek" then "seek" else name
    if hasB then { p with inBytes := key :: p.inBytes } else p
  if !text.toList.contains '=' then unknown
  else
    match name with
    | "if" => pure { p with input := some v }
    | "of" => pure { p with output := some v }
    | "conv" => do
      let words ← wordsOf self "invalid conversion" conversions v
      pure { p with conv := p.conv ++ words }
    | "iflag" => do
      let words ← wordsOf self "invalid input flag" flags v
      let given := words.filterMap fun w =>
        if w = "skip_bytes" then some "skip" else if w = "count_bytes" then some "count" else none
      pure { p with inBytes := p.inBytes ++ given }
    | "oflag" => do
      let words ← wordsOf self "invalid output flag" flags v
      let given := words.filterMap fun w =>
        if w = "seek_bytes" then some "seek" else if w = "append" then some "append" else none
      pure { p with inBytes := p.inBytes ++ given }
    | "status" => do
      let words ← wordsOf self "invalid status level" levels v
      pure { p with status := words.getLastD "" }
    | "ibs" => do pure { p with inSize := some (← number 1) }
    | "obs" => do pure { p with outSize := some (← number 1) }
    | "bs" => do pure { p with both := some (← number 1) }
    | "cbs" => do pure { p with convSize := ← number 1 }
    | "skip" => do pure (marked { p with skip := ← number 0 })
    | "iseek" => do pure (marked { p with skip := ← number 0 })
    | "seek" => do pure (marked { p with seek := ← number 0 })
    | "oseek" => do pure (marked { p with seek := ← number 0 })
    | "count" => do pure (marked { p with count := some (← number 0) })
    | _ => unknown

/-- Conversions that cannot be combined. -/
def rivals : List (String × String) :=
  [("ascii", "ebcdic"), ("block", "unblock"), ("lcase", "ucase"), ("excl", "nocreat")]

/-- The bytes that are copied in blocks of a size, and how they came in and go out. -/
def convert (p : Plan) (inSize outSize : Nat) (cs : List Char) :
    List Char × Records × Records × Nat :=
  let pieces := Digest.pieces inSize cs.length cs
  let records := Records.ofPieces inSize pieces
  let has (c : String) : Bool := p.conv.contains c
  let filler := if has "block" || has "unblock" then ' ' else '\x00'
  let pieces :=
    if has "sync" then
      pieces.map fun b => b ++ List.replicate (inSize - b.length) filler
    else pieces
  let isDirect :=
    p.both.isSome && !p.conv.any ["ucase", "lcase", "swab", "block", "unblock"].contains
  let all := pieces.flatten
  let all :=
    if has "ucase" then all.map Char.toUpper else if has "lcase" then all.map Char.toLower else all
  let all := if has "swab" then swapped all else all
  let (all, short) :=
    if p.convSize = 0 then (all, 0)
    else if has "block" then blocked p.convSize all
    else if has "unblock" then (unblocked p.convSize all, 0)
    else (all, 0)
  let out :=
    if isDirect then Records.ofPieces inSize pieces
    else Records.ofPieces outSize (Digest.pieces outSize all.length all)
  (all, records, out, short)

end Blocks

open Blocks in
def dd : Body := fun self args => do
  let operands ←
    match readArguments (.ofText "" []) (args.length + 1) args with
    | .ok a => pure a.operands
    | .error message => misuse self message 1
  let p ← operands.foldlM (operand self)
    ⟨none, none, none, none, none, 0, 0, 0, none, [], [], ""⟩
  match rivals.find? fun r => p.conv.contains r.1 && p.conv.contains r.2 with
  | some (a, b) => do
    complain self s!"cannot combine {a} and {b}"
    quit 1
  | none => pure ()
  let inSize := (p.both.orElse fun _ => p.inSize).getD 512
  let outSize := (p.both.orElse fun _ => p.outSize).getD 512
  let unit (name : String) (size : Nat) : Nat := if p.inBytes.contains name then 1 else size
  let refuse (file : String) (fault : Fault) : Run Unit := do
    complain self s!"failed to open {← shellName true file}: {fault.reason}"
    quit 1
  let inId ←
    match p.input with
    | none => pure none
    | some file =>
      match ← Run.openFile .read file with
      | .ok h => do pure (some (← Run.newHandle h))
      | .error fault => do
        refuse file fault
        pure none
  let outId ←
    match p.output with
    | none => pure none
    | some file => do
      let found ← Run.node true file
      if p.conv.contains "nocreat" then
        match found with
        | .error fault => refuse file fault
        | .ok _ => pure ()
      if p.conv.contains "excl" && found.toOption.isSome then refuse file .occupied
      match ← Run.openFile .readWrite file with
      | .ok h => do pure (some (← Run.newHandle { h with writes := true }))
      | .error fault => do
        refuse file fault
        pure none
  let start := p.seek * unit "seek" outSize
  match outId with
  | none => pure ()
  | some id => do
    match Entries.get? id (← Run.getSystem).handles with
    | some h =>
      match h.channel with
      | .file n => do
        let old := (← Run.disk).bytes n
        let appends := p.inBytes.contains "append"
        if !p.conv.contains "notrunc" then
          let new := old.take start ++ List.replicate (start - old.length) 0
          Run.changeDisk fun now d => d.write now n new
        Run.setHandle id { h with offset := start, appends }
      | _ => pure ()
    | none => pure ()
  let streams := (← get).streams
  match inId with
  | some id => Run.connect 0 id
  | none => pure ()
  let input ← shellName true (p.input.getD "standard input")
  let source : Except Fault (List Char) ← do
    match ← Run.handle? 0 with
    | none => pure (.error .badStream)
    | some (_, h) => do
      if (← Run.streamNode h).isDirectory then pure (.error .isDirectory)
      else if !h.reads then pure (.error .badStream)
      else do pure (.ok (← Run.available 0))
  let tell (records out : Records) (short bytes : Nat) : Run Unit := do
    if p.status = "none" then pure ()
    else do
      Run.say 2 s!"{records.full}+{records.part} records in\n{out.full}+{out.part} records out\n"
      if short = 1 then Run.say 2 "1 truncated record\n"
      else if 1 < short then Run.say 2 s!"{short} truncated records\n"
      if p.status != "noxfer" then Run.say 2 (summary bytes ++ "\n")
  match source with
  | .error fault => do
    modify fun m => { m with streams }
    complain self s!"error reading {input}: {fault.reason}"
    if fault = .badStream then complain self s!"closing input file {input}: {fault.reason}"
    else tell ⟨0, 0⟩ ⟨0, 0⟩ 0 0
    pure 1
  | .ok cs => do
    let skipped := p.skip * unit "skip" inSize
    let isSource := (← Run.handle? 0).any fun (_, h) =>
      match h.channel with
      | .file _ => true
      | .pipe _ => true
      | _ => false
    if isSource && cs.length < skipped && p.status != "none" then do
      let name ← if p.input.isSome then shellName false (p.input.getD "") else pure input
      complain self s!"{name}: cannot skip to specified offset"
    let left := cs.drop skipped
    let taken := p.count.elim left fun n => left.take (n * unit "count" inSize)
    Run.consume 0 (skipped + taken.length)
    modify fun m => { m with streams }
    let (all, records, out, short) := convert p inSize outSize taken
    let done ←
      match outId with
      | some id => writeTo id all
      | none => if all.isEmpty then pure true else Run.write 1 all
    if !done then do
      let fault ← if outId.isSome then pure Fault.full else outputFault
      let output ← shellName true (p.output.getD "standard output")
      complain self s!"error writing {output}: {fault.reason}"
      let isClosed := outId.isNone && (← Run.handle? 1).isNone
      if isClosed then do
        complain self s!"closing output file {output}: {fault.reason}"
        quit 1
      tell (if records.full = 0 then records else ⟨1, 0⟩) ⟨0, 0⟩ 0 0
      pure 1
    else if outId.isNone && (← Run.handle? 1).isNone then do
      complain self s!"closing output file 'standard output': {Fault.badStream.reason}"
      pure 1
    else do
      tell records out short all.length
      pure 0

end CredoAssistant.Shell.Program
