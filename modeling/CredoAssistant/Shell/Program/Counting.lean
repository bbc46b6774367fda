import CredoAssistant.Shell.Pattern
import CredoAssistant.Shell.Program.Common
import CredoAssistant.Terminal.Width

/-!
How much is in files: lines, words, characters, bytes, and the length of the longest line.
-/
namespace CredoAssistant.Shell.Program

/-- What a text counts. -/
structure Counts where
  lines : Nat
  words : Nat
  characters : Nat
  bytes : Nat
  longest : Nat
  deriving DecidableEq, Repr

namespace Counts

def zero : Counts := ⟨0, 0, 0, 0, 0⟩

/-- The counts of two texts together. -/
def add (a b : Counts) : Counts :=
  ⟨a.lines + b.lines, a.words + b.words, a.characters + b.characters, a.bytes + b.bytes,
    max a.longest b.longest⟩

/-- Counts so far, whether a word is open, and how far the line goes. -/
structure Progress where
  counts : Counts
  inWord : Bool
  column : Nat

/-- Spaces that keep words together in a layout, and still count as spaces. -/
def isFixedSpace (c : Char) : Bool := "\u00a0\u2007\u202f\u2060".toList.contains c

/-- Goes on by a character. Bytes that belong to none do not count as one. -/
def step (utf8 : Bool) (p : Progress) (c : Char) : Progress :=
  let counts := { p.counts with characters := p.counts.characters + 1 }
  let closed : Progress :=
    ⟨{ counts with longest := max counts.longest p.column }, false, 0⟩
  if utf8 && Octets.firstApart ≤ c.toNat then p
  else if c = '\n' then
    { closed with counts := { closed.counts with lines := closed.counts.lines + 1 } }
  else if c = '\r' ∨ c = '\x0c' then closed
  else if c = '\t' then ⟨counts, false, p.column + 8 - p.column % 8⟩
  else if c = ' ' then ⟨counts, false, p.column + 1⟩
  else if c = '\x0b' then ⟨counts, false, p.column⟩
  else if !Member.inClass utf8 "print" c then { p with counts }
  else
    let column := p.column + Terminal.width c
    if Member.inClass utf8 "space" c || (utf8 && isFixedSpace c) then ⟨counts, false, column⟩
    else
      ⟨{ counts with words := if p.inWord then counts.words else counts.words + 1 }, true, column⟩

/-- What a text of bytes counts. -/
def ofText (utf8 : Bool) (cs : List Char) : Counts :=
  let p := (charactersIn utf8 cs).foldl (step utf8) ⟨zero, false, 0⟩
  { p.counts with
    bytes := cs.length
    characters := if utf8 then p.counts.characters else cs.length
    longest := max p.counts.longest p.column }

end Counts

/-- The counts in the order in which they are shown, each with the letter that asks for it. -/
def countColumns : List (Char × (Counts → Nat)) :=
  [('l', fun c => c.lines), ('w', fun c => c.words), ('m', fun c => c.characters),
    ('c', fun c => c.bytes), ('L', fun c => c.longest)]

/-- A row of counts, set to a width, with a name behind it. -/
def countRow (width : Nat) (columns : List (Counts → Nat)) (name : String) (c : Counts) : String :=
  let cell (n : Nat) : String :=
    let ds := toString n
    String.ofList (List.replicate (width - ds.length) ' ') ++ ds
  let behind := if name = "" then "" else " " ++ name
  " ".intercalate (columns.map fun f => cell (f c)) ++ behind ++ "\n"

/-- The width that holds the sizes of all files, and seven when a size is not known before. -/
def countWidth (files : List String) : Run Nat := do
  let sizes ← files.mapM fun file => do
    let node : Option Inode ←
      if file = "-" then
        match ← Run.handle? 0 with
        | some (_, h) => do pure (some (← Run.streamNode h))
        | none => pure none
      else do pure ((← Run.inode true file).toOption)
    match node with
    | some i => pure (if i.isFile then (i.size, false) else (0, true))
    | none => pure (0, false)
  let least := if sizes.any Prod.snd then 7 else 1
  pure (max least (toString (sizes.map Prod.fst).sum).length)

/-- The names in a text that null characters end, or a complaint about the text. -/
def namesFrom (self file : String) : Run (List String) := do
  match ← contents file with
  | .ok cs => pure ((linesUpTo '\x00' cs).map String.ofList)
  | .error fault => do
    complain self s!"cannot open {← shellName true file} for reading: {fault.reason}"
    quit 1

/-- When a row for all files together is shown. -/
inductive TotalRow
  | several
  | always
  | only
  | never
  deriving DecidableEq, Repr

def wc : Body := fun self args => do
  let a ← arguments self
    (.ofText "clmwL\x01:\x02:"
      [("bytes", 'c'), ("lines", 'l'), ("chars", 'm'), ("words", 'w'), ("max-line-length", 'L'),
        ("files0-from", '\x01'), ("total", '\x02')])
    1 args
  let utf8 ← usesUtf8
  let total ←
    match a.value? '\x02' with
    | some v =>
      choice self "--total" v
        [("auto", .several), ("always", .always), ("only", .only), ("never", .never)]
    | none => pure TotalRow.several
  let asked := countColumns.filter fun c => a.has c.1
  let chosen :=
    if asked.isEmpty then countColumns.filter fun c => "lwc".toList.contains c.1 else asked
  let columns := chosen.map Prod.snd
  let source? := a.value? '\x01'
  if source?.isSome && !a.operands.isEmpty then do
    let first := a.operands.headD ""
    complain self s!"extra operand {← shellName true first}"
    Run.say 2 "file operands cannot be combined with --files0-from\n"
    hint self 1
  let files ←
    match source? with
    | some source => namesFrom self source
    | none => pure (inputs a)
  let width ←
    if total == .only || source? == some "-" || (files.length = 1 && columns.length = 1) then pure 1
    else countWidth files
  let row (name : String) (c : Counts) : Run Unit := putText self (countRow width columns name c)
  let source := source?.getD ""
  let (sum, failed) ← files.zipIdx.foldlM
    (fun (sum, failed) (file, i) => do
      let isNamed := !(file == "-" && a.operands.isEmpty)
      let tell (c : Counts) : Run Unit :=
        if total == .only then pure () else row (if isNamed then file else "") c
      if file = "" then do
        let place ← if source?.isSome then
            do pure ((← shellName false source) ++ s!":{i + 1}: ")
          else pure ""
        complain self (place ++ "invalid zero-length file name")
        pure (sum, true)
      else if source == "-" && file == "-" then do
        let name ← shellName true file
        complain self s!"when reading file names from stdin, no file name of {name} allowed"
        pure (sum, true)
      else
        match ← contents file with
        | .ok cs => do
          let c := Counts.ofText utf8 cs
          tell c
          pure (Counts.add sum c, failed)
        | .error fault => do
          cannotRead self (if isNamed then file else "standard input") fault
          if fault = .isDirectory ∨ fault = .badStream then tell .zero
          pure (sum, true))
    (Counts.zero, false)
  let isTotal : Bool :=
    match total with
    | .several => 1 < files.length
    | .always => true
    | .only => true
    | .never => false
  if isTotal then row (if total == .only then "" else "total") sum
  let unclosed ← closeInput self (if source?.isSome then [] else files)
  pure (statusOf (failed || unclosed))

end CredoAssistant.Shell.Program
