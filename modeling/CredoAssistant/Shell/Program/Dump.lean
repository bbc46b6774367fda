import CredoAssistant.Shell.Digest
import CredoAssistant.Shell.Program.Common

/-!
Files shown byte by byte, as characters or as numbers of some sizes.
-/
namespace CredoAssistant.Shell.Program

namespace Dump

/-- How a field is shown. -/
inductive Kind
  | named
  | character
  | signed
  | unsigned
  | octal
  | hexadecimal
  deriving DecidableEq, Repr

/-- How a row is shown: the kind of its fields, their bytes, how many characters they take, and
whether the row ends with its characters. -/
structure Form where
  kind : Kind
  size : Nat
  width : Nat
  trailer : Bool
  deriving DecidableEq, Repr

/-- A form whose fields are as wide as their kind and size ask for. -/
def Form.make (kind : Kind) (size : Nat) (trailer : Bool) : Form :=
  let most := 256 ^ size
  let digits (base n : Nat) : Nat := (Nat.toDigits base n).length
  let width :=
    match kind with
    | .named => 3
    | .character => 3
    | .signed => digits 10 (most / 2) + 1
    | .unsigned => digits 10 (most - 1)
    | .octal => digits 8 (most - 1)
    | .hexadecimal => 2 * size
  ⟨kind, size, width, trailer⟩

/-- Digits of a number, set to a width. -/
def inBase (base width n : Nat) (filler : Char) : List Char :=
  let ds := Nat.toDigits base n
  List.replicate (width - ds.length) filler ++ ds

/-- The names of the first characters, and that of the blank. -/
def names : List String :=
  ["nul", "soh", "stx", "etx", "eot", "enq", "ack", "bel", "bs", "ht", "nl", "vt", "ff", "cr", "so",
    "si", "dle", "dc1", "dc2", "dc3", "dc4", "nak", "syn", "etb", "can", "em", "sub", "esc", "fs",
    "gs", "rs", "us", "sp"]

/-- Characters that have escapes of their own. -/
def escapes : List (Nat × Char) :=
  [(0, '0'), (7, 'a'), (8, 'b'), (9, 't'), (10, 'n'), (11, 'v'), (12, 'f'), (13, 'r')]

/-- A field as text. -/
def Form.shown (f : Form) (n : Nat) : List Char :=
  match f.kind with
  | .named =>
    let n := n % 128
    if n = 127 then "del".toList else ((names[n]?).map String.toList).getD [Char.ofNat n]
  | .character =>
    match escapes.find? fun e => e.1 == n with
    | some e => ['\\', e.2]
    | none => if 32 ≤ n && n < 127 then [Char.ofNat n] else inBase 8 3 n '0'
  | .signed =>
    if 2 * n < 256 ^ f.size then Nat.toDigits 10 n else '-' :: Nat.toDigits 10 (256 ^ f.size - n)
  | .unsigned => Nat.toDigits 10 n
  | .octal => inBase 8 f.width n '0'
  | .hexadecimal => inBase 16 f.width n '0'

/-- What is shown: the bytes of a row, the forms of its lines, the base of addresses and how many
digits they have, whether equal rows are left out, and whether the first byte of a field counts
most. -/
structure Plan where
  row : Nat
  forms : List Form
  address : Option (Nat × Nat)
  abridges : Bool
  bigEndian : Bool

/-- The address of a place. -/
def Plan.addressOf (p : Plan) (place : Nat) : List Char :=
  match p.address with
  | some (base, width) => inBase base width place '0'
  | none => []

/-- How many characters the fields of a row take at most. -/
def Plan.width (p : Plan) : Nat :=
  p.forms.foldl (fun n f => max n ((f.width + 1) * (p.row / f.size))) 0

/-- A line with the fields of a row in one form. -/
def Plan.line (p : Plan) (f : Form) (row : List UInt8) : List Char :=
  let count := p.row / f.size
  let padding := p.width - f.width * count
  let blanks := (p.row - row.length) / f.size
  let gap (i : Nat) : Nat := padding * i / count
  let fields := Digest.pieces f.size row.length row
  let shown := (fields.zipIdx).flatMap fun (bytes, k) =>
    let all := bytes ++ List.replicate (f.size - bytes.length) 0
    let n := if p.bigEndian then Digest.ofBigBytes all else Digest.ofLittleBytes all
    let text := f.shown n
    let width := gap (count - k) - gap (count - k - 1) + f.width
    List.replicate (width - text.length) ' ' ++ text
  let trailer :=
    if f.trailer then
      let clear (b : UInt8) : Char :=
        if 32 ≤ b.toNat && b.toNat < 127 then Char.ofNat b.toNat else '.'
      List.replicate (blanks * f.width + padding * blanks / count) ' ' ++ "  >".toList
        ++ row.map clear ++ ['<']
    else []
  shown ++ trailer

/-- The lines of a row at a place. -/
def Plan.lines (p : Plan) (place : Nat) (row : List UInt8) : List (List Char) :=
  let address := p.addressOf place
  (p.forms.zipIdx).map fun (f, i) =>
    (if i = 0 then address else List.replicate address.length ' ') ++ p.line f row

/-- The lines of all rows, those of each row apart. `last` holds the row before, and whether it was
one of several equal ones. -/
def Plan.rows (p : Plan) : Option (List UInt8 × Bool) → Nat → List (List UInt8) →
    List (List (List Char))
  | _, _, [] => []
  | last, place, row :: rest =>
    let next := place + row.length
    match last with
    | some (before, isRepeated) =>
      if p.abridges && row.length = p.row && before == row then
        (if isRepeated then [] else [['*']]) :: p.rows (some (row, true)) next rest
      else p.lines place row :: p.rows (some (row, false)) next rest
    | none => p.lines place row :: p.rows (some (row, false)) next rest

/-- The texts of at least some length that a null character ends, with their places. -/
def texts (least : Nat) (bytes : List UInt8) (place : Nat) : List (Nat × List Char) :=
  let isClear (b : UInt8) : Bool := 32 ≤ b.toNat && b.toNat < 127
  let (found, _, _) := bytes.foldl
    (fun (found, current, i) (b : UInt8) =>
      if isClear b then (found, Char.ofNat b.toNat :: current, i + 1)
      else if b = 0 && least ≤ current.length then
        ((i - current.length, current.reverse) :: found, [], i + 1)
      else (found, ([] : List Char), i + 1))
    (([] : List (Nat × List Char)), ([] : List Char), place)
  found.reverse

/-- The sizes that letters stand for. -/
def sizes : List (Char × Nat) := [('C', 1), ('S', 2), ('I', 4), ('L', 8)]

/-- Reads the forms of a text; what is wrong with it otherwise, with the part before its name and
the one behind. -/
def forms? : Nat → List Char → Except (String × String) (List Form)
  | 0, _ => .ok []
  | _ + 1, [] => .ok []
  | fuel + 1, c :: rest => do
    let withTrailer (kind : Kind) (size : Nat) (rest : List Char) :
        Except (String × String) (List Form) := do
      let (trailer, rest) :=
        match rest with
        | 'z' :: rest => (true, rest)
        | _ => (false, rest)
      return .make kind size trailer :: (← forms? fuel rest)
    let number (kind : Kind) : Except (String × String) (List Form) :=
      match rest.head?.bind fun l => sizes.find? fun s => s.1 == l with
      | some (_, size) => withTrailer kind size rest.tail
      | none =>
        let ds := rest.takeWhile Char.isDigit
        if ds.isEmpty then withTrailer kind 4 rest
        else
          let size := Nat.ofDigitChars 10 ds 0
          if 2 ^ 31 ≤ size then .error ("invalid type string ", "")
          else if [1, 2, 4, 8].contains size then withTrailer kind size (rest.drop ds.length)
          else
            let reason := s!";\nthis system doesn't provide a {size}-byte integral type"
            .error ("invalid type string ", reason)
    match c with
    | 'a' => withTrailer .named 1 rest
    | 'c' => withTrailer .character 1 rest
    | 'd' => number .signed
    | 'u' => number .unsigned
    | 'o' => number .octal
    | 'x' => number .hexadecimal
    | c => .error (s!"invalid character '{c}' in type string ", "")

/-- The forms that letters of options stand for. -/
def shorthands : List (Char × Form) :=
  [('a', .make .named 1 false), ('b', .make .octal 1 false), ('B', .make .octal 2 false),
    ('c', .make .character 1 false), ('D', .make .unsigned 4 false), ('d', .make .unsigned 2 false),
    ('H', .make .hexadecimal 4 false), ('h', .make .hexadecimal 2 false),
    ('I', .make .signed 8 false), ('i', .make .signed 4 false), ('L', .make .signed 8 false),
    ('l', .make .signed 8 false), ('O', .make .octal 4 false), ('o', .make .octal 2 false),
    ('s', .make .signed 2 false), ('X', .make .hexadecimal 4 false),
    ('x', .make .hexadecimal 2 false)]

/-- The number of a digit in a base. -/
def digit? (base : Nat) (c : Char) : Option Nat :=
  ("0123456789abcdef".toList.idxOf? c.toLower).filter (· < base)

/-- The number that some digits stand for. -/
def value (base : Nat) (ds : List Char) : Nat :=
  ds.foldl (fun n c => n * base + (digit? base c).getD 0) 0

/-- The place that an operand stands for. -/
def place? (s : String) : Option Nat :=
  let cs := if s.startsWith "+" then s.toList.drop 1 else s.toList
  let (block, cs) :=
    match cs.getLast? with
    | some 'b' => (512, cs.dropLast)
    | some 'B' => (1024, cs.dropLast)
    | _ => (1, cs)
  let (base, ds) :=
    match cs with
    | '0' :: 'x' :: ds => (16, ds)
    | '0' :: 'X' :: ds => (16, ds)
    | _ => if cs.contains '.' then (10, cs) else (8, cs)
  if !ds.isEmpty && ds.all (fun c => (digit? base c).isSome) then some (value base ds * block)
  else none

/-- A number that may stand in base sixteen or eight, with its digits in base ten. Digits behind it
that are none in its base are kept apart. -/
def inTens (s : String) : String :=
  let (base, cs) :=
    match s.toList with
    | '0' :: 'x' :: c :: rest => if (digit? 16 c).isSome then (16, c :: rest) else (8, s.toList)
    | '0' :: 'X' :: c :: rest => if (digit? 16 c).isSome then (16, c :: rest) else (8, s.toList)
    | '0' :: _ => (8, s.toList)
    | _ => (10, s.toList)
  if base = 10 then s
  else
    let ds := cs.takeWhile fun c => (digit? base c).isSome
    let rest := cs.drop ds.length
    let apart := if rest.head?.any Char.isDigit then "?" else ""
    toString (value base ds) ++ apart ++ String.ofList rest

/-- What all files hold, the complaints on the way, each with the number of bytes before it and
whether a file had been opened before, and whether one was opened at all. -/
structure Gathered where
  content : List Char
  complaints : List (Nat × Bool × String)
  isOpened : Bool

def gather (self : String) (files : List String) : Run Gathered :=
  files.foldlM
    (fun g file => do
      match ← contents file with
      | .ok more => pure { g with content := g.content ++ more, isOpened := true }
      | .error fault => do
        let name ← if file = "-" then pure "'standard input'" else shellName false file
        let isOpened := g.isOpened || fault == .isDirectory || file == "-"
        let message := s!"{self}: {name}: {fault.reason}\n"
        let complaint := (g.content.length, isOpened, message)
        pure { g with complaints := g.complaints ++ [complaint], isOpened })
    ⟨[], [], false⟩

/-- The rows that are shown: a complaint on the way ends them. The row in which it comes up is
filled from the next file, and then the row before stands there once more. -/
def Plan.cut (p : Plan) (interrupted : Option Nat) (rows : List (List UInt8)) : List (List UInt8) :=
  match interrupted.map (· / p.row) with
  | none => rows
  | some k =>
    match rows[k]? with
    | none => rows
    | some row =>
      if row.length < p.row then rows
      else
        let before := if k = 0 then List.replicate p.row 0 else rows.getD (k - 1) []
        rows.take (k + 1) ++ [before]

end Dump

open Dump in
def od : Body := fun self args => do
  let letters := "A:aBbcDdeFfHhIij:LlN:OoS:st:vw;Xx\x01:\x02\x03;"
  let a ← arguments self
    (.ofText letters
      [("skip-bytes", 'j'), ("address-radix", 'A'), ("read-bytes", 'N'), ("format", 't'),
        ("output-duplicates", 'v'), ("strings", '\x03'), ("traditional", '\x02'), ("width", 'w'),
        ("endian", '\x01')])
    1 args
  let number (option : Char) (low : Nat) (s : String) : Run Nat := do
    match Quantity.read? "bEGKkMmPQRTYZ0" 0 Quantity.mostNatural (inTens s) with
    | some q =>
      if q.trails then do
        complain self s!"invalid suffix in -{option} argument '{s}'"
        quit 1
      else if q.value < low then do
        complain self s!"invalid -{option} argument '{s}'"
        quit 1
      else if q.exceeds then do
        complain self s!"-{option} argument '{s}' too large"
        quit 1
      else pure q.value.toNat
    | none => do
      complain self s!"invalid -{option} argument '{s}'"
      quit 1
  let start :
      List Form × Bool × Option (Nat × Nat) × Option Nat × Option Nat × Option Nat × Option Nat :=
    ([], false, some (8, 7), none, none, none, none)
  let (forms, failed, address, skipped, limit, least, width) ← a.options.foldlM
    (fun (forms, failed, address, skipped, limit, least, width) (c, v) => do
      match c with
      | 'A' =>
        match v.toList.head? with
        | some 'd' => pure (forms, failed, some (10, 7), skipped, limit, least, width)
        | some 'o' => pure (forms, failed, some (8, 7), skipped, limit, least, width)
        | some 'x' => pure (forms, failed, some (16, 6), skipped, limit, least, width)
        | some 'n' => pure (forms, failed, none, skipped, limit, least, width)
        | x => do
          let x := String.ofList [x.getD '\x00']
          complain self s!"invalid output address radix '{x}'; it must be one character from [doxn]"
          quit 1
      | 'j' => do pure (forms, failed, address, some (← number 'j' 0 v), limit, least, width)
      | 'N' => do pure (forms, failed, address, skipped, some (← number 'N' 0 v), least, width)
      | 'S' => do pure (forms, failed, address, skipped, limit, some (← number 'S' 0 v), width)
      | '\x03' => do
        let n ← if v = "" then pure 3 else number 'S' 0 v
        pure (forms, failed, address, skipped, limit, some n, width)
      | 'w' => do
        let n ← if v = "" then pure 32 else number 'w' 1 v
        pure (forms, failed, address, skipped, limit, least, some n)
      | 't' =>
        match forms? (v.length + 1) v.toList with
        | .ok more => pure (forms ++ more, failed, address, skipped, limit, least, width)
        | .error (front, back) => do
          complain self s!"{front}{← named v}{back}"
          pure (forms, true, address, skipped, limit, least, width)
      | '\x01' => do
        let _ ← choice self "--endian" v [("little", false), ("big", true)]
        pure (forms, failed, address, skipped, limit, least, width)
      | c =>
        let more := (shorthands.filter fun s => s.1 == c).map Prod.snd
        pure (forms ++ more, failed, address, skipped, limit, least, width))
    start
  if failed then quit 1
  if least.isSome && !forms.isEmpty then do
    complain self "no type may be specified when dumping strings"
    quit 1
  let isModern := a.options.any fun o => "AjNSvtw\x03".toList.contains o.1
  let (files, skipped) :=
    if isModern then (a.operands, skipped)
    else
      match a.operands with
      | [x] => if x.startsWith "+" && (place? x).isSome then ([], place? x) else ([x], skipped)
      | [f, x] =>
        let isPlace := x.startsWith "+" || x.toList.head?.any Char.isDigit
        if isPlace && (place? x).isSome then ([f], place? x) else ([f, x], skipped)
      | fs => (fs, skipped)
  let forms := if forms.isEmpty then [Form.make .octal 2 false] else forms
  let files := if files.isEmpty then ["-"] else files
  let g ← gather self files
  let skipped := skipped.getD 0
  let all := (Octets.toBytes g.content).drop skipped
  let bytes := limit.elim all all.take
  if limit.isSome && files == ["-"] then giveBackInput g.content.length (skipped + bytes.length)
  let closing : Run Bool := do
    if files.contains "-" && (← lacksInput) then
      fails self s!"standard input: {Fault.badStream.reason}"
    else pure false
  let say (c : Nat × Bool × String) : Run Unit := Run.say 2 c.2.2
  if !g.isOpened then do
    g.complaints.forM say
    pure 1
  else if g.content.length < skipped then do
    g.complaints.forM say
    complain self "cannot skip past end of combined input"
    pure 1
  else do
    let unit := forms.foldl (fun n f => max n f.size) 1
    let row := width.getD 16
    let row ←
      if row % unit = 0 then pure row
      else do
        complain self s!"warning: invalid width {row}; using {unit} instead"
        pure unit
    let endian := (a.value? '\x01').any ("big".startsWith ·)
    let p : Plan := ⟨row, forms, address, !a.has 'v', endian⟩
    match least with
    | some least => do
      g.complaints.forM say
      (texts least bytes skipped).forM fun (place, text) => do
        let lead := p.addressOf place
        put self ((if lead.isEmpty then [] else lead ++ [' ']) ++ text ++ ['\n'])
      pure (statusOf ((← closing) || !g.complaints.isEmpty))
    | none => do
      let interrupted := (g.complaints.find? fun c => c.2.1).map fun c => c.1 - skipped
      let rows := p.cut interrupted (Digest.pieces row (bytes.length + 1) bytes)
      let lines := p.rows none skipped rows
      let shown := (rows.map List.length).sum
      let last := p.addressOf (skipped + shown)
      let done ← g.complaints.foldlM
        (fun done c => do
          let here := (c.1 - skipped) / row
          if lines.length < here then pure done
          else do
            (lines.drop done).take (here - done) |>.forM fun ls => put self (unlines ls)
            say c
            pure (max done here))
        0
      (lines.drop done).forM fun ls => put self (unlines ls)
      put self (if last.isEmpty then [] else last ++ ['\n'])
      pure (statusOf ((← closing) || !g.complaints.isEmpty))

end CredoAssistant.Shell.Program
