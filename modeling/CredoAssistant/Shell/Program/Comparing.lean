import CredoAssistant.Shell.Difference
import CredoAssistant.Shell.Program.Files

/-!
Programs that compare files: byte by byte, or line by line with the changes that lead from one file
to the other.
-/
namespace CredoAssistant.Shell.Program

/-- Complains about how a program was called, with its name on both lines, and ends it. -/
def misuseTwice {α : Type} (self message : String) : Run α := do
  complain self message
  complain self s!"Try '{self} --help' for more information."
  quit 2

/-- Reads the arguments of a program that complains so. -/
def argumentsTwice (self : String) (s : Spec) (args : List String) : Run Arguments := do
  match readArguments s (args.length + 1) args with
  | .ok a => pure a
  | .error message => misuseTwice self message

/-! Bytes -/

/-- A byte as a character, with signs for those that cannot be printed. -/
def byteSign (c : Char) : String :=
  let n := c.toNat
  let low (n : Nat) : String :=
    if n < 32 then "^" ++ String.singleton (Char.ofNat (n + 64))
    else if n = 127 then "^?"
    else String.singleton (Char.ofNat n)
  if 128 ≤ n then "M-" ++ low (n - 128) else low n

/-- A byte in octal digits. -/
def octalByte (c : Char) : String := rightAt 3 (String.ofList (Nat.toDigits 8 c.toNat))

def cmp : Body := fun self args => do
  let a ← argumentsTwice self
    (.ofText "bci:ln:sv"
      [("print-bytes", 'b'), ("ignore-initial", 'i'), ("verbose", 'l'), ("bytes", 'n'),
        ("quiet", 's'), ("silent", 's')])
    args
  if a.has 'l' && a.has 's' then misuseTwice self "options -l and -s are incompatible"
  let amount (words text : String) : Run Nat := do
    match bytesOf? text with
    | some n => pure n
    | none => misuseTwice self s!"invalid --{words} value '{text}'"
  let (skipLeft, skipRight) ←
    match a.value? 'i' with
    | none => pure (0, 0)
    | some text => do
      match text.splitOn ":" with
      | [x, y] => do pure (← amount "ignore-initial" x, ← amount "ignore-initial" y)
      | _ => do
        let n ← amount "ignore-initial" text
        pure (n, n)
  let most? ←
    match a.value? 'n' with
    | none => pure none
    | some text => do pure (some (← amount "bytes" text))
  let (f, g, more) ←
    match a.operands with
    | [] => misuseTwice self s!"missing operand after '{self}'"
    | [f] => pure (f, "-", [])
    | f :: g :: more => pure (f, g, more)
  let (skipLeft, skipRight) ←
    match more with
    | [] => pure (skipLeft, skipRight)
    | [x] => do pure (← amount "ignore-initial" x, skipRight)
    | [x, y] => do pure (← amount "ignore-initial" x, ← amount "ignore-initial" y)
    | _ :: _ :: z :: _ => misuseTwice self s!"extra operand '{z}'"
  let read (file : String) : Run (List Char) := do
    match ← contents file with
    | .ok cs => pure cs
    | .error fault => do
      if !(a.has 's' && fault == .missing) then complain self s!"{file}: {fault.reason}"
      quit 2
  if f = g then pure 0
  else do
    let xs ← read f
    let ys ← read g
    let cut (skip : Nat) (cs : List Char) : List Char :=
      let cs := cs.drop skip
      most?.elim cs cs.take
    let left := cut skipLeft xs
    let right := cut skipRight ys
    let pairs := left.zip right
    let same := (pairs.takeWhile fun p => p.1 == p.2).length
    let short := min left.length right.length
    let shortName := if left.length ≤ right.length then f else g
    let tellEnd : Run Unit := do
      let line := (left.take short).count '\n' + 1
      let spot :=
        if short = 0 then "which is empty"
        else if a.has 'l' then s!"after byte {short}"
        else
          let isWhole := (left.take short).getLast? = some '\n'
          s!"after byte {short}, " ++ (if isWhole then s!"line {line - 1}" else s!"in line {line}")
      complain self s!"EOF on {shortName} {spot}"
    if left == right then pure 0
    else if a.has 's' then pure 1
    else if a.has 'l' then do
      let width := (toString (most?.getD (max xs.length ys.length))).length
      (pairs.zipIdx).forM fun ((x, y), i) => do
        if x ≠ y then
          let number := rightAt width (toString (i + 1))
          if a.has 'b' then
            putText self
              s!"{number} {octalByte x} {leftAt 4 (byteSign x)} {octalByte y} {byteSign y}\n"
          else putText self s!"{number} {octalByte x} {octalByte y}\n"
      if left.length ≠ right.length then tellEnd
      pure 1
    else if same = short then do
      tellEnd
      pure 1
    else do
      let line := (left.take same).count '\n' + 1
      let bytes :=
        match left[same]?, right[same]? with
        | some x, some y =>
          if a.has 'b' then s!" is {octalByte x} {byteSign x} {octalByte y} {byteSign y}" else ""
        | _, _ => ""
      putText self s!"{f} {g} differ: byte {same + 1}, line {line}{bytes}\n"
      pure 1

/-! Lines -/

/-- A line as it was read, and as it is compared. -/
structure Compared where
  shown : List Char
  key : List Char
  deriving Inhabited

instance : BEq Compared := ⟨fun a b => a.key == b.key⟩

/-- How files are compared and their differences shown. -/
structure Comparison where
  folds : Bool
  blanks : Bool
  anyBlanks : Bool
  ends : Bool
  emptyLines : Bool
  brief : Bool
  identical : Bool
  deep : Bool
  absent : Bool
  asText : Bool
  style : Char
  context : Nat
  labels : List String
  width : Nat
  common : Char
  words : List String

/-- The lines of a text, each with its end. -/
def wholeLines (cs : List Char) : List (List Char) :=
  let (ls, isEnded) := linesOf cs
  match ls.reverse with
  | [] => []
  | last :: front =>
    let front := front.reverse.map (· ++ ['\n'])
    front ++ [if isEnded then last ++ ['\n'] else last]

/-- Draws runs of blanks together. -/
def squeezeBlanks : List Char → List Char
  | [] => []
  | c :: rest =>
    if c = ' ' || c = '\t' then
      match squeezeBlanks rest with
      | ' ' :: more => ' ' :: more
      | more => ' ' :: more
    else c :: squeezeBlanks rest

/-- The part of a line that is compared. -/
def Comparison.key (c : Comparison) (line : List Char) : List Char :=
  let isSpace (ch : Char) : Bool := ch == ' ' || ('\t' ≤ ch && ch ≤ '\r')
  let line := if c.anyBlanks then line.filter fun ch => !isSpace ch else line
  let line := if c.ends || c.blanks then (line.reverse.dropWhile isSpace).reverse else line
  let line := if c.blanks then squeezeBlanks line else line
  if c.folds then line.map Char.toLower else line

def Comparison.read (c : Comparison) (cs : List Char) : List Compared :=
  (wholeLines cs).map fun l => ⟨l, c.key l⟩

/-- A line behind a mark, with a remark when the file ends without a line end. -/
def markedLine (mark : String) (line : List Char) : String :=
  let text := String.ofList line
  if line.getLast? = some '\n' then mark ++ text
  else mark ++ text ++ "\n\\ No newline at end of file\n"

/-- Lines counted from one, in the form of a range. -/
def lineRange (start count : Nat) : String :=
  if count ≤ 1 then toString (start + count) else s!"{start + 1},{start + count}"

open Difference (Hunk)

/-- Some members of a list. -/
def slice {α : Type} (xs : Array α) (start count : Nat) : List α :=
  (xs.extract start (start + count)).toList

/-- The changes in the form of commands. -/
def normalHunk (left right : Array Compared) (h : Hunk) : String :=
  let letter := if h.leftCount = 0 then "a" else if h.rightCount = 0 then "d" else "c"
  let head := lineRange h.left h.leftCount ++ letter ++ lineRange h.right h.rightCount ++ "\n"
  let olds := (slice left h.left h.leftCount).map fun l => markedLine "< " l.shown
  let news := (slice right h.right h.rightCount).map fun l => markedLine "> " l.shown
  head ++ String.join olds ++ (if letter = "c" then "---\n" else "") ++ String.join news

/-- Changes that stand close to each other, with the lines around them. -/
def closeHunks (context : Nat) : List Hunk → List (List Hunk)
  | [] => []
  | h :: rest =>
    match closeHunks context rest with
    | [] => [[h]]
    | group :: more =>
      match group with
      | next :: _ =>
        if next.left - (h.left + h.leftCount) ≤ 2 * context then (h :: group) :: more
        else [h] :: group :: more
      | [] => [h] :: more

/-- The bounds of a group with its context, on the left and on the right. -/
def bounds (context leftSize rightSize : Nat) (group : List Hunk) : (Nat × Nat) × (Nat × Nat) :=
  let first := group.headD default
  let last := group.getLast?.getD default
  ((first.left - context, min leftSize (last.left + last.leftCount + context)),
    (first.right - context, min rightSize (last.right + last.rightCount + context)))

/-- A range as a start and a count. -/
def countedRange (low high : Nat) : String :=
  let count := high - low
  if count = 1 then toString (low + 1) else if count = 0 then s!"{low},0" else s!"{low + 1},{count}"

def unifiedGroup (context : Nat) (left right : Array Compared) (group : List Hunk) : String :=
  let ((low, high), (rlow, rhigh)) := bounds context left.size right.size group
  let head := s!"@@ -{countedRange low high} +{countedRange rlow rhigh} @@\n"
  let same (start stop : Nat) : List String :=
    (slice left start (stop - start)).map fun l => markedLine " " l.shown
  let (lines, last) := group.foldl
    (fun (acc : List String × Nat) h =>
      (acc.1 ++ same acc.2 h.left
        ++ (slice left h.left h.leftCount).map (fun l => markedLine "-" l.shown)
        ++ (slice right h.right h.rightCount).map (fun l => markedLine "+" l.shown),
        h.left + h.leftCount))
    ([], low)
  head ++ String.join (lines ++ same last high)

/-- A range for a context. -/
def contextRange (low high : Nat) : String :=
  if high - low ≤ 1 then toString high else s!"{low + 1},{high}"

def contextGroup (context : Nat) (left right : Array Compared) (group : List Hunk) : String :=
  let ((low, high), (rlow, rhigh)) := bounds context left.size right.size group
  let side (lines : Array Compared) (low high : Nat) (start count other : Hunk → Nat)
      (mark : String) : String :=
    if group.all fun h => count h = 0 then ""
    else
      let same (a b : Nat) : List String :=
        (slice lines a (b - a)).map fun l => markedLine "  " l.shown
      let (texts, last) := group.foldl
        (fun (acc : List String × Nat) h =>
          let mark := if other h = 0 then mark else "! "
          (acc.1 ++ same acc.2 (start h)
            ++ (slice lines (start h) (count h)).map (fun l => markedLine mark l.shown),
            start h + count h))
        ([], low)
      String.join (texts ++ same last high)
  "***************\n*** " ++ contextRange low high ++ " ****\n"
    ++ side left low high Hunk.left Hunk.leftCount Hunk.rightCount "- "
    ++ "--- " ++ contextRange rlow rhigh ++ " ----\n"
    ++ side right rlow rhigh Hunk.right Hunk.rightCount Hunk.leftCount "+ "

/-- A change as an editor is told to make it. -/
def editorHunk (right : Array Compared) (h : Hunk) : String :=
  let letter := if h.leftCount = 0 then "a" else if h.rightCount = 0 then "d" else "c"
  let head := lineRange h.left h.leftCount ++ letter ++ "\n"
  if h.rightCount = 0 then head
  else
    let lines := (slice right h.right h.rightCount).map fun l => String.ofList l.shown
    head ++ String.join lines ++ ".\n"

/-- A change with line numbers and counts. -/
def countedHunk (right : Array Compared) (h : Hunk) : String :=
  let deletion := if h.leftCount = 0 then "" else s!"d{h.left + 1} {h.leftCount}\n"
  let lines := (slice right h.right h.rightCount).map fun l => String.ofList l.shown
  let addition :=
    if h.rightCount = 0 then ""
    else s!"a{h.left + h.leftCount} {h.rightCount}\n" ++ String.join lines
  deletion ++ addition

/-- A line cut to a column and followed by tabs and blanks up to another one. -/
def columnText (width : Nat) (line : List Char) : List Char × Nat :=
  let step (acc : List Char × Nat) (c : Char) : List Char × Nat :=
    if c = '\n' then acc
    else if c = '\t' then
      let next := acc.2 + 8 - acc.2 % 8
      if next ≤ width then (acc.1 ++ List.replicate (next - acc.2) ' ', next) else acc
    else if acc.2 < width then (acc.1 ++ [c], acc.2 + 1)
    else acc
  line.foldl step ([], 0)

/-- Two lines side by side with a sign between them. -/
def sideLine (width : Nat) (left : Option (List Char)) (sign : Char) (right : Option (List Char)) :
    String :=
  let half := ((width + 8 + 3) / 2 / 8 * 8)
  let half := if half ≤ 3 then 0 else half - 3
  let start := min width (half + 3)
  let half := min half (width - start)
  let (text, column) := columnText half (left.getD [])
  let center := (half + start) / 2
  let gap (start stop : Nat) : List Char := indent 200 start stop
  let middle :=
    if sign = ' ' then gap column start
    else gap column center ++ [sign] ++ (if right.isSome then gap (center + 1) start else [])
  let other := (right.map fun r => (columnText (width - start) r).1).getD []
  let isBare := sign = ' ' && (right.getD []).all (· == '\n')
  String.ofList (text ++ (if isBare then [] else middle ++ other) ++ ['\n'])

/-- Both files side by side. -/
def sideBySide (c : Comparison) (left right : Array Compared) (hs : List Hunk) : String :=
  let same (a b n : Nat) : List String :=
    if c.common = 's' then []
    else
      (List.range n).map fun k =>
        let l := ((left[a + k]?).map Compared.shown).getD []
        let r := ((right[b + k]?).map Compared.shown).getD []
        if c.common = 'l' then sideLine c.width (some l) '(' none
        else sideLine c.width (some l) ' ' (some r)
  let (lines, i, j) := hs.foldl
    (fun (acc : List String × Nat × Nat) h =>
      let before := same acc.2.1 acc.2.2 (h.left - acc.2.1)
      let shared := min h.leftCount h.rightCount
      let line (xs : Array Compared) (k : Nat) : Option (List Char) := (xs[k]?).map Compared.shown
      let changed := (List.range shared).map fun k =>
        sideLine c.width (line left (h.left + k)) '|' (line right (h.right + k))
      let removed := (List.range (h.leftCount - shared)).map fun k =>
        sideLine c.width (line left (h.left + shared + k)) '<' none
      let added := (List.range (h.rightCount - shared)).map fun k =>
        sideLine c.width none '>' (line right (h.right + shared + k))
      (acc.1 ++ before ++ changed ++ removed ++ added,
        h.left + h.leftCount, h.right + h.rightCount))
    ([], 0, 0)
  String.join (lines ++ same i j (left.size - i))

/-- The first lines that name a file. -/
def fileHead (c : Comparison) (zone : Zone) (mark name : String) (i : Nat) (time : Int) : String :=
  match c.labels[i]? with
  | some label => s!"{mark} {label}\n"
  | none =>
    let calendar := Calendar.ofNanoseconds zone.offset time
    let format := if c.style = 'c' then "%a %b %e %T %Y" else "%Y-%m-%d %H:%M:%S.%N %z"
    s!"{mark} {name}\t{calendar.formatText zone.name format}\n"

/-- A file that is compared: its name, its bytes, and when it was changed. -/
structure Side where
  name : String
  bytes : List Char
  time : Int

/-- Compares two files; the status. `head` stands before their differences. -/
def compareFiles (self : String) (c : Comparison) (head : String) (a b : Side) : Run Nat := do
  if a.bytes == b.bytes then do
    if c.identical then putText self s!"Files {a.name} and {b.name} are identical\n"
    pure 0
  else
    let isBinary (s : Side) : Bool := s.bytes.contains '\x00'
    if !c.asText && (isBinary a || isBinary b) then do
      let lead := if c.brief then "Files" else "Binary files"
      putText self s!"{lead} {a.name} and {b.name} differ\n"
      pure 1
    else do
      let left := c.read a.bytes
      let right := c.read b.bytes
      let horizon := if c.style = 'u' || c.style = 'c' then c.context else 0
      let hs := Difference.between horizon left right
      let leftLines := left.toArray
      let rightLines := right.toArray
      let isEmpty (l : Compared) : Bool :=
        l.shown.all fun ch => ch == '\n' || (c.anyBlanks && ch == ' ')
      let isIgnored (h : Hunk) : Bool :=
        c.emptyLines && (slice leftLines h.left h.leftCount).all isEmpty
          && (slice rightLines h.right h.rightCount).all isEmpty
      let hs := hs.filter fun h => !isIgnored h
      if hs.isEmpty then do
        if c.identical then putText self s!"Files {a.name} and {b.name} are identical\n"
        else if c.style = 'y' then putText self (sideBySide c leftLines rightLines [])
        pure 0
      else if c.brief then do
        putText self s!"Files {a.name} and {b.name} differ\n"
        pure 1
      else do
        let zone ← zoneOf
        putText self head
        match c.style with
        | 'u' =>
          putText self
            (fileHead c zone "---" a.name 0 a.time ++ fileHead c zone "+++" b.name 1 b.time)
          putText self (String.join
            ((closeHunks c.context hs).map (unifiedGroup c.context leftLines rightLines)))
        | 'c' =>
          putText self
            (fileHead c zone "***" a.name 0 a.time ++ fileHead c zone "---" b.name 1 b.time)
          putText self (String.join
            ((closeHunks c.context hs).map (contextGroup c.context leftLines rightLines)))
        | 'e' => putText self (String.join (hs.reverse.map (editorHunk rightLines)))
        | 'n' => putText self (String.join (hs.map (countedHunk rightLines)))
        | 'y' => putText self (sideBySide c leftLines rightLines hs)
        | _ => putText self (String.join (hs.map (normalHunk leftLines rightLines)))
        pure 1

/-- What stands at a path that is compared. -/
def sideOf (path : String) : Run (Except Fault (Option Side)) := do
  if path = "-" then
    match ← contents "-" with
    | .ok cs => do return .ok (some ⟨"-", cs, (← Run.getSystem).now⟩)
    | .error e => pure (.error e)
  else
    match ← Run.node true path with
    | .ok (_, i) =>
      if i.isDirectory then pure (.ok none)
      else
        match ← contents path with
        | .ok cs => pure (.ok (some ⟨path, cs, i.changed⟩))
        | .error e => pure (.error e)
    | .error e =>
      match ← contents path with
      | .ok cs => do return .ok (some ⟨path, cs, (← Run.getSystem).now⟩)
      | .error _ => pure (.error e)

/-- Compares what stands at two paths; the status. -/
def comparePaths (self : String) (c : Comparison) (isTop : Bool) : Nat → String → String → Run Nat
  | 0, _, _ => pure 2
  | fuel + 1, f, g => do
    let nothing (name : String) : Side := ⟨name, [], 0⟩
    let head := if isTop then "" else " ".intercalate (self :: c.words ++ [f, g]) ++ "\n"
    match ← sideOf f, ← sideOf g with
    | .ok (some a), .ok (some b) => compareFiles self c head a b
    | .ok none, .ok none =>
      if isTop || c.deep then do
        let names (path : String) : Run (List String) := do
          match ← Run.node true path with
          | .ok (n, _) => do return (← Run.disk).children n
          | .error _ => pure []
        let lefts ← names f
        let rights ← names g
        let all :=
          (lefts ++ rights.filter fun n => !lefts.contains n).mergeSort fun x y => decide (x ≤ y)
        all.foldlM
          (fun status name => do
            let x := under f name
            let y := under g name
            let one ←
              if lefts.contains name && rights.contains name then comparePaths self c false fuel x y
              else if c.absent then comparePaths self c false fuel x y
              else do
                let dir := if lefts.contains name then f else g
                putText self s!"Only in {dir}: {name}\n"
                pure 1
            pure (max status one))
          0
      else do
        putText self s!"Common subdirectories: {f} and {g}\n"
        pure 0
    | .ok (some a), .ok none =>
      if isTop then comparePaths self c true fuel f (under g (lastPart a.name))
      else do
        putText self s!"File {f} is a regular file while file {g} is a directory\n"
        pure 1
    | .ok none, .ok (some b) =>
      if isTop then comparePaths self c true fuel (under f (lastPart b.name)) g
      else do
        putText self s!"File {f} is a directory while file {g} is a regular file\n"
        pure 1
    | .error .missing, .ok (some b) =>
      if c.absent then compareFiles self c head (nothing f) b
      else do
        complain self s!"{f}: {Fault.missing.reason}"
        pure 2
    | .ok (some a), .error .missing =>
      if c.absent then compareFiles self c head a (nothing g)
      else do
        complain self s!"{g}: {Fault.missing.reason}"
        pure 2
    | .error e, other => do
      complain self s!"{f}: {e.reason}"
      match other with
      | .error e => complain self s!"{g}: {e.reason}"
      | .ok _ => pure ()
      pure 2
    | .ok _, .error e => do
      complain self s!"{g}: {e.reason}"
      pure 2

def diff : Body := fun self args => do
  let a ← argumentsTwice self
    (.ofText "abBcC:deEiI:lL:nNpqrsS:tTuU:wW:x:X:yZ\x01\x02\x03\x04;\x05\x06;\x07;"
      [("text", 'a'), ("ignore-space-change", 'b'), ("ignore-blank-lines", 'B'),
        ("context", '\x07'), ("minimal", 'd'), ("ed", 'e'), ("ignore-tab-expansion", 'E'),
        ("ignore-case", 'i'), ("label", 'L'), ("rcs", 'n'), ("new-file", 'N'), ("brief", 'q'),
        ("recursive", 'r'), ("report-identical-files", 's'), ("expand-tabs", 't'),
        ("unified", '\x06'), ("ignore-all-space", 'w'), ("width", 'W'), ("exclude", 'x'),
        ("side-by-side", 'y'), ("ignore-trailing-space", 'Z'), ("strip-trailing-cr", '\x01'),
        ("left-column", '\x02'), ("suppress-common-lines", '\x03'), ("color", '\x04'),
        ("normal", '\x05')])
    args
  let number (words text : String) : Run Nat := do
    match digits? text with
    | some n => pure n
    | none => misuseTwice self s!"invalid {words} '{text}'"
  let style := (a.options.filter fun o => "cCuUeny\x05\x06\x07".toList.contains o.1).getLast?
  let (style, context) ←
    match style with
    | some ('C', v) => do pure ('c', ← number "context length" v)
    | some ('U', v) => do pure ('u', ← number "context length" v)
    | some ('\x06', v) => do pure ('u', ← if v = "" then pure 3 else number "context length" v)
    | some ('\x07', v) => do pure ('c', ← if v = "" then pure 3 else number "context length" v)
    | some ('\x05', _) => pure (' ', 0)
    | some (c, _) => pure (c, 3)
    | none => pure (' ', 0)
  let c : Comparison :=
    { folds := a.has 'i', blanks := a.has 'b', anyBlanks := a.has 'w', ends := a.has 'Z'
      emptyLines := a.has 'B', brief := a.has 'q', identical := a.has 's', deep := a.has 'r'
      absent := a.has 'N', asText := a.has 'a', style, context
      labels := (a.options.filter fun o => o.1 == 'L').map Prod.snd
      width := ((a.value? 'W').bind digits?).getD 130
      common := if a.has '\x03' then 's' else if a.has '\x02' then 'l' else ' '
      words := args.filter fun s => s.startsWith "-" && s != "-" }
  match a.operands with
  | [] => misuseTwice self s!"missing operand after '{(args.getLast?).getD self}'"
  | [x] => misuseTwice self s!"missing operand after '{x}'"
  | [f, g] =>
    if f = "-" && g = "-" then pure 0 else comparePaths self c true 100 f g
  | _ :: _ :: x :: _ => misuseTwice self s!"extra operand '{x}'"

end CredoAssistant.Shell.Program
