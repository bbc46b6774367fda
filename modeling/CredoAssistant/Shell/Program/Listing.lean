import CredoAssistant.Shell.DateText
import CredoAssistant.Shell.Format
import CredoAssistant.Shell.Installation
import CredoAssistant.Shell.Mode
import CredoAssistant.Shell.Pattern
import CredoAssistant.Shell.Program.Places
import CredoAssistant.Shell.VersionOrder

/-!
Programs that list files, and tell what the system knows about them.
-/
namespace CredoAssistant.Shell.Program

/-- The zone of time of this process. -/
def zoneOf : Run Zone := do return ((← Run.value? "TZ").map Zone.ofText).getD Zone.universal

/-- Whether a pattern stands for a name. -/
def fits (pattern name : String) : Bool :=
  Glob.fits pattern.toList name.toList

/-- A number of bytes in units that grow with it, rounded up, with one place behind the point below
ten. -/
def humanSize (base : Nat) (n : Nat) : String :=
  let units := ["", if base = 1024 then "K" else "k", "M", "G", "T", "P", "E"]
  let power := ((List.range 6).filter fun p => base ^ (p + 1) ≤ n).length
  let up (num den : Nat) : Nat := (num + den - 1) / den
  let written (power : Nat) : String :=
    let unit := (units[power]?).getD ""
    let tenths := up (n * 10) (base ^ power)
    if power = 0 then toString n
    else if tenths < 100 then s!"{tenths / 10}.{tenths % 10}{unit}"
    else s!"{up n (base ^ power)}{unit}"
  if 0 < power && up n (base ^ power) = base && power < 6 then written (power + 1)
  else written power

/-- Blocks of a size that a file takes on the disk. -/
def blocksOf (i : Inode) : Nat :=
  match i.content with
  | .link _ => 0
  | .pipe => 0
  | .device => 0
  | _ => (i.size + 4095) / 4096 * 8

/-- The letter of a kind of file. -/
def kindLetter (i : Inode) : Char :=
  match i.content with
  | .directory .. => 'd'
  | .link _ => 'l'
  | .pipe => 'p'
  | .device => 'c'
  | _ => '-'

/-- Kind and permissions in ten letters. -/
def modeText (i : Inode) : String := String.singleton (kindLetter i) ++ Mode.letters i.mode

/-! Quotation of names -/

/-- How names are written. -/
inductive Quoting
  | literal
  | shell (always : Bool)
  | double
  | escaped
  deriving DecidableEq, Repr

/-- A name with escapes, between double quotation marks or without them. -/
def escapedName (utf8 quoted : Bool) (s : String) : String :=
  let body := s.toList.flatMap fun c =>
    if isControl utf8 c then controlEscape c
    else if c = '\\' || (quoted && c = '"') || (!quoted && c = ' ') then ['\\', c]
    else [c]
  String.ofList (if quoted then '"' :: body ++ ['"'] else body)

def Quoting.apply (q : Quoting) (s : String) : Run String := do
  match q with
  | literal => pure s
  | shell always => shellName always s
  | double => do return escapedName (← usesUtf8) true s
  | escaped => do return escapedName (← usesUtf8) false s

/-! Listing -/

/-- Signs behind names: none, for directories, for all kinds but programs, for all kinds. -/
inductive Signs
  | none
  | slashes
  | kinds
  | all
  deriving DecidableEq, Repr

/-- How names are arranged. -/
inductive Arrangement
  | lines
  | long
  | commas
  | down
  | across
  deriving DecidableEq, Repr

/-- By what files are ordered. -/
inductive FileOrder
  | name
  | none
  | time
  | size
  | ending
  | version
  | width
  deriving DecidableEq, Repr

/-- How files are listed. -/
structure Listing where
  all : Bool
  almostAll : Bool
  backups : Bool
  ignored : List String
  hidden : List String
  plain : Bool
  recursive : Bool
  signs : Signs
  order : FileOrder
  reverse : Bool
  directoriesFirst : Bool
  arrangement : Arrangement
  quoting : Quoting
  follows : Bool
  accessed : Bool
  blocks : Bool
  numbers : Bool
  human : Option Nat
  numeric : Bool
  owner : Bool
  group : Bool
  times : String × String
  lineWidth : Nat
  close : String

/-- A file that is listed. -/
structure Listed where
  name : String
  path : String
  number : Nat
  inode : Inode

/-- What stands behind a name. -/
def signOf (s : Signs) (i : Inode) : String :=
  match s, i.content with
  | .none, _ => ""
  | _, .directory .. => "/"
  | .slashes, _ => ""
  | _, .link _ => "@"
  | _, .pipe => "|"
  | .all, c => if c.isFile && i.runs then "*" else ""
  | _, _ => ""

/-- The end of a name from its last point on. -/
def ending (s : String) : String :=
  let front := s.toList.reverse.takeWhile (· != '.')
  if front.length = s.length then "" else String.ofList ('.' :: front.reverse)

/-- Whether a file stands before another one. -/
def Listing.before (l : Listing) (a b : Listed) : Bool :=
  let byName := decide (a.name ≤ b.name)
  let time (f : Listed) : Int := if l.accessed then f.inode.accessed else f.inode.changed
  let plain : Bool :=
    match l.order with
    | .name => byName
    | .none => true
    | .time => if time a = time b then byName else decide (time b < time a)
    | .size =>
      if a.inode.size = b.inode.size then byName else decide (b.inode.size < a.inode.size)
    | .ending =>
      if ending a.name = ending b.name then byName else decide (ending a.name < ending b.name)
    | .version =>
      match VersionOrder.compareNames a.name b.name with
      | .lt => true
      | .eq => byName
      | .gt => false
    | .width =>
      if a.name.length = b.name.length then byName else decide (a.name.length < b.name.length)
  plain

/-- Files in their order. -/
def Listing.arrange (l : Listing) (fs : List Listed) : List Listed :=
  let ordered := if l.order = .none then fs else fs.mergeSort l.before
  let ordered := if l.reverse then ordered.reverse else ordered
  if l.directoriesFirst then
    let (dirs, others) := ordered.partition fun f => f.inode.isDirectory
    dirs ++ others
  else ordered

/-- A text set to a width, at the left or the right. -/
def leftAt (width : Nat) (s : String) : String :=
  s ++ String.ofList (List.replicate (width - s.length) ' ')

def rightAt (width : Nat) (s : String) : String :=
  String.ofList (List.replicate (width - s.length) ' ') ++ s

def widest (xs : List String) : Nat := (xs.map String.length).foldl max 0

/-- A number of bytes or blocks as it is shown. -/
def Listing.amount (l : Listing) (n : Nat) : String :=
  match l.human with
  | some base => humanSize base n
  | none => toString n

/-- Blocks of 1024 bytes as they are shown. -/
def Listing.blockText (l : Listing) (blocks : Nat) : String :=
  match l.human with
  | some base => humanSize base (blocks * 512)
  | none => toString (blocks / 2)

/-- The time of a file as it is shown; times of half a year and those to come show their year. -/
def Listing.timeText (l : Listing) (zone : Zone) (now : Int) (i : Inode) : String :=
  let t := if l.accessed then i.accessed else i.changed
  let isRecent := now - 15778476 * 10 ^ 9 < t && t ≤ now
  let c := Calendar.ofNanoseconds zone.offset t
  c.formatText zone.name (if isRecent then l.times.2 else l.times.1)

/-- The columns of a screen before the tabs that lead to a place. -/
def indent : Nat → Nat → Nat → List Char
  | 0, _, _ => []
  | fuel + 1, column, stop =>
    if stop ≤ column then []
    else if (column + 1) / 8 < stop / 8 then '\t' :: indent fuel (column + 8 - column % 8) stop
    else ' ' :: indent fuel (column + 1) stop

/-- Texts in as many columns as fit into the width of a line, downwards or across. -/
def inColumns (width : Nat) (down : Bool) (texts : List String) : String :=
  let count := texts.length
  let shown (s : String) : Nat := (Octets.toCharacters s.toList).length
  let sizes := texts.map shown
  let rowsFor (columns : Nat) : Nat := (count + columns - 1) / columns
  let columnOf (columns i : Nat) : Nat := if down then i / rowsFor columns else i % columns
  let widths (columns : Nat) : List Nat :=
    (List.range columns).map fun k =>
      let own :=
        (sizes.zipIdx).filterMap fun (n, i) => if columnOf columns i = k then some n else none
      let most := own.foldl max 0
      if k + 1 = columns then most else most + 2
  let most := max 1 (min count (width / 3))
  let fits (columns : Nat) : Bool := ((widths columns).foldl (fun n w => n + max w 3) 0) < width
  let candidates := ((List.range most).map (· + 1)).reverse
  let columns := (candidates.find? fits).getD 1
  let rows := rowsFor columns
  let starts := (widths columns).foldl (fun acc w => acc ++ [acc.getLast?.getD 0 + max w 3]) [0]
  let row (r : Nat) : String :=
    let cells := (List.range columns).filterMap fun k =>
      let i := if down then k * rows + r else r * columns + k
      if down && rows ≤ r then none else (texts[i]?).map fun t => (k, t)
    let (line, _) := cells.foldl
      (fun (acc : List Char × Nat) (k, t) =>
        let start := (starts[k]?).getD 0
        (acc.1 ++ indent 500 acc.2 start ++ t.toList, start + shown t))
      ([], 0)
    String.ofList line ++ "\n"
  String.join ((List.range rows).map row)

/-- Texts in rows between commas, as many in each as fit. -/
def inCommas (width : Nat) (texts : List String) : String :=
  let (line, _) := (texts.zipIdx).foldl
    (fun (acc : String × Nat) (t, i) =>
      let size := (Octets.toCharacters t.toList).length
      if i = 0 then (t, size)
      else if width = 0 || acc.2 + size + 2 < width then (acc.1 ++ ", " ++ t, acc.2 + size + 2)
      else (acc.1 ++ ",\n" ++ t, size))
    ("", 0)
  line ++ "\n"

/-- The block of files in a listing. -/
def Listing.block (l : Listing) (fs : List Listed) : Run String := do
  let zone ← zoneOf
  let now := (← Run.getSystem).now
  let d ← Run.disk
  let column (f : Listed → String) : Nat := widest (fs.map f)
  let blockText (f : Listed) : String := l.blockText (blocksOf f.inode)
  let numberText (f : Listed) : String := toString f.number
  let blockWidth := column blockText
  let numberWidth := column numberText
  let lead (padded : Bool) (f : Listed) : String :=
    let number :=
      if l.numbers then (if padded then rightAt numberWidth (numberText f) else numberText f) ++ " "
      else ""
    let blocks :=
      if l.blocks then (if padded then rightAt blockWidth (blockText f) else blockText f) ++ " "
      else ""
    number ++ blocks
  let name (f : Listed) : Run String := do return (← l.quoting.apply f.name)
  match l.arrangement with
  | .long => do
    let links (f : Listed) : String := toString (d.linkCount f.number)
    let owner (f : Listed) : String :=
      if l.numeric then toString f.inode.owner else Account.ownerName f.inode.owner
    let group (f : Listed) : String :=
      if l.numeric then toString f.inode.group else Account.groupName f.inode.group
    let size (f : Listed) : String := l.amount f.inode.size
    let time (f : Listed) : String := l.timeText zone now f.inode
    let lines ← fs.mapM fun f => do
      let tail ←
        match f.inode.content with
        | .link target => do
          let quoted ← l.quoting.apply target
          let sign :=
            match ← Run.node true f.path with
            | .ok (_, i) => signOf l.signs i
            | .error _ => ""
          pure (" -> " ++ quoted ++ sign)
        | _ => pure (signOf l.signs f.inode)
      pure (lead true f ++ modeText f.inode ++ " " ++ rightAt (column links) (links f) ++ " "
        ++ (if l.owner then leftAt (column owner) (owner f) ++ " " else "")
        ++ (if l.group then leftAt (column group) (group f) ++ " " else "")
        ++ rightAt (column size) (size f) ++ " " ++ rightAt (column time) (time f) ++ " "
        ++ (← name f) ++ tail ++ l.close)
    pure (String.join lines)
  | arrangement => do
    let padded := arrangement != .commas
    let texts ← fs.mapM fun f => do return lead padded f ++ (← name f) ++ signOf l.signs f.inode
    if texts.isEmpty then pure ""
    else
      match arrangement with
      | .commas => pure (inCommas l.lineWidth texts)
      | .down => pure (inColumns l.lineWidth true texts)
      | .across => pure (inColumns l.lineWidth false texts)
      | _ => pure (String.join (texts.map (· ++ l.close)))

/-- Whether a name in a directory is shown. -/
def Listing.shows (l : Listing) (name : String) : Bool :=
  let isDotted := name.startsWith "."
  (l.all || l.almostAll || !isDotted)
    && !(l.backups && name.endsWith "~")
    && !(l.ignored.any fun p => fits p name && (p.startsWith "." || !isDotted))
    && (l.all || l.almostAll || !(l.hidden.any fun p => fits p name))

/-- The files in a directory that are shown; whether some could not be looked at. -/
def Listing.filesIn (self : String) (l : Listing) (path : String) (dir : Nat) :
    Run (List Listed × Bool) := do
  let d ← Run.disk
  let names := if l.order = .none then (d.names dir).keys else d.children dir
  let names := ((if l.all then [".", ".."] else []) ++ names).filter l.shows
  let (fs, failed) ← names.foldlM
    (fun (acc : List Listed × Bool) name => do
      let inner := under path name
      match ← Run.node l.follows inner with
      | .ok (n, i) => pure (⟨name, inner, n, i⟩ :: acc.1, acc.2)
      | .error e => do
        complain self s!"cannot access {← shellName true inner}: {e.reason}"
        pure (acc.1, true))
    ([], false)
  pure (l.arrange fs.reverse, failed)

/-- The line that tells how many blocks some files take. -/
def Listing.total (l : Listing) (fs : List Listed) : String :=
  if l.arrangement = .long || l.blocks then
    s!"total {l.blockText ((fs.map fun f => blocksOf f.inode).foldl (· + ·) 0)}{l.close}"
  else ""

/-- Lists a directory, and those below it when all are asked for; whether something went wrong. -/
def listDirectory (self : String) (l : Listing) :
    Nat → Bool → Bool → String → Nat → Run Bool
  | 0, _, _, _, _ => pure false
  | depth + 1, headed, first, path, dir => do
    if headed then
      putText self ((if first then "" else "\n") ++ (← l.quoting.apply path) ++ ":\n")
    let (fs, failed) ← l.filesIn self path dir
    putText self (l.total fs ++ (← l.block fs))
    if l.recursive then
      let below := fs.filter fun f => f.inode.isDirectory && f.name != "." && f.name != ".."
      let worse ← anyFails below fun f =>
        listDirectory self l depth true false f.path f.number
      pure (failed || worse)
    else pure failed

def timeStyleName : String := "time style"

/-- The formats for times of old and of recent files. -/
def timeStyle (self : String) (s : String) : Run (String × String) := do
  if s.startsWith "+" then
    let parts := (s.drop 1).toString.splitOn "\n"
    pure (parts.headD "", (parts[1]?).getD (parts.headD ""))
  else
    let styles : List (String × (String × String)) :=
      [("full-iso", ("%Y-%m-%d %H:%M:%S.%N %z", "%Y-%m-%d %H:%M:%S.%N %z")),
        ("long-iso", ("%Y-%m-%d %H:%M", "%Y-%m-%d %H:%M")), ("iso", ("%Y-%m-%d ", "%m-%d %H:%M")),
        ("locale", ("%b %e  %Y", "%b %e %H:%M"))]
    let meant := if s.startsWith "posix-" then "locale" else s
    match chosen? styles meant with
    | .ok style => pure style
    | .error word => do
      complain self s!"{word} argument {← named s} for {← named timeStyleName}"
      let names := styles.map fun style => s!"  - [posix-]{style.1}\n"
      let quotedDate ← shellName true "date"
      Run.say 2 ("Valid arguments are:\n" ++ String.join names
        ++ s!"  - +FORMAT (e.g., +%H:%M) for a {quotedDate}-style format\n")
      hint self 2

def ls : Body := fun self args => do
  let letters := "aAbBcCdDfFgGhHiI:klLmnNopqQrRsStT:uUvw:xXZ1"
    ++ "\x01;\x02:\x03:\x04:\x05:\x06:\x07\x0b\x0e:\x0f\x10;\x11"
  let spec := Spec.ofText letters
    [("all", 'a'), ("almost-all", 'A'), ("escape", 'b'), ("ignore-backups", 'B'),
      ("directory", 'd'), ("classify", '\x10'), ("no-group", 'G'), ("human-readable", 'h'),
      ("si", '\x0f'), ("dereference-command-line", 'H'), ("inode", 'i'), ("ignore", 'I'),
      ("kibibytes", 'k'), ("dereference", 'L'), ("numeric-uid-gid", 'n'), ("literal", 'N'),
      ("hide-control-chars", 'q'), ("quote-name", 'Q'), ("reverse", 'r'), ("recursive", 'R'),
      ("size", 's'), ("sort", '\x02'), ("time", '\x03'), ("time-style", '\x04'), ("width", 'w'),
      ("color", '\x01'), ("format", '\x05'), ("quoting-style", '\x06'),
      ("group-directories-first", '\x07'), ("full-time", '\x0b'), ("hide", '\x0e'),
      ("file-type", '\x11'), ("zero", '\x12')]
  let a ← arguments self { spec with letters := ('\x12', .nothing) :: spec.letters } 2 args
  let values (c : Char) : List String := (a.options.filter fun o => o.1 == c).map Prod.snd
  let isFull := a.has '\x0b'
  let arrangement : Arrangement ←
    match (a.options.filter fun o => "lgno1Cxm\x05\x0b".toList.contains o.1).getLast? with
    | none => pure Arrangement.lines
    | some ('\x05', v) =>
      choice self "--format" v
        [("verbose|long", .long), ("commas", .commas), ("horizontal|across", .across),
          ("vertical", .down), ("single-column", .lines)]
    | some ('1', _) => pure (if (lastOf a "lgno\x0b".toList).isSome then .long else .lines)
    | some ('C', _) => pure .down
    | some ('x', _) => pure .across
    | some ('m', _) => pure .commas
    | some _ => pure .long
  let order : FileOrder ←
    match (a.options.filter fun o => "tSXUvf\x02".toList.contains o.1).getLast? with
    | none => pure (if (a.has 'u' || a.has 'c') && arrangement != .long then .time else .name)
    | some ('t', _) => pure .time
    | some ('S', _) => pure .size
    | some ('X', _) => pure .ending
    | some ('v', _) => pure .version
    | some ('\x02', v) =>
      choice self "--sort" v
        [("none", .none), ("time", .time), ("size", .size), ("extension", .ending),
          ("version", .version), ("width", .width)]
    | some _ => pure .none
  let quoting : Quoting ←
    match (a.options.filter fun o => "bNQ\x06".toList.contains o.1).getLast? with
    | none => pure (if self.endsWith "dir" then Quoting.escaped else .literal)
    | some ('b', _) => pure .escaped
    | some ('Q', _) => pure .double
    | some ('\x06', v) =>
      choice self "--quoting-style" v
        [("literal", .literal), ("shell", .shell false), ("shell-always", .shell true),
          ("shell-escape", .shell false), ("shell-escape-always", .shell true), ("c", .double),
          ("c-maybe", .double), ("escape", .escaped), ("locale", .double), ("clocale", .double)]
    | some _ => pure .literal
  let times ←
    if isFull then timeStyle self "full-iso"
    else timeStyle self (((a.value? '\x04').orElse fun _ => none).getD "locale")
  let lineWidth ←
    match a.value? 'w' with
    | none => pure (((← Run.value? "COLUMNS").bind digits?).getD 80)
    | some v =>
      match digits? v with
      | some n => pure n
      | none => do
        complain self s!"invalid line width: {← named v}"
        quit 2
  let signs : Signs :=
    match (a.options.filter fun o => "Fp\x10\x11".toList.contains o.1).getLast? with
    | none => .none
    | some ('p', _) => .slashes
    | some ('\x11', _) => .kinds
    | some ('\x10', v) => if v = "never" || v = "auto" || v = "none" then .none else .all
    | some _ => .all
  let l : Listing :=
    { all := lastOf a ['a', 'A', 'f'] == some 'a' || a.has 'f'
      almostAll := lastOf a ['a', 'A'] == some 'A', backups := a.has 'B'
      ignored := values 'I', hidden := values '\x0e', plain := a.has 'd', recursive := a.has 'R'
      signs, order, reverse := a.has 'r', directoriesFirst := a.has '\x07', arrangement, quoting
      follows := a.has 'L', accessed := a.has 'u' || values '\x03' == ["atime"]
      blocks := a.has 's', numbers := a.has 'i'
      human := if a.has 'h' then some 1024 else if a.has '\x0f' then some 1000 else none
      numeric := a.has 'n', owner := !a.has 'g', group := !(a.has 'o' || a.has 'G')
      times, lineWidth
      close := if a.has '\x12' then "\x00" else "\n" }
  let operands := if a.operands.isEmpty then ["."] else a.operands
  let follows (path : String) : Run Bool := do
    if l.follows || a.has 'H' then pure true
    else if l.plain || l.signs == .all || l.arrangement == .long then pure false
    else Run.isDirectory path
  let found ← operands.mapM fun path => do
    return (path, ← Run.node (← follows path) path)
  let failed ← anyFails found fun (path, r) => do
    match r with
    | .ok _ => pure false
    | .error e => fails self s!"cannot access {← shellName true path}: {e.reason}"
  let listed := found.filterMap fun
    | (path, .ok (n, i)) => some (⟨path, path, n, i⟩ : Listed)
    | (_, .error _) => none
  let (dirs, files) := listed.partition fun f => f.inode.isDirectory && !l.plain
  let files := l.arrange files
  let dirs := { l with directoriesFirst := false }.arrange dirs
  putText self (← l.block files)
  let headed := 1 < operands.length || l.recursive
  let worse ← anyFails dirs.zipIdx fun (f, i) =>
    listDirectory self l 100 headed (i == 0 && files.isEmpty) f.path f.number
  pure (if failed then 2 else statusOf worse)

/-! What is known about a file -/

/-- The words for a kind of file. -/
def kindName (i : Inode) : String :=
  match i.content with
  | .directory .. => "directory"
  | .link _ => "symbolic link"
  | .pipe => "fifo"
  | .device => "character special file"
  | _ => if i.size = 0 then "regular empty file" else "regular file"

/-- The number of a kind of file above its permissions. -/
def kindNumber (i : Inode) : Nat :=
  match i.content with
  | .directory .. => 4
  | .link _ => 10
  | .pipe => 1
  | .device => 2
  | _ => 8

/-- What a letter of a format tells about a file. -/
def fileFact (zone : Zone) (d : Disk) (path : String) (n : Nat) (i : Inode) (c : Char) :
    Run String := do
  let time (t : Int) : String :=
    (Calendar.ofNanoseconds zone.offset t).formatText zone.name "%Y-%m-%d %H:%M:%S.%N %z"
  let seconds (t : Int) : String := toString (Int.fdiv t (10 ^ 9))
  if c = 'n' then pure path
  else if c = 'N' then
    match i.content with
    | .link target => do return (← shellName true path) ++ " -> " ++ (← shellName true target)
    | _ => shellName true path
  else pure <|
    if c = 'a' then Mode.octal i.mode
    else if c = 'A' then modeText i
    else if c = 'b' then toString (blocksOf i)
    else if c = 'B' then "512"
    else if c = 'd' then "2049"
    else if c = 'D' then "801"
    else if c = 'f' then String.ofList (Nat.toDigits 16 (kindNumber i * 4096 + i.mode))
    else if c = 'F' then kindName i
    else if c = 'g' then toString i.group
    else if c = 'G' then (Account.groupName? i.group).getD "UNKNOWN"
    else if c = 'h' then toString (d.linkCount n)
    else if c = 'i' then toString (1000 + n)
    else if c = 'm' then "/"
    else if c = 'o' then "4096"
    else if c = 's' then toString i.size
    else if c = 't' || c = 'T' then "0"
    else if c = 'u' then toString i.owner
    else if c = 'U' then (Account.ownerName? i.owner).getD "UNKNOWN"
    else if c = 'x' then time i.accessed
    else if c = 'X' then seconds i.accessed
    else if c = 'y' || c = 'z' then time i.changed
    else if c = 'Y' || c = 'Z' then seconds i.changed
    else if c = 'w' then "-"
    else if c = 'W' then "0"
    else "?"

/-- Tells of a file in a format. With escapes, no line end follows. -/
def tellFile (zone : Zone) (d : Disk) (path : String) (n : Nat) (i : Inode) (escapes : Bool) :
    Nat → List Char → Run (List Char)
  | 0, _ => pure []
  | _ + 1, [] => pure []
  | fuel + 1, c :: rest => do
    if c = '%' then
      match rest with
      | [] => pure ['%']
      | '%' :: rest => do return '%' :: (← tellFile zone d path n i escapes fuel rest)
      | rest => do
        let flags := rest.takeWhile fun f => "#-+ 0'".toList.contains f
        let behind := rest.drop flags.length
        let digits := behind.takeWhile Char.isDigit
        let behind := behind.drop digits.length
        let (precision, behind) :=
          match behind with
          | '.' :: more =>
            let ds := more.takeWhile Char.isDigit
            (some (Decimal.value ds), more.drop ds.length)
          | behind => (none, behind)
        match behind with
        | [] => pure rest
        | letter :: behind => do
          let (letter, behind) :=
            match letter, behind with
            | 'H', 'd' :: more => ('\x00', more)
            | 'L', 'd' :: more => ('\x00', more)
            | letter, behind => (letter, behind)
          let fact ← fileFact zone d path n i letter
          let isNumber := "abBdDfghiosuXYZW".toList.contains letter
          let fact :=
            if isNumber then fact else (precision.elim fact fun p => (fact.take p).toString)
          let layout : Layout := ⟨flags, Decimal.value digits, none⟩
          let shown :=
            if isNumber && flags.contains '0' && !flags.contains '-' then
              List.replicate (layout.width - fact.length) '0' ++ fact.toList
            else layout.pad fact.toList
          let more ← tellFile zone d path n i escapes fuel behind
          pure (shown ++ more)
    else if c = '\\' && escapes then
      let (e, left) := Escape.read rest
      return e :: (← tellFile zone d path n i escapes fuel left)
    else return c :: (← tellFile zone d path n i escapes fuel rest)

/-- The format that is used for want of one. -/
def wholeStat (i : Inode) : String :=
  let name := if i.isLink then "  File: %N\n" else "  File: %n\n"
  name ++ "  Size: %-10s\tBlocks: %-10b IO Block: %-6o %F\n"
    ++ "Device: %Hd,%Ld\tInode: %-11i Links: %h\n"
    ++ "Access: (%04a/%10.10A)  Uid: (%5u/%8U)   Gid: (%5g/%8G)\n"
    ++ "Access: %x\nModify: %y\nChange: %z\n Birth: %w\n"

def stat : Body := fun self args => do
  let a ← arguments self
    (.ofText "c:fLt\x01:\x02:"
      [("format", 'c'), ("printf", '\x01'), ("dereference", 'L'), ("file-system", 'f'),
        ("terse", 't'), ("cached", '\x02')])
    1 args
  if a.operands.isEmpty then misuse self "missing operand" 1
  let zone ← zoneOf
  let d ← Run.disk
  let failed ← anyFails a.operands fun path => do
    match ← Run.node (a.has 'L') path with
    | .error e =>
      match Run.deviceStream? path with
      | some _ => pure false
      | none => fails self s!"cannot statx {← shellName true path}: {e.reason}"
    | .ok (n, i) => do
      let format := (a.options.filter fun o => o.1 == 'c' || o.1 == '\x01').getLast?
      let (text, escapes) :=
        match format with
        | some ('\x01', v) => (v, true)
        | some (_, v) => (v ++ "\n", false)
        | none =>
          if a.has 't' then ("%n %s %b %f %u %g %D %i %h %t %T %X %Y %Z %W %o\n", false)
          else (wholeStat i, false)
      put self (← tellFile zone d path n i escapes (text.length + 1) text.toList)
      pure false
  pure (statusOf failed)

end CredoAssistant.Shell.Program
