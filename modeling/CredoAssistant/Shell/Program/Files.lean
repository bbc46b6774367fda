import CredoAssistant.Shell.Program.Common
import CredoAssistant.Shell.Program.Listing

/-!
Programs that make and remove files, and change what is known about them.
-/
namespace CredoAssistant.Shell.Program

/-- A node that is made under a name that leads to nothing yet. -/
def make (s : Spot) (content : Content) (mode : Nat) : Run Unit :=
  Run.changeDisk fun now d => (d.add now s.parent s.name content mode).1

/-- Takes a name away. -/
def dropSpot (s : Spot) : Run Unit := Run.changeDisk fun now d => d.dropName now s.parent s.name

/-- The permissions of something new: all that are asked for, less the mask. -/
def newMode (asked : Nat) : Run Nat := do return Mode.without asked (← get).mask

/-- Reads a mode, or complains and ends the program. -/
def modeOf (self text : String) : Run (List Mode.Change) := do
  match Mode.parse? text with
  | some changes => pure changes
  | none => do
    complain self s!"invalid mode {← named text}"
    quit 1

/-- Asks a question; whether the answer begins with a yes. -/
def confirm (question : String) : Run Bool := do
  Run.say 2 question
  let cs ← Run.available 0
  let line := cs.takeWhile (· != '\n')
  Run.consume 0 (line.length + 1)
  pure (line.head? == some 'y' || line.head? == some 'Y')

/-! Directories -/

/-- Makes the directories on the way along a path, and the last one; whether something went
wrong. -/
def makeParents (self : String) (verbose : Bool) (mode : Nat) : String → List String → Run Bool
  | _, [] => pure false
  | done, part :: rest => do
    let path := done ++ part
    let fail (reason : String) : Run Bool := do
      complain self s!"cannot create directory {← named path}: {reason}"
      pure true
    match ← Run.spot true path with
    | .error e => fail e.reason
    | .ok s =>
      match s.found with
      | some n =>
        if (← Run.disk).isDirectory n then makeParents self verbose mode (path ++ "/") rest
        else fail (if rest.isEmpty then "File exists" else "Not a directory")
      | none => do
        let passing := (← newMode 511) ||| 192
        make s (.directory Disk.root []) (if rest.isEmpty then mode else passing)
        if verbose then putText self s!"{self}: created directory {← shellName true path}\n"
        makeParents self verbose mode (path ++ "/") rest

def mkdir : Body := fun self args => do
  let a ← arguments self
    (.ofText "pm:vZ" [("parents", 'p'), ("mode", 'm'), ("verbose", 'v')]) 1 args
  if a.operands.isEmpty then misuse self "missing operand" 1
  let mode ←
    match a.value? 'm' with
    | none => newMode 511
    | some text =>
      match Mode.parse? text with
      | some changes => pure (Mode.apply true (← get).mask changes 511)
      | none => do
        complain self s!"invalid mode {← named text}"
        quit 1
  let failed ← anyFails a.operands fun path => do
    if a.has 'p' then
      if path = "" then do
        fails self s!"cannot create directory {← named path}: No such file or directory"
      else
        let front := if path.startsWith "/" then "/" else ""
        makeParents self (a.has 'v') mode front (Disk.partsOf path)
    else
      let refuse (reason : String) : Run Bool := do
        fails self s!"cannot create directory {← named path}: {reason}"
      match ← Run.spot false path with
      | .error .notDirectory => do
        let found ← Run.node true (bare path)
        refuse (if found.toOption.isSome then "File exists" else "Not a directory")
      | .error e => refuse e.reason
      | .ok s =>
        if s.found.isSome then refuse "File exists"
        else if !(← Run.disk).isAttached s.parent then refuse Fault.missing.reason
        else do
          make s (.directory Disk.root []) mode
          if a.has 'v' then putText self s!"{self}: created directory {← shellName true path}\n"
          pure false
  pure (statusOf failed)

/-- A directory with a name that nothing else has. -/
def mktemp : Body := fun self args => do
  let a ← arguments self
    (.ofText "dqtup:\x01:\x02;"
      [("directory", 'd'), ("quiet", 'q'), ("dry-run", 'u'), ("tmpdir", '\x02'),
        ("suffix", '\x01')])
    1 args
  match a.operands with
  | _ :: _ :: _ => misuse self "too many templates" 1
  | operands => do
    let template := operands.headD "tmp.XXXXXXXXXX"
    let inTemp := operands.isEmpty || a.has 'p' || a.has '\x02' || a.has 't'
    let places := template.toList.reverse.takeWhile (· == 'X')
    if places.length < 3 then do
      complain self s!"too few X's in template {← named template}"
      quit 1
    let n ← Run.fresh
    let ds := Nat.toDigits 10 n
    let letters := List.replicate (places.length - ds.length) 'a' ++
      ds.drop (ds.length - places.length)
    let stem := String.ofList (template.toList.take (template.length - places.length))
    let given := ((a.value? 'p').or (a.value? '\x02')).getD ""
    let standard := (← Run.value? "TMPDIR").getD "/tmp"
    let dir := if given = "" then standard else given
    let name := stem ++ String.ofList letters ++ (a.value? '\x01').getD ""
    let path := if inTemp then under dir name else name
    match ← Run.spot false path with
    | .error e => do
      let kind := if a.has 'd' then "directory" else "file"
      let shown := if inTemp then under dir template else template
      complain self s!"failed to create {kind} via template {← named shown}: {e.reason}"
      pure 1
    | .ok s => do
      if !a.has 'u' then
        if a.has 'd' then make s (.directory Disk.root []) 448 else make s (.regular []) 384
      putText self (path ++ "\n")
      pure 0

def rmdir : Body := fun self args => do
  let a ← arguments self
    (.ofText "pv\x01" [("parents", 'p'), ("verbose", 'v'), ("ignore-fail-on-non-empty", '\x01')])
    1 args
  if a.operands.isEmpty then misuse self "missing operand" 1
  let remove (words path : String) : Run Bool := do
    if a.has 'v' then putText self s!"{self}: removing directory, {← shellName true path}\n"
    let refuse (reason : String) : Run Bool := do
      fails self s!"failed to remove {words}{← shellName true path}: {reason}"
    match ← Run.spot false path with
    | .error e => refuse e.reason
    | .ok s => do
      let d ← Run.disk
      match s.found with
      | none => refuse Fault.missing.reason
      | some n =>
        if !d.isDirectory n then refuse Fault.notDirectory.reason
        else if s.name = "" && lastPart path = "." then refuse Fault.invalid.reason
        else if !(d.names n).isEmpty then
          if a.has '\x01' then pure true else refuse Fault.notEmpty.reason
        else if s.name = "" then refuse Fault.notEmpty.reason
        else do
          dropSpot s
          pure false
  let failed ← anyFails a.operands fun path => do
    if ← remove "" path then pure (!a.has '\x01')
    else if !a.has 'p' then pure false
    else
      let above (p : String) : List String :=
        let parts := Disk.partsOf p
        ((List.range parts.length).map fun k => "/".intercalate (parts.take k)).filter (· != "")
      let lead := if path.startsWith "/" then "/" else ""
      (above path).reverse.foldlM
        (fun stopped p => if stopped then pure true else remove "directory " (lead ++ p)) false
  pure (statusOf failed)

/-! Removing -/

/-- How files are removed. -/
structure Removal where
  force : Bool
  deep : Bool
  empty : Bool
  asks : Bool
  verbose : Bool

/-- The words for a kind of file in a question. -/
def questionKind (i : Inode) : String :=
  match i.content with
  | .directory .. => "directory"
  | .link _ => "symbolic link"
  | .pipe => "fifo"
  | .device => "character special file"
  | _ => if i.size = 0 then "regular empty file" else "regular file"

/-- Removes a file and all below it; whether something was left. -/
def removeTree (self : String) (r : Removal) : Nat → String → Run Bool
  | 0, _ => pure true
  | fuel + 1, path => do
    let refuse (reason : String) : Run Bool := do
      fails self s!"cannot remove {← shellName true path}: {reason}"
    match ← Run.spot false path with
    | .error .missing => if r.force then pure false else refuse Fault.missing.reason
    | .error e => if r.force && e == .notDirectory then pure false else refuse e.reason
    | .ok s => do
      let d ← Run.disk
      match s.found.bind fun n => (d.get? n).map fun i => (n, i) with
      | none => if r.force then pure false else refuse Fault.missing.reason
      | some (n, i) => do
        let isLinkDirectory := path.endsWith "/" && (← Run.node false (bare path)).toOption.any
          fun e => e.2.isLink
        let gone : Run Bool := do
          if isLinkDirectory then return ← refuse Fault.notDirectory.reason
          dropSpot s
          if r.verbose then
            let kind := if i.isDirectory then "removed directory " else "removed "
            putText self (kind ++ (← shellName true path) ++ "\n")
          pure false
        let ask (words : String) : Run Bool := do
          if r.asks then confirm s!"{self}: {words} {← shellName true path}? " else pure true
        if !i.isDirectory then
          if ← ask ("remove " ++ questionKind i) then gone else pure false
        else
          let last := lastPart path
          let isEmpty := (d.names n).isEmpty
          if !r.deep && !(r.empty && isEmpty) then
            refuse (if r.empty then Fault.notEmpty.reason else Fault.isDirectory.reason)
          else if last = "." || last = ".." then do
            fails self
              s!"refusing to remove '.' or '..' directory: skipping {← shellName true path}"
          else if path.startsWith "/" && n = Disk.root then do
            complain self s!"it is dangerous to operate recursively on {← shellName true path}"
            fails self "use --no-preserve-root to override this failsafe"
          else if !(← if isEmpty then pure true else ask "descend into directory") then pure false
          else do
            let worse ← anyFails (d.names n).keys fun name =>
              removeTree self r fuel (under path name)
            if worse then pure true
            else if ← ask "remove directory" then
              if ((← Run.disk).names n).isEmpty then gone
              else if r.asks then refuse Fault.notEmpty.reason
              else gone
            else pure false

def rm : Body := fun self args => do
  let a ← arguments self
    (.ofText "dfiIrRv\x01;\x02"
      [("dir", 'd'), ("force", 'f'), ("interactive", '\x01'), ("recursive", 'r'), ("verbose", 'v'),
        ("one-file-system", '\x02'), ("no-preserve-root", '\x02'), ("preserve-root", '\x02')])
    1 args
  let last := lastOf a ['f', 'i', 'I', '\x01']
  let force := last == some 'f'
  let deep := a.has 'r' || a.has 'R'
  if a.operands.isEmpty && !a.has 'f' then misuse self "missing operand" 1
  let how ←
    match a.value? '\x01' with
    | none => pure 2
    | some "" => pure 2
    | some v => choice self "--interactive" v [("never|no|none", 0), ("once", 1), ("always|yes", 2)]
  let asks := last == some 'i' || (last == some '\x01' && how == 2)
  let once := last == some 'I' || (last == some '\x01' && how == 1)
  let count := a.operands.length
  if once && (deep || 3 < count) then
    let word := if count = 1 then "argument" else "arguments"
    let extra := if deep then " recursively" else ""
    if !(← confirm s!"{self}: remove {count} {word}{extra}? ") then quit 0
  let r : Removal := ⟨force, deep, a.has 'd', asks, a.has 'v'⟩
  return statusOf (← anyFails a.operands (removeTree self r 1000))

def unlink : Body := fun self args => do
  let a ← arguments self (.ofText "" []) 1 args
  match a.operands with
  | [path] => do
    let refuse (reason : String) : Run Nat := do
      complain self s!"cannot unlink {← shellName true path}: {reason}"
      pure 1
    match ← Run.spot false path with
    | .error e => refuse e.reason
    | .ok s =>
      match s.found with
      | none => refuse Fault.missing.reason
      | some n =>
        if (← Run.disk).isDirectory n then refuse Fault.isDirectory.reason
        else do
          dropSpot s
          pure 0
  | [] => misuse self "missing operand" 1
  | _ :: x :: _ => misuse self s!"extra operand {← named x}" 1

/-! Times and sizes -/

/-- The time of digits for month, day, hour and minute, with a year in front or without, and seconds
behind a point. -/
def stampOf? (now : Calendar) (s : String) : Option Int := do
  let cs := s.toList
  let front := cs.takeWhile (· != '.')
  let behind := cs.drop (front.length + 1)
  if !Decimal.isNumeral front then none
  let second ←
    if front.length = cs.length then some 0
    else if behind.length = 2 && Decimal.isNumeral behind then some (Decimal.value behind)
    else none
  let two (k : Nat) : Nat := Decimal.value ((front.drop k).take 2)
  let (year, start) ←
    match front.length with
    | 8 => some (now.year, 0)
    | 10 => some (((if two 0 < 69 then 2000 else 1900) + two 0 : Nat), 2)
    | 12 => some ((Decimal.value (front.take 4) : Int), 4)
    | _ => none
  let month := two start
  let day := two (start + 2)
  let hour := two (start + 4)
  let minute := two (start + 6)
  if month < 1 || 12 < month || day < 1 || Date.daysIn year.toNat month < day || 23 < hour
      || 59 < minute || 60 < second then none
  else some (⟨year, month, day, hour, minute, second, 0, now.offset⟩ : Calendar).toNanoseconds

/-- The times that a program is told to set: of reading and of change. -/
def timesToSet (self : String) (a : Arguments) : Run (Int × Int) := do
  let zone ← zoneOf
  let now := (← Run.getSystem).now
  let seen (t : Int) : Calendar := Calendar.ofNanoseconds zone.offset t
  let read (t : Int) : Run Int := do
    match a.value? 'd' with
    | none => pure t
    | some text =>
      match DateText.read? (seen t) text with
      | some t => pure t
      | none => do
        complain self s!"invalid date format {← named text}"
        quit 1
  match a.value? 'r' with
  | some file => do
    match ← Run.node (!a.has 'h') file with
    | .error e => do
      complain self s!"failed to get attributes of {← shellName true file}: {e.reason}"
      quit 1
    | .ok (_, i) => do
      let accessed ← read i.accessed
      let changed ← read i.changed
      pure (accessed, changed)
  | none =>
    match a.value? 't' with
    | some text =>
      match stampOf? (seen now) text with
      | some t => pure (t, t)
      | none => do
        complain self s!"invalid date format {← named text}"
        quit 1
    | none => do
      let t ← read now
      pure (t, t)

def touch : Body := fun self args => do
  let a ← arguments self
    (.ofText "acd:fhmr:t:\x01:"
      [("no-create", 'c'), ("date", 'd'), ("reference", 'r'), ("no-dereference", 'h'),
        ("time", '\x01')])
    1 args
  if (a.has 'd' && a.has 't') || (a.has 'r' && a.has 't') then do
    complain self "cannot specify times from more than one source"
    hint self 1
  let which ←
    match a.value? '\x01' with
    | none => pure ' '
    | some v => choice self "--time" v [("atime|access|use", 'a'), ("mtime|modify", 'm')]
  let readOnly := (a.has 'a' || which == 'a') && !a.has 'm'
  let changeOnly := (a.has 'm' || which == 'm') && !a.has 'a'
  let (accessed, changed) ← timesToSet self a
  if a.operands.isEmpty then misuse self "missing file operand" 1
  let failed ← anyFails a.operands fun path => do
    let refuse (reason : String) : Run Bool := do
      fails self s!"cannot touch {← shellName true path}: {reason}"
    let mark (n : Nat) : Run Bool := do
      Run.changeDisk fun _ d => d.update n fun i =>
        { i with
          accessed := if changeOnly then i.accessed else accessed
          changed := if readOnly then i.changed else changed }
      pure false
    match ← Run.spot (!a.has 'h') path with
    | .error e => if a.has 'c' && e == .missing then pure false else refuse e.reason
    | .ok s =>
      match s.found with
      | some n => mark n
      | none =>
        if a.has 'c' then pure false
        else if a.has 'h' then
          refuse Fault.missing.reason
        else if path.endsWith "/" then
          fails self s!"setting times of {← shellName true path}: {Fault.missing.reason}"
        else if !(← Run.disk).isAttached s.parent then
          refuse Fault.missing.reason
        else do
          let mode ← newMode 438
          let now := (← Run.getSystem).now
          let (d, n) := (← Run.disk).add now s.parent s.name (.regular []) mode
          Run.modifySystem fun s => { s with disk := d }
          mark n
  pure (statusOf failed)

/-- A number with a unit of bytes behind it. Without a digit the unit counts once. -/
def bytesOf? (s : String) : Option Nat :=
  let cs := s.toList
  let ds := cs.takeWhile Char.isDigit
  let unit := String.ofList (cs.drop ds.length)
  let powers := "KMGTPEZYRQ".toList
  let factor : Option Nat :=
    if unit = "" then some 1
    else if unit = "b" then some 512
    else if unit = "c" then some 1
    else
      match unit.toList with
      | c :: rest =>
        let c := if c = 'k' then 'K' else if c = 'm' then 'M' else c
        (powers.idxOf? c).bind fun i =>
          match rest with
          | [] => some (1024 ^ (i + 1))
          | ['B'] => some (1000 ^ (i + 1))
          | ['i', 'B'] => some (1024 ^ (i + 1))
          | _ => none
      | [] => none
  if ds.isEmpty && unit = "" then none
  else factor.map fun f => (if ds.isEmpty then 1 else Decimal.value ds) * f

/-- Makes a file shorter or longer. -/
def truncate : Body := fun self args => do
  let a ← arguments self
    (.ofText "cor:s:"
      [("no-create", 'c'), ("io-blocks", 'o'), ("reference", 'r'), ("size", 's')]) 1 args
  if !a.has 's' && !a.has 'r' then
    misuse self
      ("you must specify either " ++ (← named "--size") ++ " or " ++ (← named "--reference")) 1
  if a.operands.isEmpty then misuse self "missing file operand" 1
  let text := ((a.value? 's').getD "+0").toList.dropWhile DateText.isGap
  let op := text.headD '0'
  let isRelative := "+-<>/%".toList.contains op
  let digits := String.ofList (if isRelative then text.drop 1 else text)
  let amount ←
    match (bytesOf? digits).filter fun _ => (digits.toList.head?).any Char.isDigit with
    | some n => pure n
    | none => do
      let given := (a.value? 's').getD ""
      complain self s!"Invalid number: {← named given}"
      quit 1
  if (op = '/' || op = '%') && amount = 0 then do
    complain self "division by zero"
    quit 1
  let base? ←
    match a.value? 'r' with
    | none => pure none
    | some file => do
      match ← Run.node true file with
      | .ok (_, i) => pure (some i.size)
      | .error e => do
        complain self s!"cannot stat {← shellName true file}: {e.reason}"
        quit 1
  let failed ← anyFails a.operands fun path => do
    let existing : Run (Except Fault Nat) := do return (← Run.node true path).map Prod.fst
    let opened ← if a.has 'c' then existing else Run.creating false path
    match opened with
    | .error e =>
      if a.has 'c' && e == .missing then pure false
      else fails self s!"cannot open {← shellName true path} for writing: {e.reason}"
    | .ok n => do
      let old := (← Run.disk).bytes n
      let base := base?.getD old.length
      let size :=
        if !isRelative then amount
        else if op = '+' then base + amount
        else if op = '-' then base - amount
        else if op = '<' then min base amount
        else if op = '>' then max base amount
        else if op = '/' then base / amount * amount
        else (base + amount - 1) / amount * amount
      let new := old.take size ++ List.replicate (size - old.length) 0
      Run.changeDisk fun now d => d.write now n new
      pure false
  pure (statusOf failed)

def mkfifo : Body := fun self args => do
  let a ← arguments self (.ofText "m:Z" [("mode", 'm')]) 1 args
  if a.operands.isEmpty then misuse self "missing operand" 1
  let mode ←
    match a.value? 'm' with
    | none => newMode 438
    | some text => do
      let changes ← modeOf self text
      pure (Mode.apply false (← get).mask changes 438)
  let failed ← anyFails a.operands fun path => do
    let refuse (reason : String) : Run Bool := do
      fails self s!"cannot create fifo {← shellName true path}: {reason}"
    match ← Run.spot false path with
    | .error e => refuse e.reason
    | .ok s =>
      if s.found.isSome then refuse "File exists"
      else do
        make s .pipe mode
        pure false
  pure (statusOf failed)

/-! Permissions and owners -/

/-- The files that are changed: the operands, or all below them. -/
def targets (deep : Bool) (operands : List String) : Run (List (String × Bool)) := do
  if !deep then pure (operands.map fun p => (p, true))
  else do
    let all ← operands.mapM fun p => do
      let below ← tree 1000 p
      pure (below.map fun q => (q, q == p))
    pure all.flatten

/-- Permissions in four octal digits. -/
def fourDigits (mode : Nat) : String :=
  String.ofList (Decimal.padded 4 (Decimal.value (Nat.toDigits 8 mode)))

/-- Whether an argument takes permissions away, and only looks like options. -/
def isModeArgument (s : String) : Bool :=
  s.startsWith "-" && 1 < s.length &&
    (s.toList.drop 1).all fun c => "rwxXstugo,+-=01234567".toList.contains c

def chmod : Body := fun self args => do
  let front := args.takeWhile (· != "--")
  let modes := front.filter isModeArgument
  let a ← arguments self
    (.ofText "cfvR\x01:\x02"
      [("recursive", 'R'), ("verbose", 'v'), ("changes", 'c'), ("silent", 'f'), ("quiet", 'f'),
        ("reference", '\x01'), ("preserve-root", '\x02'), ("no-preserve-root", '\x02')])
    1 (front.filter (fun s => !isModeArgument s) ++ args.drop front.length)
  let reference := a.value? '\x01'
  let given := if modes.isEmpty then [] else [",".intercalate modes]
  let operands := if reference.isSome then "" :: a.operands else given ++ a.operands
  match operands with
  | [] => misuse self "missing operand" 1
  | [mode] =>
    if reference.isSome then misuse self "missing operand" 1
    else misuse self s!"missing operand after {← named mode}" 1
  | mode :: files => do
    let changes ←
      match reference with
      | some file => do
        match ← Run.node true file with
        | .ok (_, i) => pure [(⟨Mode.all, '=', .plain, i.mode, Mode.all⟩ : Mode.Change)]
        | .error e => do
          complain self s!"failed to get attributes of {← shellName true file}: {e.reason}"
          quit 1
      | none =>
        match Mode.parse? mode with
        | some changes => pure changes
        | none => misuse self s!"invalid mode: {← named mode}" 1
    let mask := (← get).mask
    let failed ← anyFails (← targets (a.has 'R') files) fun (path, isTop) => do
      match ← Run.node true path with
      | .error e =>
        if !isTop && (← Run.node false path).toOption.isSome then pure false
        else do
          let name ← shellName true path
          if !a.has 'f' then
            complain self (← match ← Run.node false path with
              | .ok _ => pure s!"cannot operate on dangling symlink {name}"
              | .error _ => pure s!"cannot access {name}: {e.reason}")
          if a.has 'v' then putText self s!"{name} could not be accessed\n"
          pure true
      | .ok (n, i) => do
        let isLink := (← Run.node false path).toOption.any fun e => e.2.isLink
        if isLink && !isTop then
          if a.has 'v' then
            putText self
              s!"neither symbolic link {← shellName true path} nor referent has been changed\n"
          pure false
        else do
          let new := Mode.apply i.isDirectory mask changes i.mode
          Run.changeDisk fun _ d => d.update n fun i => { i with mode := new }
          let shown (m : Nat) : String := s!"{fourDigits m} ({Mode.letters m})"
          if new ≠ i.mode && (a.has 'v' || a.has 'c') then
            putText self
              s!"mode of {← shellName true path} changed from {shown i.mode} to {shown new}\n"
          else if a.has 'v' then
            putText self s!"mode of {← shellName true path} retained as {shown new}\n"
          let naive := Mode.apply i.isDirectory 0 changes i.mode
          if !modes.isEmpty && Mode.without new naive ≠ 0 then do
            let (actual, wanted) := (Mode.letters new, Mode.letters naive)
            fails self s!"{← shellName false path}: new permissions are {actual}, not {wanted}"
          else pure false
    pure (statusOf failed)

/-- The number of an owner or a group by its name or digits. -/
def accountNumber? (isGroup : Bool) (s : String) : Option Nat :=
  let found :=
    if isGroup then (Account.groups.find? fun g => g.1 == s).map Prod.snd
    else (Account.find? s).map Account.number
  found <|> digits? s

/-- An owner and a group as they are written together. -/
def ownership : Option String → Option String → String
  | some u, some g => u ++ ":" ++ g
  | some u, none => u
  | none, some g => g
  | none, none => ""

/-- Gives files to somebody. -/
def chownWith (onlyGroup : Bool) : Body := fun self args => do
  let a ← arguments self
    (.ofText "cfhHLPRv\x01:"
      [("recursive", 'R'), ("verbose", 'v'), ("changes", 'c'), ("silent", 'f'), ("quiet", 'f'),
        ("no-dereference", 'h'), ("reference", '\x01')])
    1 args
  match a.operands with
  | [] => misuse self "missing operand" 1
  | [x] => misuse self s!"missing operand after {← named x}" 1
  | spec :: files => do
    let (user, group) : String × Option String :=
      if onlyGroup then ("", some spec)
      else
        match (spec.splitOn ":") with
        | [u] => (u, none)
        | u :: g :: _ => (u, some g)
        | [] => ("", none)
    let owner ←
      if user = "" then pure none
      else
        match accountNumber? false user with
        | some n => pure (some n)
        | none => do
          complain self s!"invalid user: {← named spec}"
          quit 1
    let group ←
      match group with
      | none => pure none
      | some g =>
        if g = "" then pure ((Account.find? user).map Account.group)
        else
          match accountNumber? true g with
          | some n => pure (some n)
          | none => do
            complain self s!"invalid group: {← named spec}"
            quit 1
    let part (n? : Option Nat) (isGroup : Bool) : Option String :=
      n?.map (if isGroup then Account.groupName else Account.ownerName)
    let words := if onlyGroup then [spec] else spec.splitOn ":"
    let newGroup :=
      if onlyGroup then some spec
      else (words[1]?).bind fun g => if g = "" then part group true else some g
    let newUser := if onlyGroup then none else words.head?.filter (· != "")
    let what := if newUser.isNone && newGroup.isSome then "group" else "ownership"
    let asked := ownership newUser newGroup
    let failed ← anyFails (← targets (a.has 'R') files) fun (path, _) => do
      let name ← shellName true path
      match ← Run.node (!a.has 'h') path with
      | .error e => do
        if !a.has 'f' then
          complain self (← match ← Run.node false path with
            | .ok _ => pure s!"cannot dereference {name}: {e.reason}"
            | .error _ => pure s!"cannot access {name}: {e.reason}")
        if a.has 'v' then
          let (what, asked) :=
            if onlyGroup || newUser.isSome then (what, asked) else ("ownership", ":" ++ asked)
          putText self s!"failed to change {what} of {name} to {asked}\n"
        pure true
      | .ok (n, i) => do
        let changed := owner.any (· != i.owner) || group.any (· != i.group)
        let old := ownership (newUser.bind fun _ => part (some i.owner) false)
          (newGroup.bind fun _ => part (some i.group) true)
        if changed && (a.has 'v' || a.has 'c') then
          putText self s!"changed {what} of {name} from {old} to {asked}\n"
        else if a.has 'v' then
          let as := if asked = "" then "" else " as " ++ old
          putText self s!"{what} of {name} retained{as}\n"
        Run.changeDisk fun _ d => d.update n fun i =>
          { i with owner := owner.getD i.owner, group := group.getD i.group }
        pure false
    pure (statusOf failed)

end CredoAssistant.Shell.Program
