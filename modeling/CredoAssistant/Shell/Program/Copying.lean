import CredoAssistant.Shell.Program.Files

/-!
Programs that copy, move and link files.
-/
namespace CredoAssistant.Shell.Program

/-- The operands of a program that takes sources and a target: the sources, the target, and whether
the sources go below it. -/
def sourcesAndTarget (self : String) (a : Arguments) : Run (List String × String × Bool) := do
  match a.value? 't' with
  | some dir => do
    if a.operands.isEmpty then misuse self "missing file operand" 1
    match ← Run.node true dir with
    | .ok (_, i) => do
      if i.isDirectory then pure (a.operands, dir, true)
      else do
        complain self s!"target directory {← shellName true dir}: Not a directory"
        quit 1
    | .error e => do
      complain self s!"target directory {← shellName true dir}: {e.reason}"
      quit 1
  | none => do
    match a.operands with
    | [] => misuse self "missing file operand" 1
    | [x] => misuse self s!"missing destination file operand after {← shellName true x}" 1
    | operands => do
      let target := operands.getLast?.getD ""
      let found ← Run.node true target
      let isDirectory := found.toOption.any fun e => e.2.isDirectory
      if a.has 'T' then do
        match operands with
        | _ :: _ :: x :: _ => misuse self s!"extra operand {← shellName true x}" 1
        | _ => pure (operands.dropLast, target, false)
      else if 2 < operands.length && !isDirectory then do
        let reason :=
          match found with
          | .ok _ => Fault.notDirectory.reason
          | .error e => e.reason
        complain self s!"target {← shellName true target}: {reason}"
        quit 1
      else pure (operands.dropLast, target, isDirectory)

/-- Where a source goes. -/
def destination (target : String) (below : Bool) (source : String) : String :=
  if below then under target (lastPart source) else target

/-- What happens where a target is there already. -/
inductive Overwriting
  | always
  | never
  | silentlyNever
  | ifOlder
  | asks
  deriving DecidableEq, Repr

/-- How files are copied. Symbolic links are followed among the operands or everywhere; what is not
copied may be linked instead. -/
structure Copying where
  deep : Bool
  followsOperands : Bool
  followsAll : Bool
  keeps : Bool
  overwriting : Overwriting
  removesTarget : Bool
  verbose : Bool
  links : Option Char
  parents : Bool
  backup : Option String
  bare : Bool

/-- Sets permissions and times of a node to those of another one. -/
def keepFacts (n : Nat) (i : Inode) : Run Unit :=
  Run.changeDisk fun _ d => d.update n fun j =>
    { j with mode := i.mode, owner := i.owner, group := i.group, changed := i.changed
             accessed := i.accessed }

/-- Makes a node and gives its number. -/
def created (s : Spot) (content : Content) (mode : Nat) : Run Nat := do
  let now := (← Run.getSystem).now
  let (d, n) := (← Run.disk).add now s.parent s.name content mode
  Run.modifySystem fun s => { s with disk := d }
  pure n

/-- The name of a program that makes directories and links, and whether it may overwrite a
target. -/
def mayOverwrite (self : String) (o : Overwriting) (source target : Inode) (path : String) :
    Run (Bool × Bool) := do
  match o with
  | .always => pure (true, false)
  | .silentlyNever => pure (false, false)
  | .never => do
    complain self s!"not replacing {← shellName true path}"
    pure (false, true)
  | .ifOlder => pure (target.changed < source.changed, false)
  | .asks => do
    let yes ← confirm s!"{self}: overwrite {← shellName true path}? "
    pure (yes, !yes)

/-- Puts a target aside under another name. -/
def setAside (suffix : Option String) (s : Spot) : Run Unit := do
  match suffix with
  | none => pure ()
  | some suffix =>
    match s.found with
    | none => pure ()
    | some _ =>
      Run.changeDisk fun now d =>
        d.move now s ⟨s.parent, s.name ++ suffix, none⟩

/-- Copies a file, or a directory with all below it; whether something went wrong. -/
def copyTo (self : String) (c : Copying) : Nat → Bool → String → String → Run Bool
  | 0, _, _, _ => pure true
  | fuel + 1, isOperand, source, new => do
    let follows := c.followsAll || (isOperand && c.followsOperands)
    match ← Run.node follows source with
    | .error e => fails self s!"cannot stat {← shellName true source}: {e.reason}"
    | .ok (n, i) => do
      if i.isDirectory && !c.deep then
        let reason := if c.bare then "" else "-r not specified; "
        return ← fails self (reason ++ s!"omitting directory {← shellName true source}")
      let make (kind reason : String) : Run Bool := do
        fails self s!"cannot create {kind} {← shellName true new}: {reason}"
      let kind :=
        if i.isDirectory then "directory" else if i.isLink then "symbolic link" else "regular file"
      match ← Run.spot false new with
      | .error e =>
        if e == .notDirectory then fails self s!"cannot stat {← shellName true new}: {e.reason}"
        else make kind e.reason
      | .ok own => do
        let d ← Run.disk
        let target ← Run.node true new
        let tell : Run Unit := do
          if c.verbose then
            putText self s!"{← shellName true source} -> {← shellName true new}\n"
        let isDirectory := target.toOption.any fun e => e.2.isDirectory
        let isSame := target.toOption.any fun e => e.1 == n
        if isSame && !i.isDirectory && c.links != some 'l' then
          return ← fails self
            s!"{← shellName true source} and {← shellName true new} are the same file"
        if isDirectory && !i.isDirectory then
          return ← fails self
            s!"cannot overwrite directory {← shellName true new} with non-directory"
        if i.isDirectory then
          if target.toOption.any fun e => !e.2.isDirectory then
            let (oldName, newName) := (← shellName true source, ← shellName true new)
            fails self s!"cannot overwrite non-directory {newName} with directory {oldName}"
          else
            let inside := (List.range d.next).any fun k =>
              (Nat.repeat d.parent k own.parent) == n && n != Disk.root
            if isSame && isOperand then
              if !inside then
                return ← fails self
                  s!"{← shellName true source} and {← shellName true new} are the same file"
            if (inside || own.parent == n || isSame) && isOperand then do
              let (oldName, newName) := (← shellName true source, ← shellName true new)
              fails self s!"cannot copy a directory, {oldName}, into itself, {newName}"
            else do
              let isNew := own.found.isNone
              if isNew && !d.isAttached own.parent then make kind Fault.missing.reason
              else do
                let names := d.children n
                let number ←
                  match target with
                  | .ok (k, _) => pure k
                  | .error _ => do
                    let mode ← newMode (i.mode &&& 511)
                    created own (.directory Disk.root []) (mode ||| 448)
                if isNew then tell
                let worse ← anyFails names fun name =>
                  copyTo self c fuel false (under source name) (under new name)
                if isNew then
                  let mode ← newMode (i.mode &&& 511)
                  Run.changeDisk fun _ d => d.update number fun j => { j with mode }
                if c.keeps then keepFacts number i
                pure worse
        else do
          let proceed : Run Bool := do
            let replaces :=
              own.found.isSome && (i.isLink || c.links.isSome || c.removesTarget || c.backup.isSome)
            setAside c.backup own
            let own := if c.backup.isSome then { own with found := none } else own
            if c.links == some 's' then do
              if own.found.isSome && !c.removesTarget then do
                let (oldName, newName) := (← shellName true source, ← shellName true new)
                fails self s!"cannot create symbolic link {newName} to {oldName}: File exists"
              else do
                if own.found.isSome then dropSpot own
                let _ ← created own (.link source) 511
                tell
                pure false
            else if c.links == some 'l' then do
              if own.found == some n then pure false
              else if own.found.isSome && !c.removesTarget then do
                let (oldName, newName) := (← shellName true source, ← shellName true new)
                fails self s!"cannot create hard link {newName} to {oldName}: File exists"
              else do
                Run.changeDisk fun now d => d.addName now own.parent own.name n
                tell
                pure false
            else if i.isLink then do
              if own.found.isSome then dropSpot own
              let k ← created own i.content 511
              if c.keeps then keepFacts k i
              tell
              pure false
            else do
              let bytes := i.bytes
              let content : Content :=
                match i.content with
                | .program name => .program name
                | _ => .regular bytes
              if replaces then dropSpot own
              let isDangling :=
                match own.found with
                | some k => (d.get? k).any Inode.isLink && target.toOption.isNone
                | none => false
              if isDangling && !replaces then
                fails self s!"not writing through dangling symlink {← shellName true new}"
              else
                match if replaces then Except.error Fault.missing else target with
                | .ok (k, _) => do
                  Run.changeDisk fun now d => d.update k fun j => { j with content, changed := now }
                  if c.keeps then keepFacts k i
                  tell
                  pure false
                | .error _ => do
                  let k ← created own content (← newMode (i.mode &&& 511))
                  if c.keeps then keepFacts k i
                  tell
                  pure false
          if new.endsWith "/" && own.found.isNone then make kind Fault.notDirectory.reason
          else if own.found.isNone && !d.isAttached own.parent then make kind Fault.missing.reason
          else
            match own.found.bind d.get? with
            | none => proceed
            | some j => do
              let (goes, failed) ← mayOverwrite self c.overwriting i j new
              if goes then proceed else pure failed

/-- What an option about targets that are there asks for. -/
def overwritingOf (a : Arguments) (asksAtAll : Bool) : Overwriting :=
  match (a.options.filter fun o => "finu\x05".toList.contains o.1).getLast? with
  | some ('i', _) => if asksAtAll then .asks else .always
  | some ('n', _) => .never
  | some ('u', _) => .ifOlder
  | some ('\x05', v) =>
    if v = "none" then .silentlyNever else if v = "all" then .always else .ifOlder
  | _ => .always

/-- The suffix under which targets are kept. -/
def backupOf (a : Arguments) : Option String :=
  if a.has 'b' || a.has '\x04' || a.has 'S' then some ((a.value? 'S').getD "~") else none

def cp : Body := fun self args => do
  let a ← arguments self
    (.ofText "abdfiHlLnPprRsS:t:Tuvx\x01;\x02\x03\x04;\x05;"
      [("archive", 'a'), ("recursive", 'r'), ("force", 'f'), ("no-clobber", 'n'),
        ("preserve", '\x01'), ("target-directory", 't'), ("verbose", 'v'), ("interactive", 'i'),
        ("link", 'l'), ("dereference", 'L'), ("no-dereference", 'P'), ("symbolic-link", 's'),
        ("suffix", 'S'), ("no-target-directory", 'T'), ("update", '\x05'), ("parents", '\x02'),
        ("remove-destination", '\x03'), ("backup", '\x04'), ("one-file-system", 'x')])
    1 args
  if a.has 'n' then
    complain self
      "warning: behavior of -n is non-portable and may change in future; use --update=none instead"
  let deep := a.has 'r' || a.has 'R' || a.has 'a'
  let follow := lastOf a ['L', 'P', 'H', 'd', 'a']
  let (sources, target, below) ← sourcesAndTarget self a
  let overwriting :=
    match overwritingOf a true with
    | .never => Overwriting.silentlyNever
    | o => o
  let c : Copying :=
    { deep, followsAll := follow == some 'L' || (!deep && follow.isNone)
      followsOperands := follow == some 'L' || follow == some 'H' || (!deep && follow.isNone)
      keeps := a.has 'p' || a.has 'a' || a.has '\x01', overwriting
      removesTarget := a.has '\x03' || (a.has 'f' && (a.has 's' || a.has 'l')), verbose := a.has 'v'
      links := lastOf a ['s', 'l'], parents := a.has '\x02', backup := backupOf a, bare := false }
  if c.parents && !below then
    misuse self "with --parents, the destination must be a directory" 1
  let failed ← anyFails sources fun source => do
    if c.parents then do
      let inner := Disk.partsOf source
      let above := leadingPart source
      if 1 < inner.length then
        let _ ← makeParents self false 493 (target ++ "/") (Disk.partsOf above)
      copyTo self c 1000 true source (target ++ "/" ++ "/".intercalate inner)
    else
      let last := lastPart source
      let new := if below && (last = "." || last = "..") then under target "." else
        destination target below source
      copyTo self c 1000 true source new
  pure (statusOf failed)

/-! Moving -/

def mv : Body := fun self args => do
  let a ← arguments self
    (.ofText "bfinS:t:Tuv\x04;\x05;"
      [("force", 'f'), ("no-clobber", 'n'), ("target-directory", 't'), ("verbose", 'v'),
        ("interactive", 'i'), ("no-target-directory", 'T'), ("suffix", 'S'), ("update", '\x05'),
        ("backup", '\x04')])
    1 args
  let (sources, target, below) ← sourcesAndTarget self a
  let overwriting := overwritingOf a true
  let backup := backupOf a
  let failed ← anyFails sources fun source => do
    let new := destination target below source
    match ← Run.spot false source with
    | .error e => fails self s!"cannot stat {← shellName true source}: {e.reason}"
    | .ok origin => do
      let d ← Run.disk
      match origin.found.bind fun n => (d.get? n).map fun i => (n, i) with
      | none => fails self s!"cannot stat {← shellName true source}: {Fault.missing.reason}"
      | some (n, i) => do
        let refuse (reason : String) : Run Bool := do
          fails self s!"cannot move {← shellName true source} to {← shellName true new}: {reason}"
        match ← Run.spot false new with
        | .error e => refuse e.reason
        | .ok goal => do
          let found := goal.found.bind d.get?
          let isDirectory := found.any Inode.isDirectory
          let inside := i.isDirectory && (List.range d.next).any fun k =>
            Nat.repeat d.parent k goal.parent == n && n != Disk.root
          let go : Run Bool := do
            setAside backup goal
            Run.changeDisk fun now d =>
              if goal.found = some n then d.dropName now origin.parent origin.name
              else d.move now origin goal
            if a.has 'v' then
              putText self s!"renamed {← shellName true source} -> {← shellName true new}\n"
            pure false
          if goal.found = some n && !i.isDirectory then
            fails self s!"{← shellName true source} and {← shellName true new} are the same file"
          else if inside then do
            let (oldName, newName) := (← shellName true source, ← shellName true new)
            fails self s!"cannot move {oldName} to a subdirectory of itself, {newName}"
          else if !d.isAttached goal.parent then refuse Fault.missing.reason
          else if i.isDirectory && found.any fun j => !j.isDirectory then do
            let (oldName, newName) := (← shellName true source, ← shellName true new)
            fails self s!"cannot overwrite non-directory {newName} with directory {oldName}"
          else if !i.isDirectory && isDirectory then
            fails self s!"cannot overwrite directory {← shellName true new} with non-directory"
          else if !i.isDirectory && goal.found.isNone && new.endsWith "/" then
            refuse Fault.notDirectory.reason
          else if isDirectory && !(goal.found.elim [] d.names).isEmpty then
            fails self s!"cannot overwrite {← shellName true new}: {Fault.notEmpty.reason}"
          else if origin.name = "" then refuse Fault.busy.reason
          else
            match found with
            | none => go
            | some j => do
              let (goes, failed) ← mayOverwrite self overwriting i j new
              if goes then go else pure failed
  pure (statusOf failed)

/-! Links -/

def ln : Body := fun self args => do
  let a ← arguments self
    (.ofText "bdFsfinLPrvS:t:T\x04;"
      [("symbolic", 's'), ("force", 'f'), ("target-directory", 't'), ("verbose", 'v'),
        ("no-dereference", 'n'), ("relative", 'r'), ("no-target-directory", 'T'),
        ("interactive", 'i'), ("logical", 'L'), ("physical", 'P'), ("suffix", 'S'),
        ("backup", '\x04'), ("directory", 'd')])
    1 args
  let isSymbolic := a.has 's'
  if a.has 'r' && !isSymbolic then do
    complain self "cannot do --relative without --symbolic"
    quit 1
  let (sources, target, below) ←
    match a.operands, a.value? 't' with
    | [x], none => pure ([x], ".", true)
    | [x, y], none => do
      let isDirectory ←
        if a.has 'T' then pure false
        else if a.has 'n' && (← Run.node false y).toOption.any (fun e => e.2.isLink) then pure false
        else Run.isDirectory y
      pure ([x], y, isDirectory)
    | _, _ => sourcesAndTarget self a
  let kind := if isSymbolic then "symbolic" else "hard"
  let failed ← anyFails sources fun source => do
    let new := destination target below source
    let origin ← Run.node (a.has 'L') source
    if !isSymbolic then
      match origin with
      | .error e => return ← fails self s!"failed to access {← shellName true source}: {e.reason}"
      | .ok (_, i) =>
        if i.isDirectory then
          return ← fails self s!"{← shellName false source}: hard link not allowed for directory"
    match ← Run.spot false new with
    | .error e =>
      let named ← shellName true source
      let more := if isSymbolic then "" else s!" => {named}"
      fails self s!"failed to create {kind} link {← shellName true new}{more}: {e.reason}"
    | .ok goal => do
      let d ← Run.disk
      let isDirectory := (goal.found.bind d.get?).any Inode.isDirectory
      let isSame := goal.found.isSome && origin.toOption.any fun e => some e.1 == goal.found
      let backup := backupOf a
      let occupied := goal.found.isSome && !a.has 'f' && backup.isNone
      let refused ←
        if goal.found.isSome && a.has 'i' && !isDirectory then do
          return !(← confirm s!"{self}: replace {← shellName true new}? ")
        else pure false
      if refused then pure true
      else if isDirectory && goal.found.isSome && a.has 'f' then
        fails self s!"{← shellName false new}: cannot overwrite directory"
      else if isSame && a.has 'f' && !isSymbolic && source != new then pure false
      else if isSame && a.has 'f' && source = new then
        fails self s!"{← shellName true source} and {← shellName true new} are the same file"
      else if occupied && !a.has 'i' then
        fails self s!"failed to create {kind} link {← shellName true new}: File exists"
      else if !d.isAttached goal.parent then
        fails self s!"failed to create {kind} link {← shellName true new}: {Fault.missing.reason}"
      else do
        setAside backup goal
        let goal := { goal with found := none }
        if isSymbolic then do
          let text ←
            if a.has 'r' then do
              let base ← canonical .nothing (leadingPart new)
              let full ← canonical .nothing source
              pure (relativeTo (base.toOption.getD "/") (full.toOption.getD source))
            else pure source
          let _ ← created goal (.link text) 511
          if a.has 'v' then
            putText self s!"{← shellName true new} -> {← shellName true text}\n"
        else do
          match origin with
          | .ok (n, _) => Run.changeDisk fun now d => d.addName now goal.parent goal.name n
          | .error _ => pure ()
          if a.has 'v' then
            putText self s!"{← shellName true new} => {← shellName true source}\n"
        pure false
  pure (statusOf failed)

/-- Gives a second name to one file. -/
def link : Body := fun self args => do
  let a ← arguments self (.ofText "" []) 1 args
  match a.operands with
  | [] => misuse self "missing operand" 1
  | [x] => misuse self s!"missing operand after {← named x}" 1
  | [x, y] => do
    let refuse (reason : String) : Run Nat := do
      complain self s!"cannot create link {← shellName true y} to {← shellName true x}: {reason}"
      pure 1
    match ← Run.node false x, ← Run.spot false y with
    | .error e, _ => refuse e.reason
    | _, .error e => refuse e.reason
    | .ok (n, i), .ok s =>
      if s.found.isSome then refuse "File exists"
      else if i.isDirectory then refuse Fault.notPermitted.reason
      else do
        Run.changeDisk fun now d => d.addName now s.parent s.name n
        pure 0
  | _ :: _ :: x :: _ => misuse self s!"extra operand {← named x}" 1

/-! Installing -/

/-- Copies files and sets their permissions, or makes directories. -/
def install : Body := fun self args => do
  let a ← arguments self
    (.ofText "bcCdDg:m:o:psS:t:TvZ\x04;"
      [("directory", 'd'), ("group", 'g'), ("mode", 'm'), ("owner", 'o'),
        ("preserve-timestamps", 'p'), ("strip", 's'), ("target-directory", 't'),
        ("no-target-directory", 'T'), ("verbose", 'v'), ("compare", 'C'), ("suffix", 'S'),
        ("backup", '\x04')])
    1 args
  let changes ←
    match a.value? 'm' with
    | none => pure [(⟨Mode.all, '=', .plain, 493, Mode.all⟩ : Mode.Change)]
    | some text =>
      match Mode.parse? text with
      | some changes => pure changes
      | none => do
        complain self s!"invalid mode {← named text}"
        quit 1
  let mode := Mode.apply false 0 changes 0
  if a.has 'd' then do
    if a.operands.isEmpty then misuse self "missing file operand" 1
    let failed ← anyFails a.operands fun path => do
      let lead := if path.startsWith "/" then "/" else ""
      let parts := Disk.partsOf path
      let worse ← parts.zipIdx.foldlM
        (fun (acc : Bool × String) (part, i) => do
          if acc.1 then pure acc
          else do
            let path := acc.2 ++ part
            match ← Run.spot true path with
            | .error e => do
              complain self s!"cannot create directory {← shellName true path}: {e.reason}"
              pure (true, path)
            | .ok s =>
              match s.found with
              | some n =>
                if (← Run.disk).isDirectory n then pure (false, path ++ "/")
                else do
                  complain self s!"cannot create directory {← shellName true path}: File exists"
                  pure (true, path)
              | none => do
                make s (.directory Disk.root []) (if i + 1 = parts.length then mode else 493)
                if a.has 'v' then
                  putText self s!"{self}: creating directory {← shellName true path}\n"
                pure (false, path ++ "/"))
        (false, lead)
      if !worse.1 then
        match ← Run.node true path with
        | .ok (n, _) => Run.changeDisk fun _ d => d.update n fun i => { i with mode }
        | .error _ => pure ()
      pure worse.1
    pure (statusOf failed)
  else do
    let (sources, target, below) ← sourcesAndTarget self a
    let c : Copying :=
      { deep := false, followsOperands := true, followsAll := true, keeps := false
        overwriting := .always, removesTarget := true, verbose := a.has 'v', links := none
        parents := false, backup := backupOf a, bare := true }
    let failed ← anyFails sources fun source => do
      let new := destination target below source
      if a.has 'D' && !below then
        let above := leadingPart new
        let front := if above.startsWith "/" then "/" else ""
        let _ ← makeParents self false 493 front (Disk.partsOf above)
      if ← copyTo self c 1000 true source new then pure true
      else do
        let times := (← Run.node true source).toOption.map Prod.snd
        match ← Run.node true new with
        | .ok (n, _) =>
          Run.changeDisk fun _ d => d.update n fun i =>
            match times with
            | some j => if a.has 'p' then { i with mode, changed := j.changed } else { i with mode }
            | none => { i with mode }
        | .error _ => pure ()
        pure false
    pure (statusOf failed)

end CredoAssistant.Shell.Program
