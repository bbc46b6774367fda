import CredoAssistant.Shell.Layout
import CredoAssistant.Shell.Program.Common

/-!
The first and the last parts of files, so many lines or bytes of them.
-/
namespace CredoAssistant.Shell.Program

/-- How much of a file is wanted: so many lines or bytes, from one end or up to the other. A line
ends with the character `close`. -/
structure Extent where
  bytes : Bool
  fromOther : Bool
  count : Nat
  close : Char

namespace Extent

/-- The length of the first lines of a text. -/
def lengthOfLines (close : Char) (count : Nat) (cs : List Char) : Nat :=
  (cs.foldl
    (fun (left, length) c =>
      if left = 0 then (left, length) else (if c = close then left - 1 else left, length + 1))
    (count, 0)).2

/-- How many lines a text has, with an open one at its end. -/
def lineCount (close : Char) (cs : List Char) : Nat :=
  cs.count close + if cs.getLast?.any (· != close) then 1 else 0

/-- How many bytes of the beginning of a text are wanted. -/
def headLength (x : Extent) (cs : List Char) : Nat :=
  if x.bytes then if x.fromOther then cs.length - x.count else min x.count cs.length
  else if x.fromOther then lengthOfLines x.close (lineCount x.close cs - x.count) cs
  else lengthOfLines x.close x.count cs

/-- Whether a text holds the beginning that is wanted, whatever comes behind it. -/
def isEnough (x : Extent) (cs : List Char) : Bool :=
  !x.fromOther && x.count ≤ (if x.bytes then cs.length else cs.count x.close)

/-- How many bytes stand before the wanted end of a text. -/
def tailOffset (x : Extent) (cs : List Char) : Nat :=
  if x.bytes then if x.fromOther then x.count - 1 else cs.length - x.count
  else if x.fromOther then lengthOfLines x.close (x.count - 1) cs
  else lengthOfLines x.close (lineCount x.close cs - x.count) cs

end Extent

/-- Reads how much is wanted. -/
def extentCount (self : String) (bytes : Bool) (s : String) : Run Nat :=
  let unit := if bytes then "bytes" else "lines"
  natural self s!"invalid number of {unit}" "bkKmMGTPEZYRQ0" 0 s

/-- The name of a file above its part. -/
def titleOf (file : String) : String := if file = "-" then "standard input" else file

/-- What stands above the part of a file, when there are several. -/
def banner (first : Bool) (file : String) : String :=
  (if first then "" else "\n") ++ s!"==> {titleOf file} <==\n"

/-- Shows a part of each file, from as much of the input as is enough for it; the files that could
be opened, and whether something failed. -/
def showParts (self : String) (a : Arguments) (unread : String → String) (reads : Bool)
    (isEnough : List Char → Bool) (part : String → List Char → Run (List Char)) :
    Run (List String × Bool) := do
  let files := inputs a
  let quiet := lastOf a ['q', 'v']
  let hasBanner := quiet == some 'v' || (1 < files.length && quiet.isNone)
  let (_, opened, failed) ← files.foldlM
    (fun (first, opened, failed) file => do
      let top : Run Unit := if hasBanner then putText self (banner first file) else pure ()
      let name ← shellName true (titleOf file)
      match ← contentsUpTo file isEnough with
      | .ok cs => do
        top
        put self (← part file cs)
        pure (false, opened ++ [file], failed)
      | .error .isDirectory => do
        top
        if reads then complain self s!"error reading {name}: {Fault.isDirectory.reason}"
        pure (false, opened, failed || reads)
      | .error .badStream => do
        top
        if reads then complain self (unread name)
        complain self s!"-: {Fault.badStream.reason}"
        quit 1
      | .error fault => do
        complain self s!"cannot open {name} for reading: {fault.reason}"
        pure (first, opened, true))
    (true, [], false)
  pure (opened, failed)

/-- Arguments of which the first may be a bare number with letters behind it. -/
def withoutBareNumber (self : String) : List String → Run (List String)
  | a :: rest =>
    match a.toList with
    | '-' :: d :: more =>
      if d.isDigit then do
        let ds := (d :: more).takeWhile Char.isDigit
        let letters := (d :: more).drop ds.length
        match letters.find? fun c => !"bcklmqvz".toList.contains c with
        | some c => misuse self s!"invalid trailing option -- {c}" 1
        | none =>
          let kind := (letters.filter "bcklm".toList.contains).getLast?
          let unit := (letters.filter "bckm".toList.contains).getLast?.filter (· != 'c')
          let option := if kind.any (· != 'l') then "-c" else "-n"
          let flags := (letters.filter "qvz".toList.contains).map fun c => String.ofList ['-', c]
          pure (option :: String.ofList (ds ++ unit.toList) :: flags ++ rest)
      else pure (a :: rest)
    | _ => pure (a :: rest)
  | [] => pure []

def head : Body := fun self args => do
  let spec := Spec.ofText "c:n:qvz"
    [("bytes", 'c'), ("lines", 'n'), ("quiet", 'q'), ("silent", 'q'), ("verbose", 'v'),
      ("zero-terminated", 'z')]
  let a ← arguments self spec 1 (← withoutBareNumber self args)
  let close := if a.has 'z' then '\x00' else '\n'
  let asked ← (a.options.filter fun o => o.1 == 'c' || o.1 == 'n').mapM fun (c, v) => do
    let elides := v.startsWith "-"
    let n ← extentCount self (c == 'c') (if elides then (v.drop 1).toString else v)
    pure (Extent.mk (c == 'c') elides n close)
  let x := asked.getLastD ⟨false, false, 10, close⟩
  let reads := x.fromOther || 0 < x.count
  let unread (name : String) : String :=
    if x.fromOther then s!"cannot fstat {name}: {Fault.badStream.reason}"
    else s!"error reading {name}: {Fault.badStream.reason}"
  let (_, failed) ← showParts self a unread reads x.isEnough fun file cs => do
    let n := x.headLength cs
    if file = "-" then giveBackInput cs.length n
    pure (cs.take n)
  pure (statusOf failed)

/-- What the first argument asks for in the old notation: a sign, a number, a letter for a unit, and
one for going on. It counts only where no more than one file follows. -/
def oldExtent? (args : List String) : Option (Bool × Bool × Bool × List Char) := do
  let isAlone :=
    match args with
    | [_] => true
    | [_, b] => b == "-" || b == "--" || !b.startsWith "-"
    | _ :: "--" :: rest => rest.length ≤ 1
    | _ => false
  let first ← args.head?
  let sign ← first.toList.head?
  let body := first.toList.tail
  let isBare := if body.head? = some 'c' then body.length = 1 else body.isEmpty
  if !isAlone || (sign != '+' && (sign != '-' || isBare)) then none
  else
    let ds := body.takeWhile Char.isDigit
    let behind := body.drop ds.length
    let unit := behind.head?.filter "bcl".toList.contains
    let rest := if unit.isSome then behind.tail else behind
    if rest = [] ∨ rest = ['f'] then
      let bytes := unit.any (· != 'l')
      let digits :=
        if ds.isEmpty then if unit = some 'b' then "5120".toList else "10".toList else ds
      some (sign == '+', bytes, rest = ['f'], digits)
    else none

/-- How long it takes until files are looked at again, in microseconds. -/
def lookTime : Nat := 20000

/-- A file to which something may be added: its name, where it is, and how much of it was shown. -/
structure Followed where
  name : String
  node : Option Nat
  shown : Nat

/-- Sees whether a file is another one by now. -/
def relocate (self : String) (f : Followed) : Run Followed := do
  let node := (← Run.node true f.name).toOption.map Prod.fst
  let name ← shellName true f.name
  match f.node, node with
  | some _, none => do
    complain self s!"{name} has become inaccessible: {Fault.missing.reason}"
    pure { f with node, shown := 0 }
  | none, some _ => do
    complain self s!"{name} has appeared;  following new file"
    pure { f with node, shown := 0 }
  | old, _ => do
    if old != node then complain self s!"{name} has been replaced;  following new file"
    pure { f with node, shown := if old == node then f.shown else 0 }

/-- Shows what was added to files, so many times at the most. `last` is the file that was shown last
when several have titles, and nothing is shown when `isOver` holds. -/
def watch (self : String) (byName : Bool) (isOver : Run Bool) :
    Nat → Option String → List Followed → Run Unit
  | 0, _, _ => Run.forever
  | fuel + 1, last, fs => do
    Run.sleep lookTime
    if ← Run.isUnread then throw (.killed 13)
    let isLast ← isOver
    let (fs, last) ← fs.foldlM
      (fun (acc, last) f => do
        let f ← if byName then relocate self f else pure f
        let bytes := f.node.elim [] (← Run.disk).bytes
        let shown ←
          if bytes.length < f.shown then do
            complain self s!"{f.name}: file truncated"
            pure 0
          else pure f.shown
        if bytes.length ≤ shown then pure (acc ++ [{ f with shown := bytes.length }], last)
        else do
          if last.any (· != f.name) then putText self (banner false f.name)
          put self (Octets.ofBytes (bytes.drop shown))
          pure (acc ++ [{ f with shown := bytes.length }], last.map fun _ => f.name))
      ([], last)
    if !isLast then watch self byName isOver fuel last fs

/-- Goes on with files to which something may be added later. With `waits` they need not be there,
and the files of `names` are looked for again. -/
def follow (self : String) (waits hasTitles : Bool) (isOver : Run Bool)
    (names opened : List String) : Run Unit := do
  let isPiped ← do
    match ← Run.handle? 0 with
    | some (_, h) =>
      match (← Run.streamNode h).content with
      | .pipe => pure true
      | _ => pure false
    | none => pure false
  if !waits && opened.isEmpty then do
    complain self "no files remaining"
    quit 1
  else if !waits && opened.all (· == "-") && isPiped then pure ()
  else do
    let fs ← (if waits then names else opened).mapM fun name => do
      let node ← nodeOf name
      let shown := (node.elim [] (← Run.disk).bytes).length
      pure (Followed.mk name node shown)
    let last := if hasTitles then some (opened.getLastD "") else none
    watch self waits isOver Run.mostWaits last fs

def tail : Body := fun self args => do
  let spec := Spec.ofText "c:n:fFs:qvz0123456789\x01;\x02:\x03\x04:"
    [("bytes", 'c'), ("follow", '\x01'), ("lines", 'n'), ("max-unchanged-stats", '\x02'),
      ("pid", '\x04'), ("quiet", 'q'), ("retry", '\x03'), ("silent", 'q'), ("sleep-interval", 's'),
      ("verbose", 'v'), ("zero-terminated", 'z')]
  let old := oldExtent? args
  let a ← arguments self spec 1 (if old.isSome then args.tail else args)
  let close := if a.has 'z' then '\x00' else '\n'
  match (a.options.map Prod.fst).find? Char.isDigit with
  | some c => do
    complain self s!"option used in invalid context -- {c}"
    quit 1
  | none => pure ()
  let asked ← (a.options.filter fun o => o.1 == 'c' || o.1 == 'n').mapM fun (c, v) => do
    let n ← extentCount self (c == 'c') (if v.startsWith "-" then (v.drop 1).toString else v)
    pure (Extent.mk (c == 'c') (v.startsWith "+") n close)
  match a.value? 's' with
  | some v => do
    let isWhole := (Floating.read? .double v.toList).any fun r => r.rest.isEmpty
    if !isWhole then do
      complain self s!"invalid number of seconds: {← named v}"
      quit 1
  | none => pure ()
  let byOptions : Extent :=
    { asked.getLastD ⟨false, false, 10, close⟩ with fromOther := asked.any fun x => x.fromOther }
  let x : Extent := old.elim byOptions fun (fromOther, bytes, _, ds) =>
    ⟨bytes, fromOther, Decimal.value ds, close⟩
  let follows := a.options.any (fun o => "fF\x01".toList.contains o.1) || old.any fun o => o.2.2.1
  if x.count = 0 && !x.fromOther && !follows then pure 0
  else do
    let unread (name : String) : String := s!"cannot fstat {name}: {Fault.badStream.reason}"
    let (opened, failed) ← showParts self a unread true (fun _ => false) fun _ cs =>
      pure (cs.drop (x.tailOffset cs))
    if follows then do
      let names := inputs a
      let quiet := lastOf a ['q', 'v']
      let hasTitles := quiet == some 'v' || (1 < names.length && quiet.isNone)
      let watched := (a.value? '\x04').bind String.toNat?
      let isOver : Run Bool := do
        match watched with
        | some n => return !(← Run.isThere n)
        | none => pure false
      follow self (a.has 'F' || a.has '\x03') hasTitles isOver names opened
    pure (statusOf failed)

end CredoAssistant.Shell.Program
