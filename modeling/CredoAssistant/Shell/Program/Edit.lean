import CredoAssistant.Shell.Program.Common
import CredoAssistant.Shell.Program.EditScript

/-!
Editing lines as they go by: a script says for which lines what is done.
-/
namespace CredoAssistant.Shell.Program

namespace Edit

/-- A line of the input: its number, whether it is ended, the file it is from, and whether it is the
first or the last line of that. -/
structure Line where
  text : List Char
  closed : Bool
  number : Nat
  file : String
  startsFile : Bool
  endsFile : Bool

/-- How a script is run: whether lines are shown by themselves, what ends a line, whether files are
`separate`, and whether texts are wide. A line of a list is broken behind so many characters. -/
structure Mode where
  silent : Bool
  lineEnd : Char
  separate : Bool
  wide : Bool
  width : Nat

/-- What was written to one place: the pieces, the last one first, and whether the last line is
still open. -/
structure Stream where
  pieces : List (List Char)
  isOpen : Bool

namespace Stream

def empty : Stream := ⟨[], false⟩

/-- Writes a text behind what is there. -/
def add (s : Stream) (lineEnd : Char) (cs : List Char) : Stream :=
  ⟨(if s.isOpen then lineEnd :: cs else cs) :: s.pieces, false⟩

/-- Writes a line, which may stay open. -/
def addLine (s : Stream) (lineEnd : Char) (closed : Bool) (cs : List Char) : Stream :=
  if closed then s.add lineEnd (cs ++ [lineEnd]) else { s.add lineEnd cs with isOpen := true }

def text (s : Stream) : List Char := s.pieces.reverse.flatten

end Stream

/-- A range that has begun: the number of the line on which it ends, if that is known. -/
abbrev Begun := Nat × Option Nat

/-- The state of editing: the lines to come, the one at work, the texts in the two spaces and
whether each is a whole line, what was written, what waits to stand behind the line, the ranges that
have begun by the numbers of their instructions, whether a substitution was made, and the last
expression that was used. -/
structure State where
  rest : List Line
  line : Line
  space : List Char
  closed : Bool
  held : List Char
  heldClosed : Bool
  out : Stream
  written : List (String × Stream)
  sources : List (String × List (List Char))
  queue : List (List Char)
  active : List Begun
  changed : Bool
  lastPattern : Option Pattern

/-- How the instructions for a line end. -/
inductive Outcome
  | done
  | again
  | dropped
  | stopped (shows : Bool) (status : Nat)
  | broken
  | endless
  deriving DecidableEq, Repr

/-- Whether no line follows that belongs to the same input. -/
def isLast (m : Mode) (s : State) : Bool :=
  s.rest.isEmpty || (m.separate && s.line.endsFile)

/-- The text at work, as a subject of an expression. -/
def subject (m : Mode) (p : Pattern) (cs : List Char) : Regex.Subject :=
  ⟨cs.toArray, m.wide, p.multiline && m.lineEnd == '\n', false⟩

/-- Whether a line is meant by an address; nothing if there is no expression to use. -/
def meets (m : Mode) (s : State) (a : Address) : Option (Bool × State) :=
  let n := s.line.number
  match a with
  | .line k => some (n == k, s)
  | .last => some (isLast m s, s)
  | .step first each => some (first ≤ n && (n - first) % each == 0, s)
  | .plus k => some (k ≤ n, s)
  | .multiple k => some (k ≤ n, s)
  | .fits p => do
    let p ← p <|> s.lastPattern
    some (Regex.isIn (subject m p s.space) p.regex, { s with lastPattern := some p })

/-- Begins the range of an instruction. -/
def begin' (i : Nat) (e : Address) (s : State) : State :=
  let n := s.line.number
  let others := s.active.filter fun r => r.1 != i
  let upTo (k : Nat) : List Begun := if k ≤ n then others else (i, some k) :: others
  let active :=
    match e with
    | .line k => upTo k
    | .plus k => upTo (n + k)
    | .multiple k => if k = 0 then others else upTo (n + k - n % k)
    | _ => (i, none) :: others
  { s with active }

/-- Whether a line is meant by the instruction with a number. -/
def selects (m : Mode) (s : State) (i : Nat) (x : Instruction) : Option (Bool × State) :=
  match x.first, x.last with
  | none, _ => some (true, s)
  | some a, none => meets m s a
  | some a, some e => do
    let others := s.active.filter fun r => r.1 != i
    let start (s : State) : Option (Bool × State) := do
      let (met, s) ← meets m s a
      some (met, if met then begin' i e s else s)
    match s.active.find? fun r => r.1 == i with
    | some (_, some k) =>
      if s.line.number < k then some (true, s)
      else if s.line.number = k then some (true, { s with active := others })
      else start { s with active := others }
    | some (_, none) => do
      let (met, s) ← meets m s e
      some (true, if met then { s with active := others } else s)
    | none => start s

/-- Letters in a case. -/
def inCase (wide : Bool) (k : Case) (cs : List Char) : List Char :=
  match k with
  | .same => cs
  | .upper => cs.map fun c => if wide then Letters.toUpper c else c.toUpper
  | .lower => cs.map fun c => if wide then Letters.toLower c else c.toLower

/-- A text whose first letter may have a case of its own. -/
def withInitial (wide : Bool) (initial : Option Case) (k : Case) (cs : List Char) : List Char :=
  match initial, cs with
  | some first, c :: rest => inCase wide first [c] ++ inCase wide k rest
  | _, cs => inCase wide k cs

/-- The text of a replacement for a fit. A case for a first letter goes on to the next piece as long
as there is no letter. -/
def replacement (m : Mode) (held : Nat → List Char) (ps : List Piece) : List Char :=
  (ps.foldl
    (fun (acc : List Char × Option Case) p =>
      let initial := p.initial <|> acc.2
      let text := withInitial m.wide initial p.case p.text
      let left := if p.text.isEmpty then initial else none
      match p.group with
      | none => (acc.1 ++ text, none)
      | some n =>
        let group := held n
        let kept := if group.isEmpty && p.initial.isSome then left else none
        (acc.1 ++ text ++ withInitial m.wide left p.case group, kept))
    (([] : List Char), (none : Option Case))).1

/-- Replaces fits in a text from an index on; whether any was. `count` is the number of the next
fit, and `touching` says that a fit has just ended here, so that an empty one does not count. -/
def substituted (m : Mode) (t : Regex.Subject) (p : Pattern) (s : Substitution) :
    Nat → Nat → Nat → Bool → List (List Char) → List (List Char) × Bool
  | 0, _, i, _, acc => (t.between i t.text.size :: acc, false)
  | fuel + 1, count, i, touching, acc =>
    let go := substituted m t p s fuel
    match Regex.find? t p.regex i with
    | none => (t.between i t.text.size :: acc, false)
    | some found =>
      let (j, k) := (found.start, found.position)
      let isVoid := j == k && touching && j == i
      let counts := !isVoid && s.start ≤ count
      let held (n : Nat) : List Char := if n = 0 then t.between j k else found.held t n
      let new := if counts then replacement m held s.pieces else t.between j k
      let acc := new :: t.between i j :: acc
      if counts && !s.all then (t.between k t.text.size :: acc, true)
      else
        let count := if isVoid then count else count + 1
        let (acc, any) :=
          if j < k then go count k true acc
          else if t.text.size ≤ k then (acc, false)
          else go count (k + 1) false (t.between k (k + 1) :: acc)
        (acc, any || counts)

/-- A line as a list shows it, broken so that no part is longer than a width. -/
def listed (width : Nat) (bytes : List Char) : List Char :=
  let named : List (Char × Char) :=
    [('\\', '\\'), ('\x07', 'a'), ('\x08', 'b'), ('\x0c', 'f'), ('\n', 'n'), ('\r', 'r'),
      ('\t', 't'), ('\x0b', 'v')]
  let shown (c : Char) : List Char :=
    match named.find? fun e => e.1 == c with
    | some e => ['\\', e.2]
    | none =>
      if ' ' ≤ c ∧ c ≤ '~' then [c]
      else
        let ds := Nat.toDigits 8 c.toNat
        '\\' :: List.replicate (3 - ds.length) '0' ++ ds
  let (text, _) := bytes.foldl
    (fun (acc : List (List Char) × Nat) c =>
      let cs := shown c
      if 0 < width ∧ width - 1 < acc.2 + cs.length then (cs :: ['\\', '\n'] :: acc.1, cs.length)
      else (cs :: acc.1, acc.2 + cs.length))
    (([] : List (List Char)), 0)
  text.reverse.flatten ++ ['$', '\n']

/-- Takes the next line of the input into the state. A new file of its own begins anew. -/
def advance (m : Mode) (s : State) : State :=
  match s.rest with
  | [] => s
  | l :: rest =>
    let s :=
      if m.separate ∧ l.startsFile then
        { s with held := [], heldClosed := true, active := [] }
      else s
    { s with rest, line := l, space := l.text, closed := l.closed }

def emit (m : Mode) (s : State) (cs : List Char) : State := { s with out := s.out.add m.lineEnd cs }

def emitLine (m : Mode) (s : State) (closed : Bool) (cs : List Char) : State :=
  { s with out := s.out.addLine m.lineEnd closed cs }

/-- Writes a line to a file. -/
def writeTo (m : Mode) (s : State) (name : String) (closed : Bool) (cs : List Char) : State :=
  if name = "/dev/stdout" then emitLine m s closed cs
  else
    let old := (Entries.get? name s.written).getD .empty
    { s with written := Entries.set name (old.addLine m.lineEnd closed cs) s.written }

/-- Shows what waits to stand behind the line. -/
def flush (m : Mode) (s : State) : State :=
  s.queue.reverse.foldl (emit m) { s with queue := [] }

/-- The place of a label; without one, the end of the script. -/
def target (is : Array Instruction) (name : String) : Nat :=
  if name = "" then is.size
  else
    (is.findIdx? fun x =>
      match x.action with
      | .label n => n == name
      | _ => false).getD is.size

/-- Runs the instructions for a line from one of them on. -/
def runFrom (m : Mode) (is : Array Instruction) (files : String → List Char) :
    Nat → Nat → State → Outcome × State
  | 0, _, s => (.endless, s)
  | fuel + 1, i, s =>
    match is[i]? with
    | none => (.done, s)
    | some x =>
      match selects m s i x with
      | none => (.broken, s)
      | some (met, s) =>
        let go := runFrom m is files fuel
        let next (s : State) : Outcome × State := go (i + 1) s
        let front := s.space.takeWhile (· != m.lineEnd)
        let hasMore := front.length < s.space.length
        if met == x.negated then
          match x.action with
          | .block behind => go behind s
          | _ => next s
        else
          match x.action with
          | .block _ => next s
          | .close => next s
          | .label _ => next s
          | .branch name => go (target is name) s
          | .branchIf wanted name =>
            let taken := s.changed == wanted
            let s := { s with changed := false }
            if taken then go (target is name) s else next s
          | .delete => (.dropped, s)
          | .deleteFirst =>
            if hasMore then (.again, { s with space := s.space.drop (front.length + 1) })
            else (.dropped, s)
          | .print => next (emitLine m s s.closed s.space)
          | .printFirst => next (emitLine m s (hasMore || s.closed) front)
          | .next =>
            if isLast m s then (.done, s)
            else
              let s := if m.silent then s else emitLine m s s.closed s.space
              next (advance m (flush m s))
          | .append =>
            if isLast m s then (.done, s)
            else
              let old := s.space
              let s := advance m (flush m s)
              next { s with space := old ++ m.lineEnd :: s.space }
          | .hold => next { s with held := s.space, heldClosed := s.closed }
          | .holdAppend =>
            next { s with held := s.held ++ m.lineEnd :: s.space, heldClosed := s.closed }
          | .fetch => next { s with space := s.held, closed := s.heldClosed }
          | .fetchAppend =>
            next { s with space := s.space ++ m.lineEnd :: s.held, closed := s.heldClosed }
          | .exchange =>
            next { s with
              space := s.held, held := s.space, closed := s.heldClosed, heldClosed := s.closed }
          | .empty => next { s with space := [] }
          | .quit shows status => (.stopped (shows && !m.silent) status, s)
          | .number => next (emit m s (Nat.toDigits 10 s.line.number ++ ['\n']))
          | .fileName => next (emit m s (s.line.file.toList ++ ['\n']))
          | .list width =>
            next (emit m s (listed (width.getD m.width) (bytesIn m.wide s.space)))
          | .behind text => next { s with queue := text :: s.queue }
          | .before text => next (emit m s text)
          | .change text =>
            let isInside := s.active.any fun r => r.1 == i
            (.dropped, if isInside && !x.negated then s else emit m s text)
          | .readFile name => next { s with queue := files name :: s.queue }
          | .readLine name =>
            match (Entries.get? name s.sources).getD [] with
            | [] => next s
            | l :: left =>
              next { s with queue := l :: s.queue, sources := Entries.set name left s.sources }
          | .writeFile name => next (writeTo m s name s.closed s.space)
          | .writeFirst name => next (writeTo m s name (hasMore || s.closed) front)
          | .translate table =>
            let image (c : Char) : Char := ((table.find? fun p => p.1 == c).map Prod.snd).getD c
            next { s with space := s.space.map image }
          | .substitute sub =>
            match sub.pattern <|> s.lastPattern with
            | none => (.broken, s)
            | some p =>
              let t := subject m p s.space
              let (parts, any) := substituted m t p sub (s.space.length + 2) 1 0 false []
              let s := { s with lastPattern := some p }
              if !any then next s
              else
                let s := { s with space := parts.reverse.flatten, changed := true }
                let s := if sub.shows then emitLine m s s.closed s.space else s
                next (match sub.file with
                  | some name => writeTo m s name s.closed s.space
                  | none => s)

/-- Runs a script over all lines that are left, and says how it ends. -/
def run (m : Mode) (is : Array Instruction) (files : String → List Char) :
    Nat → Bool → State → Outcome × State
  | 0, _, s => (.endless, s)
  | fuel + 1, again, s =>
    if s.rest.isEmpty && !again then (.done, s)
    else
      let s := if again then s else advance m { s with changed := false }
      let (outcome, s) := runFrom m is files 20000 0 s
      let shown := emitLine m s s.closed s.space
      match outcome with
      | .done => run m is files fuel false (flush m (if m.silent then s else shown))
      | .dropped => run m is files fuel false (flush m s)
      | .again => run m is files fuel true (flush m s)
      | .stopped shows status =>
        if shows then (.stopped true status, flush m shown) else (.stopped false status, s)
      | .broken => (.broken, s)
      | .endless => (.endless, s)

/-- The ranges that have begun before the first line. -/
def begunAtZero (is : Array Instruction) : List Begun :=
  (is.toList.zipIdx).filterMap fun (x, i) =>
    match x.first, x.last with
    | some (.line 0), some _ => some (i, none)
    | _, _ => none

/-- The lines of files, each with its contents. -/
def inputLines (m : Mode) (files : List (String × List Char)) : List Line :=
  let ofFile (start : Nat) (file : String × List Char) : List Line :=
    let step (acc : List (List Char) × List Char) (c : Char) : List (List Char) × List Char :=
      if c = m.lineEnd then (acc.2.reverse :: acc.1, []) else (acc.1, c :: acc.2)
    let (done, current) := file.2.foldl step (([] : List (List Char)), ([] : List Char))
    let closed := done.reverse.map fun l => (l, true)
    let all := closed ++ if current.isEmpty then [] else [(current.reverse, false)]
    all.zipIdx.map fun ((text, closed), i) =>
      ⟨text, closed, start + i + 1, file.1, i == 0, i + 1 == all.length⟩
  (files.foldl
    (fun (acc : List (List Line) × Nat) file =>
      let ls := ofFile (if m.separate then 0 else acc.2) file
      (ls :: acc.1, acc.2 + ls.length))
    (([] : List (List Line)), 0)).1.reverse.flatten

/-- Runs a script over files, from a state on that earlier ones have left. What was written for
those is no longer there. -/
def edit (m : Mode) (is : Array Instruction) (files : String → List Char)
    (read : List (String × List Char)) (s : State) : Outcome × State :=
  let lines := inputLines m read
  let fuel := (lines.map fun l => l.text.length + 2).sum + 20000
  let early := is.toList.filterMap fun x =>
    match x.first, x.last, x.action with
    | some (.line 0), none, .readFile name => some (files name)
    | _, _, _ => none
  run m is files fuel false
    { s with rest := lines, out := ⟨early.reverse, false⟩, active := begunAtZero is }

end Edit

/-- What is said when no script is given. -/
def editUsage {α : Type} (self : String) : Run α := do
  let script := "\x7bscript-only-if-no-other-script\x7d"
  Run.say 2 s!"Usage: {self} [OPTION]... {script} [input-file]...\n\n"
  quit 1

/-- Reads the parts of a script. -/
def readScript (self : String) (utf8 isClosed : Bool)
    (parts : List (Edit.Origin × Bool × List Char)) :
    Run (Array Edit.Instruction × Bool) := do
  let refuse {α : Type} (place message : String) : Run α := do
    complain self s!"{place}: {message}"
    quit 1
  let start : Edit.Source :=
    ⟨[], 0, 1, .given 1, utf8, false, isClosed, true, #[], [], false, false, false⟩
  let read ← parts.foldlM
    (fun (s : Edit.Source) (origin, extended, cs) => do
      let rest := charactersIn utf8 cs
      let s := { s with rest, used := 0, line := 1, origin, extended }
      match Edit.part.run s with
      | (.ok (), s) => pure { s with isFirst := false }
      | (.error message, s) =>
        if s.unplaced then do
          complain self message
          quit 4
        else refuse (Edit.place s.origin s.line s.used) message)
    start
  match read.opened with
  | (_, origin, line) :: _ => refuse (Edit.place origin line 0) "unmatched \x60\x7b'"
  | [] => pure ()
  let labels := read.done.toList.filterMap fun x =>
    match x.action with
    | .label n => some n
    | _ => none
  let missing := read.done.toList.findSome? fun x =>
    match x.action with
    | .branch n => if n = "" || labels.contains n then none else some n
    | .branchIf _ n => if n = "" || labels.contains n then none else some n
    | _ => none
  match missing with
  | some n => do
    complain self s!"can't find label for jump to \x60{n}'"
    quit 4
  | none => pure (read.done, read.silent)

/-- The lines of a file, each with the end it has. -/
def linesWithEnds (cs : List Char) : List (List Char) :=
  let (ls, closed) := linesOf cs
  ls.zipIdx.map fun (l, i) => if i + 1 = ls.length && !closed then l else l ++ ['\n']

/-- The name of the copy of a file that is edited in its place. -/
def copyName (suffix file : String) : String :=
  let parts := file.splitOn "/"
  let name := parts.getLast?.getD file
  let copy :=
    if suffix.toList.contains '*' then "".intercalate ((suffix.splitOn "*").intersperse name)
    else name ++ suffix
  if copy.toList.contains '/' then copy else "/".intercalate (parts.dropLast ++ [copy])

/-- Puts a new file with the same permissions into the place of a file. -/
def replaceFile (file : String) (cs : List Char) : Run Unit := do
  match ← Run.spot false file, ← Run.node true file with
  | .ok spot, .ok (_, i) => do
    Run.changeDisk fun now d =>
      (d.add now spot.parent spot.name (.regular (Octets.toBytes cs)) i.mode).1
  | _, _ => pure ()

def sed : Body := fun self args => do
  let spec : Spec :=
    .ofText "bsnrzuEe:f:l:i;\x01\x02\x03\x04"
      [("binary", 'b'), ("regexp-extended", 'r'), ("in-place", 'i'), ("quiet", 'n'),
        ("silent", 'n'), ("expression", 'e'), ("file", 'f'), ("separate", 's'), ("null-data", 'z'),
        ("zero-terminated", 'z'), ("unbuffered", 'u'), ("line-length", 'l'), ("posix", '\x01'),
        ("sandbox", '\x02'), ("follow-symlinks", '\x03'), ("version", '\x04')]
  let a ← match readArguments spec (args.length + 1) args with
    | .ok a => pure a
    | .error message => do
      complain self message
      editUsage self
  if a.has '\x04' then do
    putText self "sed (GNU sed) 4.9\n"
    quit 0
  let utf8 ← usesUtf8
  let extended := a.has 'r' || a.has 'E'
  let parts ← (List.range a.options.length).filterMapM fun i => do
    let before := a.options.take i
    let isExtended := before.any fun o => o.1 == 'r' || o.1 == 'E'
    let number := (before.filter fun o => o.1 == 'e').length + 1
    match a.options[i]? with
    | some ('e', text) => pure (some (Edit.Origin.given number, isExtended, text.toList))
    | some ('f', file) => do
      match ← contents file with
      | .ok cs => pure (some (Edit.Origin.file file, isExtended, cs))
      | .error fault => do
        complain self s!"couldn't open file {file}: {fault.reason}"
        quit 4
    | _ => pure none
  let (parts, operands) :=
    if !parts.isEmpty then (parts, a.operands)
    else
      match a.operands with
      | script :: rest => ([(Edit.Origin.given 1, extended, script.toList)], rest)
      | [] => ([], [])
  if parts.isEmpty then editUsage self
  let (is, isQuiet) ← readScript self utf8 (a.has '\x02') parts
  let inPlace := a.has 'i'
  if inPlace && operands.isEmpty then do
    complain self "no input files"
    quit 4
  let m : Edit.Mode :=
    { silent := a.has 'n' || isQuiet, lineEnd := if a.has 'z' then '\x00' else '\n'
      separate := a.has 's' || inPlace, wide := utf8
      width := (((a.value? 'l').bind digits?).getD 70) }
  let outputs := (is.toList.filterMap fun x =>
    match x.action with
    | .writeFile name => some name
    | .writeFirst name => some name
    | .substitute s => s.file
    | _ => none).eraseDups.filter (· != "/dev/stdout")
  let targets ← (outputs.filter (· != "/dev/stderr")).mapM fun name => do
    match ← openForProgram .write name with
    | .ok id => pure (name, id)
    | .error fault => do
      complain self s!"couldn't open file {name}: {fault.reason}"
      quit 4
  let texts (f : Edit.Action → Option String) : Run (List (String × List Char)) := do
    let names := (is.toList.filterMap fun x => f x.action).eraseDups
    names.mapM fun name => do
      let cs := ((← Run.contents name).toOption).getD []
      pure (name, charactersIn utf8 cs)
  let whole ← texts fun
    | .readFile name => some name
    | _ => none
  let byLine ← texts fun
    | .readLine name => some name
    | _ => none
  let wholeText (name : String) : List Char := (Entries.get? name whole).getD []
  let nowhere : Edit.Line := ⟨[], true, 0, "-", false, false⟩
  let start : Edit.State :=
    { rest := [], line := nowhere, space := [], closed := true, held := [], heldClosed := true
      out := .empty, written := [], sources := byLine.map fun (name, cs) => (name, linesWithEnds cs)
      queue := [], active := [], changed := false, lastPattern := none }
  let unusable : Run Nat := do
    let place := match parts with
      | (origin, _) :: _ => Edit.place origin 0 0
      | [] => ""
    complain self s!"{place}: no previous regular expression"
    pure 1
  let save (s : Edit.State) : Run Unit :=
    s.written.forM fun (name, stream) => do
      let cs := bytesIn utf8 stream.text
      match targets.find? fun t => t.1 == name with
      | some (_, id) => discard (writeTo id cs)
      | none => Run.say 2 (String.ofList cs)
  if inPlace then do
    let (s, status, _) ← operands.foldlM
      (fun (acc : Edit.State × Nat × Bool) file => do
        let (s, status, stopped) := acc
        if stopped then pure acc
        else
          match ← Run.contents file with
          | .error .isDirectory => do
            complain self s!"couldn't edit {file}: not a regular file"
            pure (s, 4, false)
          | .error fault => do
            complain self s!"can't read {file}: {fault.reason}"
            pure (s, max status 2, false)
          | .ok cs => do
            let (outcome, s) := Edit.edit m is wholeText [(file, charactersIn utf8 cs)] s
            match outcome with
            | .broken => do
              let n ← unusable
              pure (s, n, true)
            | .endless => Run.forever
            | outcome => do
              let suffix := (a.value? 'i').getD ""
              if suffix != "" then do
                let _ ← writeFile (copyName suffix file) cs
              replaceFile file (bytesIn utf8 s.out.text)
              match outcome with
              | .stopped _ n => pure (s, n, true)
              | _ => pure (s, status, false))
      (start, 0, false)
    save s
    pure status
  else do
    let files := if operands.isEmpty then ["-"] else operands
    let (read, status, broken) ← files.foldlM
      (fun (acc : List (String × List Char) × Nat × Bool) file => do
        let (read, status, broken) := acc
        let isInput := file = "-"
        if broken then pure acc
        else
          match ← contents file with
          | .ok cs => pure ((file, charactersIn utf8 cs) :: read, status, false)
          | .error fault =>
            if isInput || fault == .isDirectory then do
              let name := if isInput then "stdin" else file
              complain self s!"read error on {name}: {fault.reason}"
              pure (read, 4, true)
            else do
              complain self s!"can't read {file}: {fault.reason}"
              pure (read, max status 2, false))
      (([] : List (String × List Char)), 0, false)
    let (outcome, s) := Edit.edit m is wholeText read.reverse start
    save s
    put self (bytesIn utf8 s.out.text)
    match outcome with
    | .stopped _ n => do
      let left := (s.rest.filter fun l => l.file == "-").map fun l =>
        (bytesIn utf8 l.text).length + (if l.closed then 1 else 0)
      giveBackInput left.sum 0
      pure n
    | .broken => unusable
    | .endless => Run.forever
    | _ => pure (if broken then 4 else status)

end CredoAssistant.Shell.Program
