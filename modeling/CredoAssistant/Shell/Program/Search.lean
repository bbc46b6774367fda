import CredoAssistant.Shell.Program.Common
import CredoAssistant.Shell.Program.Places
import CredoAssistant.Shell.Regex.Notation
import CredoAssistant.Shell.Regex.Perl

/-!
Searching files for lines in which a pattern fits.
-/
namespace CredoAssistant.Shell.Program

/-- How patterns are read. -/
inductive Matcher
  | basic
  | extended
  | fixed
  | perl
  deriving DecidableEq, Repr

/-- What is searched for, and in what way. -/
structure Search where
  patterns : List Regex
  wide : Bool
  ordered : Bool
  inverted : Bool
  wholeLines : Bool
  words : Bool

namespace Search

def subject (s : Search) (line : List Char) : Regex.Subject :=
  ⟨line.toArray, s.wide, false, s.ordered⟩

/-- Where fits of one pattern that start at an index end, the best first. Of several words only the
longest may be empty. -/
def endsOf (s : Search) (line : Regex.Subject) (i : Nat) (r : Regex) : List (Nat × Nat) :=
  if s.words ∧ !s.ordered then
    match Regex.endsAt line r i with
    | [] => []
    | p :: ps => (p :: ps.filter fun q => i < q.position).map fun q => (i, q.position)
  else ((Regex.endAt? line r i).toList).map fun p => (p.start, p.position)

/-- Whether a fit counts. -/
def counts (s : Search) (line : Regex.Subject) (i j : Nat) : Bool :=
  s.ordered ||
    ((!s.words || !(line.wordBefore i || line.wordAt j))
      && (!s.wholeLines || (i == 0 && j == line.text.size)))

/-- The longest fit that starts at an index. -/
def fitAt? (s : Search) (line : Regex.Subject) (i : Nat) : Option (Nat × Nat) :=
  let found := s.patterns.filterMap fun r =>
    if s.wholeLines ∧ !s.ordered then
      if i = 0 ∧ Regex.isWhole line r then some (0, line.text.size) else none
    else (s.endsOf line i r).find? fun e => s.counts line i e.2
  found.foldl
    (fun best e =>
      match best with
      | none => some e
      | some b => if b.2 < e.2 then some e else best)
    none

/-- The leftmost fit from an index on. -/
def fit? (s : Search) (line : Regex.Subject) (first : Nat) : Option (Nat × Nat) :=
  (List.range' first (line.text.size + 1 - first)).findSome? (s.fitAt? line)

/-- The fits in a line from an index on that are not empty: where each begins and ends. -/
def fits (s : Search) (line : Regex.Subject) : Nat → Nat → List (Nat × Nat)
  | 0, _ => []
  | fuel + 1, first =>
    match s.fit? line first with
    | none => []
    | some (i, j) =>
      if j ≤ i then if line.text.size ≤ i then [] else fits s line fuel (i + 1)
      else (i, j) :: fits s line fuel j

/-- Whether a line is one that is searched for. -/
def selects (s : Search) (line : List Char) : Bool :=
  (s.fit? (s.subject line) 0).isSome != s.inverted

end Search

/-- What is done about files that are not text. -/
inductive Binary
  | reported
  | shown
  | skipped
  deriving DecidableEq, Repr

/-- How the lines that were found are shown. -/
structure Report where
  count : Bool
  names : Bool
  namesWithout : Bool
  quiet : Bool
  parts : Bool
  numbers : Bool
  offsets : Bool
  aligned : Bool
  nullNames : Bool
  colored : Bool
  binary : Binary
  lineEnd : Char
  before : Option Nat
  after : Option Nat
  separator : Option String
  limit : Option Nat
  label : String

/-- A line of a file: its text, its number from zero, and where its bytes start. -/
structure FileLine where
  text : List Char
  number : Nat
  offset : Nat
  selected : Bool

/-- Text between escapes for a color. -/
def tinted (on : Bool) (color : String) (cs : List Char) : List Char :=
  if on then ("\x1b[" ++ color ++ "m\x1b[K").toList ++ cs ++ "\x1b[m\x1b[K".toList else cs

/-- Characters that stand for bytes which belong to no character. -/
def isApart (c : Char) : Bool := Octets.firstApart ≤ c.toNat

/-- How far the lines of one file have been shown: what was shown, the number of the first line
behind that, how many lines are still due after a hit, how many hits may follow, and whether
anything could not be shown. `used` says that a group of lines was shown in this file or an earlier
one. -/
structure Progress where
  shown : List (List Char)
  next : Option Nat
  due : Nat
  left : Option Nat
  hits : Nat
  flawed : Bool
  used : Bool

namespace Report

/-- What stands in front of a line, or of a part of it that is `behind` its start. -/
def lead (r : Report) (name : Option String) (width : Nat) (l : FileLine) (sign : Char)
    (behind : Nat) : List Char :=
  let sign := tinted r.colored "36" [sign]
  let number (n : Nat) : List Char :=
    let ds := Nat.toDigits 10 n
    tinted r.colored "32" (List.replicate (width - ds.length) ' ' ++ ds) ++ sign
  let named :=
    match name with
    | some s => tinted r.colored "35" s.toList ++ if r.nullNames then ['\x00'] else sign
    | none => []
  let numbered := if r.numbers then number (l.number + 1) else []
  let offset := if r.offsets then number (l.offset + behind) else []
  let front := named ++ numbered ++ offset
  front ++ if r.aligned && !front.isEmpty && !l.text.isEmpty then ['\t'] else []

/-- A line as it is shown; nothing if it cannot be. -/
def line (r : Report) (s : Search) (name : Option String) (width : Nat) (l : FileLine) :
    Option (List Char) :=
  let sign := if l.selected then ':' else '-'
  let bytes := bytesIn s.wide
  let isMatching := l.selected != s.inverted
  let subject := s.subject l.text
  let fits :=
    if isMatching && (r.parts || r.colored) then s.fits subject (l.text.length + 2) 0 else []
  let canShow (cs : List Char) : Bool := r.binary == .shown || !s.wide || !cs.any isApart
  if r.parts then
    let sign := if s.inverted then '-' else ':'
    let parts := fits.map fun (i, j) => (i, subject.between i j)
    let shown := parts.takeWhile fun p => canShow p.2
    let text := shown.flatMap fun (i, cs) =>
      r.lead name width l sign (bytes (l.text.take i)).length
        ++ tinted r.colored "01;31" (bytes cs) ++ [r.lineEnd]
    if shown.length = parts.length then some text else none
  else if !canShow l.text then none
  else
    let (text, passed) := fits.foldl
      (fun (acc, from') (i, j) =>
        (acc ++ bytes (subject.between from' i)
          ++ tinted true "01;31" (bytes (subject.between i j)), j))
      (([] : List Char), 0)
    some (r.lead name width l sign 0 ++ text ++ bytes (l.text.drop passed) ++ [r.lineEnd])

/-- Shows the lines around and at the hits of one file. -/
def group (r : Report) (s : Search) (name : Option String) (width : Nat) (lines : List FileLine)
    (used : Bool) : Progress :=
  let start : Progress := ⟨[], none, 0, r.limit, 0, false, used⟩
  let all := lines.toArray
  let showLine (p : Progress) (l : FileLine) : Progress :=
    match r.line s name width l with
    | some cs => { p with shown := cs :: p.shown, next := some (l.number + 1) }
    | none => { p with flawed := true }
  let step (p : Progress) (l : FileLine) : Progress :=
    if p.left = some 0 ∨ !l.selected then
      if 0 < p.due then { showLine p { l with selected := false } with due := p.due - 1 } else p
    else
      let first := max (l.number - r.before.getD 0) (p.next.getD 0)
      let separator : List Char :=
        match r.separator with
        | some text =>
          if (r.before.isSome || r.after.isSome) && p.used && p.next != some first then
            tinted r.colored "36" text.toList ++ ['\n']
          else []
        | none => []
      let p := { p with shown := separator :: p.shown }
      let around := (all.extract first l.number).toList.map fun l => { l with selected := false }
      let p := showLine (around.foldl showLine p) l
      { p with due := r.after.getD 0, left := p.left.map (· - 1), hits := p.hits + 1, used := true }
  lines.foldl step start

end Report

/-- The lines of a text, and whether each is one that is searched for. -/
def fileLines (s : Search) (isEnd : Char → Bool) (cs : List Char) : List FileLine :=
  let step (acc : List FileLine × Nat) (l : List Char × Nat) : List FileLine × Nat :=
    (⟨l.1, l.2, acc.2, s.selects l.1⟩ :: acc.1, acc.2 + (bytesIn s.wide l.1).length + 1)
  ((piecesBetween isEnd cs).zipIdx.foldl step ([], 0)).1.reverse

/-- Searches one text and shows what was found; how many lines that were, and whether groups of
lines have been shown so far. `name` is what it is shown by. -/
def searchText (self : String) (s : Search) (r : Report) (named : Bool) (file : String)
    (used : Bool) (cs : List Char) : Run (Nat × Bool) := do
  let shownName := if file = "-" then r.label else file
  let name := if named then some shownName else none
  let isBinary := r.lineEnd == '\n' && r.binary != .shown && cs.contains '\x00'
  if isBinary && r.binary == .skipped then pure (0, used)
  else do
    let isEnd (c : Char) : Bool := c == r.lineEnd || (isBinary && c == '\x00')
    let lines := fileLines s isEnd (charactersIn s.wide cs)
    let all := (lines.filter fun l => l.selected).length
    let hits := min all (r.limit.getD all)
    let nameEnd := if r.nullNames then '\x00' else '\n'
    if r.quiet then pure (hits, used)
    else if r.names || r.namesWithout then do
      if r.names == (0 < hits) then
        put self (tinted r.colored "35" shownName.toList ++ [nameEnd])
      pure (hits, used)
    else if r.count then do
      let lead :=
        match name with
        | some n => tinted r.colored "35" n.toList ++
          if r.nullNames then ['\x00'] else tinted r.colored "36" [':']
        | none => []
      put self (lead ++ Nat.toDigits 10 hits ++ ['\n'])
      pure (hits, used)
    else if isBinary then do
      if 0 < hits then complain self s!"{shownName}: binary file matches"
      pure (hits, used)
    else do
      let width := if r.aligned then (Nat.toDigits 10 cs.length).length else 0
      let p := r.group s name width lines used
      put self p.shown.reverse.flatten
      if p.flawed then complain self s!"{shownName}: binary file matches"
      pure (p.hits, p.used)

/-- Where the search of an input stops: how many of its bytes are read. -/
def searchedLength (s : Search) (r : Report) (cs : List Char) : Nat :=
  let isOnce := r.quiet || r.names || r.namesWithout
  let limit := if isOnce then none else r.limit
  match limit with
  | none => cs.length
  | some n =>
    let lines := fileLines s (· == r.lineEnd) (charactersIn s.wide cs)
    let hits := lines.filter fun l => l.selected
    if hits.length < n then cs.length
    else
      match hits[n - 1]? with
      | some l => min cs.length (l.offset + (bytesIn s.wide l.text).length + 1)
      | none => 0

/-- Which files of a directory are searched: those that fit one of some patterns, if there are any,
and none of others; and which directories are passed over. -/
structure Sieve where
  included : List String
  excluded : List String
  excludedDirectories : List String

/-- Whether a pattern fits the end of a path that starts at one of its parts. -/
def fitsEnd (pattern path : String) : Bool :=
  let parts := path.splitOn "/"
  (List.range parts.length).any fun n =>
    Glob.fits pattern.toList ("/".intercalate (parts.drop n)).toList

namespace Sieve

/-- Whether a file that was named by itself is passed over. -/
def dropsNamed (v : Sieve) (file : String) : Bool :=
  let fits (p : String) : Bool := Glob.fits p.toList file.toList
  v.excluded.any fits || (!v.included.isEmpty && !v.included.any fits)

def dropsFile (v : Sieve) (path : String) : Bool :=
  let fits (p : String) : Bool := fitsEnd p path
  v.excluded.any fits || (!v.included.isEmpty && !v.included.any fits)

def dropsDirectory (v : Sieve) (path : String) : Bool :=
  v.excludedDirectories.any fun p => fitsEnd p path

end Sieve

/-- The files below a directory. Symbolic links lead on with `follow`. -/
def filesBelow (v : Sieve) (follow : Bool) : Nat → String → Run (List String)
  | 0, _ => pure []
  | fuel + 1, path => do
    match ← Run.node true path with
    | .error _ => pure []
    | .ok (n, _) => do
      let below ← (← Run.disk).children n |>.mapM fun name => do
        let path := under path name
        match ← Run.node follow path with
        | .error _ => pure [path]
        | .ok (_, i) =>
          if i.isDirectory then
            if v.dropsDirectory path then pure [] else filesBelow v follow fuel path
          else pure (if i.isFile && !v.dropsFile path then [path] else [])
      pure below.flatten

/-- Tells how the program is called, and ends it. -/
def grepUsage {α : Type} (self : String) : Run α := do
  Run.say 2 s!"Usage: {self} [OPTION]... PATTERNS [FILE]...\n"
  hint self 2

/-- Reads the patterns. -/
def grepPatterns (self : String) (m : Matcher) (folds wide words wholeLines : Bool)
    (texts : List (List Char)) : Run (List Regex) := do
  match m with
  | .fixed => pure (texts.map (Regex.ofText folds))
  | .perl => do
    match texts with
    | [text] => do
      let text :=
        if wholeLines then "^(?:".toList ++ text ++ ")$".toList
        else if words then "(?<!\\w)(?:".toList ++ text ++ ")(?!\\w)".toList
        else text
      match Regex.readPerl folds text with
      | .ok r => pure [r]
      | .error reason => do
        complain self reason
        quit 2
    | _ => do
      complain self "the -P option only supports a single pattern"
      quit 2
  | _ => do
    let d : Regex.Dialect := if m = .basic then .searching else .searchingExtended
    let read ← texts.mapM fun text => do
      match Regex.Reading.expression ⟨d, folds, wide, false, text.toArray⟩ with
      | .ok (r, _, passed) => pure (r, passed)
      | .error flaw => do
        complain self flaw.reason
        quit 2
    (read.flatMap Prod.snd).forM fun sign =>
      complain self s!"warning: {sign} at start of expression"
    if texts.any Regex.hasBareClass then do
      complain self Regex.bareClassReason
      quit 2
    pure (read.map Prod.fst)

/-- A number of lines around a hit. -/
def contextLength (self value : String) : Run Nat := do
  match digits? value with
  | some n => pure n
  | none => do
    complain self s!"{value}: invalid context length argument"
    quit 2

/-- The greatest number of hits: nothing if there is no bound. -/
def hitLimit (self value : String) : Run (Option Nat) := do
  if value.startsWith "-" && (digits? (value.drop 1).toString).isSome then pure none
  else
    match digits? value with
    | some n => pure (some n)
    | none => do
      complain self "invalid max count"
      quit 2

def grepSpec : Spec :=
  .ofText ("0123456789A:B:C:D:EFGHILPTUVX:abcd:e:f:hiLlm:noqRrsuvwxyZz"
      ++ "\x01:\x02;\x03:\x04:\x05:\x06:\x07:\x08:\x0e\x0f")
    [("basic-regexp", 'G'), ("extended-regexp", 'E'), ("fixed-regexp", 'F'), ("fixed-strings", 'F'),
      ("perl-regexp", 'P'), ("after-context", 'A'), ("before-context", 'B'),
      ("binary-files", '\x01'), ("line-buffered", 'U'), ("byte-offset", 'b'), ("context", 'C'),
      ("color", '\x02'), ("colour", '\x02'), ("count", 'c'), ("devices", 'D'), ("directories", 'd'),
      ("exclude", '\x03'), ("exclude-from", '\x04'), ("exclude-dir", '\x05'), ("file", 'f'),
      ("files-with-matches", 'l'), ("files-without-match", 'L'), ("group-separator", '\x06'),
      ("ignore-case", 'i'), ("no-ignore-case", '\x0f'), ("include", '\x07'), ("initial-tab", 'T'),
      ("label", '\x08'), ("line-number", 'n'), ("line-regexp", 'x'), ("max-count", 'm'),
      ("no-filename", 'h'), ("no-group-separator", '\x0e'), ("no-messages", 's'), ("null", 'Z'),
      ("null-data", 'z'), ("only-matching", 'o'), ("quiet", 'q'), ("recursive", 'r'),
      ("dereference-recursive", 'R'), ("regexp", 'e'), ("invert-match", 'v'), ("silent", 'q'),
      ("text", 'a'), ("binary", 'U'), ("unix-byte-offsets", 'u'), ("with-filename", 'H'),
      ("word-regexp", 'w'), ("version", 'V')]

/-- The matcher that the options ask for. -/
def matcherOf (self : String) (given : Matcher) (a : Arguments) : Run Matcher := do
  let named : List (Char × Matcher) :=
    [('E', .extended), ('F', .fixed), ('G', .basic), ('P', .perl)]
  let asked := a.options.filterMap fun o => (named.find? fun n => n.1 == o.1).map Prod.snd
  match asked.eraseDups with
  | [] => pure given
  | [m] => pure m
  | _ => do
    complain self "conflicting matchers specified"
    quit 2

/-- How what was found is shown, as the options ask for it. -/
def reportOf (self : String) (a : Arguments) : Run Report := do
  let digits := String.ofList ((a.options.filter fun o => o.1.isDigit).map Prod.fst)
  let around ←
    match (a.options.filter fun o => o.1 == 'C' || o.1.isDigit).getLast? with
    | some ('C', value) => do
      let n ← contextLength self value
      pure (some n)
    | some _ => pure (digits? digits)
    | none => pure none
  let side (c : Char) : Run (Option Nat) := do
    match a.value? c with
    | some value => do return some (← contextLength self value)
    | none => pure around
  let binary ←
    match (a.options.filter fun o => ['a', 'I', '\x01'].contains o.1).getLast? with
    | some ('a', _) => pure .shown
    | some ('I', _) => pure .skipped
    | some (_, "text") => pure .shown
    | some (_, "without-match") => pure .skipped
    | some (_, "binary") => pure .reported
    | some _ => do
      complain self "unknown binary-files type"
      quit 2
    | none => pure .reported
  let separator :=
    match (a.options.filter fun o => ['\x06', '\x0e'].contains o.1).getLast? with
    | some ('\x06', text) => some text
    | some _ => none
    | none => some "--"
  let limit ←
    match a.value? 'm' with
    | some value => hitLimit self value
    | none => pure none
  let listing := lastOf a ['l', 'L']
  let before ← side 'B'
  let after ← side 'A'
  pure
    { count := a.has 'c', names := listing == some 'l', namesWithout := listing == some 'L'
      quiet := a.has 'q', parts := a.has 'o', numbers := a.has 'n', offsets := a.has 'b'
      aligned := a.has 'T', nullNames := a.has 'Z'
      colored := (a.value? '\x02').any fun w => ["always", "yes", "force"].contains w
      binary, lineEnd := if a.has 'z' then '\x00' else '\n'
      before, after, separator, limit
      label := (a.value? '\x08').getD "(standard input)" }

/-- What is done about directories. -/
inductive Descent
  | read
  | skip
  | recurse
  deriving DecidableEq, Repr

def grepWith (given : Matcher) : Body := fun self args => do
  let a ← match readArguments grepSpec (args.length + 1) args with
    | .ok a => pure a
    | .error message => do
      complain self message
      grepUsage self
  if a.has 'V' then do
    putText self "grep (GNU grep) 3.11\n"
    quit 0
  let m ← matcherOf self given a
  let descent ←
    match (a.options.filter fun o => ['r', 'R', 'd'].contains o.1).getLast? with
    | none => pure Descent.read
    | some ('d', value) =>
      match chosen? [("read", Descent.read), ("recurse", .recurse), ("skip", .skip)] value with
      | .ok d => pure d
      | .error word => do
        let option ← named "--directories"
        complain self s!"{word} argument {← named value} for {option}"
        Run.say 2 "Valid arguments are:\n"
        ["read", "recurse", "skip"].forM fun v => do Run.say 2 s!"  - {← named v}\n"
        grepUsage self
    | some _ => pure .recurse
  let r ← reportOf self a
  let utf8 ← usesUtf8
  let sources ← (a.options.filter fun o => o.1 == 'e' || o.1 == 'f').mapM fun o => do
    if o.1 = 'e' then pure (piecesBetween (· == '\n') (o.2.toList ++ ['\n']))
    else
      match ← contents o.2 with
      | .ok cs => pure (linesOf cs).1
      | .error fault => do
        complain self s!"{o.2}: {fault.reason}"
        quit 2
  let isGiven := a.has 'e' || a.has 'f'
  let (texts, files) ←
    if isGiven then pure (sources.flatten, a.operands)
    else
      match a.operands with
      | p :: rest => pure (piecesBetween (· == '\n') (p.toList ++ ['\n']), rest)
      | [] => grepUsage self
  if a.has 'u' then complain self "warning: --unix-byte-offsets (-u) is obsolete"
  let folds := (lastOf a ['i', 'y', '\x0f']).any (· != '\x0f')
  let words := a.has 'w'
  let wholeLines := a.has 'x'
  let patterns ← grepPatterns self m folds utf8 words wholeLines (texts.map (charactersIn utf8))
  if r.limit = some 0 then quit 1
  let s : Search :=
    { patterns, wide := utf8, ordered := m = .perl, inverted := a.has 'v', wholeLines, words }
  let valuesOf (c : Char) : List String := (a.options.filter fun o => o.1 == c).map Prod.snd
  let fromFiles ← (valuesOf '\x04').mapM fun file => do
    match ← contents file with
    | .ok cs => pure ((linesOf cs).1.map String.ofList)
    | .error fault => do
      complain self s!"{file}: {fault.reason}"
      quit 2
  let sieve : Sieve :=
    { included := valuesOf '\x07', excluded := valuesOf '\x03' ++ fromFiles.flatten
      excludedDirectories := valuesOf '\x05' }
  let bare := files.isEmpty
  let operands :=
    if !bare then files else if descent = .recurse then ["."] else ["-"]
  let naming := lastOf a ['h', 'H']
  let isNamed (below : Bool) : Bool :=
    if naming == some 'H' then true else if naming == some 'h' then false
    else 1 < operands.length || below
  let searched ← operands.mapM fun file => do
    if file != "-" && (← Run.isDirectory file) then
      if descent = .recurse then do
        if sieve.excludedDirectories.any (fun p => Glob.fits p.toList file.toList) && !bare then
          pure []
        else
          let found ← filesBelow sieve (a.has 'R') 100 file
          pure (found.map fun f => (if bare then (f.drop 2).toString else f, true))
      else if descent = .skip then pure []
      else pure [(file, false)]
    else if sieve.dropsNamed file then pure []
    else pure [(file, false)]
  let shows := !r.quiet && !r.names && !r.namesWithout && !r.count
  let (found, failed, _) ← searched.flatten.foldlM
    (fun (found, failed, used) (file, below) => do
      let name := if file = "-" then r.label else file
      let refuse (reason : String) : Run (Bool × Bool × Bool) := do
        if !a.has 's' then complain self s!"{name}: {reason}"
        pure (found, true, used)
      if r.quiet && found then pure (found, failed, used)
      else
        match ← contents file with
        | .ok cs =>
          if shows && r.limit != some 1 && (← isOutput (← nodeOf file)) then do
            complain self s!"{name}: input file is also the output"
            pure (found, true, used)
          else do
            let (hits, used) ← searchText self s r (isNamed below) file used cs
            if file = "-" then giveBackInput cs.length (searchedLength s r cs)
            pure (found || 0 < hits, failed, used)
        | .error fault => refuse fault.reason)
    (false, false, false)
  pure (if failed && !(r.quiet && found) then 2 else if found then 0 else 1)

def grep : Body := grepWith .basic

end CredoAssistant.Shell.Program
