import CredoAssistant.Shell.Layout
import CredoAssistant.Shell.Program.Common
import CredoAssistant.Shell.Program.Files
import CredoAssistant.Shell.Regex.Notation

/-!
Files taken apart into sections, at numbers of lines or at lines that an expression fits.
-/
namespace CredoAssistant.Shell.Program

namespace Sections

/-- Where a section ends: before the line of a number, or some lines from one that an expression
fits. What comes before it may be left out. -/
inductive Mark
  | line (number : Nat)
  | fit (r : Regex) (skips : Bool) (offset : Int)
  deriving Repr

/-- A mark as it was given, and how often it is repeated; without a number that is as long as it
fits. -/
structure Border where
  mark : Mark
  given : String
  rounds : Option Nat
  deriving Repr

/-- How sections are written. -/
structure Manner where
  self : String
  front : String
  suffix : Nat → String
  keeps : Bool
  isQuiet : Bool
  elides : Bool
  dropsMarks : Bool

/-- What is left of the file with the number of its next line, the line up to which was searched,
the files that were written, and the section that is open. -/
structure State where
  rest : List (List Char)
  next : Nat
  searched : Nat
  files : List String
  isOpen : Bool
  content : List Char

abbrev Work := StateT State Run

/-- Starts a section. -/
def start : Work Unit := modify fun s => { s with isOpen := true, content := [] }

/-- Ends the section and tells its size. -/
def finish (m : Manner) : Work Unit := do
  let s ← get
  if s.isOpen then do
    set { s with isOpen := false, content := [] }
    if s.content.isEmpty && m.elides then pure ()
    else do
      let file := m.front ++ m.suffix s.files.length
      match ← writeFile file s.content with
      | .ok () => do
        modify fun s => { s with files := s.files ++ [file] }
        if !m.isQuiet then putText m.self s!"{s.content.length}\n"
      | .error fault => do
        cannotRead m.self file fault
        quit 1

/-- Takes the next line. -/
def take : Work (Option (List Char)) := do
  let s ← get
  match s.rest with
  | [] => pure none
  | line :: rest => do
    set { s with rest, next := s.next + 1, searched := max s.searched s.next }
    pure (some line)

def keep (line : List Char) : Work Unit := modify fun s => { s with content := s.content ++ line }

/-- Puts all that is left into the section. -/
def keepRest : Work Unit :=
  modify fun s =>
    { s with content := s.content ++ s.rest.flatten, rest := [], next := s.next + s.rest.length }

/-- Gives up. What was written is taken back, unless it is to be kept. -/
def giveUp {α : Type} (m : Manner) : Work α := do
  finish m
  let s ← get
  if !m.keeps then
    s.files.forM fun file => do
      match ← Run.spot false file with
      | .ok spot => if spot.found.isSome then dropSpot spot
      | .error _ => pure ()
  quit 1

/-- A number of a round in a complaint, behind the first round. -/
def inRound (round : Nat) : String := if round = 0 then "" else s!" on repetition {round}"

/-- Complains that there are not so many lines. -/
def lacking {α : Type} (m : Manner) (number round : Nat) : Work α := do
  complain m.self s!"{← named (toString number)}: line number out of range{inRound round}"
  giveUp m

/-- Takes lines up to the one of a number. -/
def upTo (m : Manner) (number last round : Nat) : Nat → Work Unit
  | 0 => pure ()
  | fuel + 1 => do
    if (← get).next < last then
      match ← take with
      | some line => do
        keep line
        upTo m number last round fuel
      | none => lacking m number round

/-- A section before the line of a number. -/
def byLine (m : Manner) (number round : Nat) : Work Unit := do
  start
  if m.dropsMarks && (← get).rest.isEmpty then lacking m number round
  upTo m number (number * (round + 1)) round ((← get).rest.length + 1)
  finish m
  if m.dropsMarks then do let _ ← take
  else if (← get).rest.isEmpty then lacking m number round

/-- Why the search for a line has ended: it was found, or there is none. -/
inductive Hit
  | found
  | none

/-- Searches for a line that an expression fits. Lines before it are taken at once unless some of
them may stay. -/
def search (r : Regex) (skips takes : Bool) : Nat → Work Hit
  | 0 => pure .none
  | fuel + 1 => do
    modify fun s => { s with searched := max (s.searched + 1) s.next }
    let s ← get
    match s.rest[s.searched - s.next]? with
    | none => pure .none
    | some line =>
      let body := if line.getLast? = some '\n' then line.dropLast else line
      if Regex.isIn ⟨body.toArray, false, false, false⟩ r then pure .found
      else do
        if takes then
          match ← take with
          | some line => if !skips then keep line
          | none => pure ()
        search r skips takes fuel

/-- Takes lines up to the one of a number. -/
def takeUpTo (m : Manner) (given : String) (skips : Bool) : Nat → Work Unit
  | 0 => pure ()
  | count + 1 => do
    match ← take with
    | some line => do
      if !skips then keep line
      takeUpTo m given skips count
    | none => do
      complain m.self s!"{← named given}: line number out of range"
      giveUp m

/-- A section before a line that an expression fits; whether the work goes on. -/
def byFit (m : Manner) (b : Border) (r : Regex) (skips : Bool) (offset : Int) (round : Nat) :
    Work Bool := do
  if !skips then start
  match ← search r skips (0 ≤ offset) ((← get).rest.length + 2) with
  | .none =>
    if b.rounds.isNone then do
      if !skips then do
        keepRest
        finish m
      pure false
    else do
      complain m.self s!"{← named b.given}: match not found{inRound round}"
      if !skips then do
        keepRest
        finish m
      giveUp m
  | .found => do
    let s ← get
    let last : Int := s.searched + offset
    if last < s.next then do
      complain m.self s!"{← named b.given}: line number out of range"
      giveUp m
    takeUpTo m b.given skips (last - s.next).toNat
    if !skips then finish m
    if 0 < offset then modify fun s => { s with searched := last.toNat }
    if m.dropsMarks then do let _ ← take
    pure true

/-- Goes through the rounds of a border; whether the work goes on. -/
def rounds (m : Manner) (b : Border) : Nat → Nat → Work Bool
  | 0, _ => pure true
  | fuel + 1, round => do
    if b.rounds.any fun n => n < round then pure true
    else do
      let goesOn ←
        match b.mark with
        | .line n => do
          byLine m n round
          pure true
        | .fit r skips offset => byFit m b r skips offset round
      if goesOn then rounds m b fuel (round + 1) else pure false

/-- Takes a file apart. -/
def all (m : Manner) : List Border → Work Unit
  | [] => do
    start
    keepRest
    finish m
  | b :: rest => do
    let lines := (← get).rest.length
    if ← rounds m b ((b.rounds.getD (lines + 1)) + 1) 0 then all m rest

/-! Borders in arguments -/

/-- How often a border is repeated. -/
def roundsOf (self s : String) : Run (Option Nat) := do
  let cs := s.toList
  if cs.getLast? != some '\x7d' then do
    complain self (s ++ ": '\x7d' is required in repeat count")
    quit 1
  else
    match String.ofList cs.dropLast.tail with
    | "*" => pure none
    | body =>
      match digits? body with
      | some n => pure (some n)
      | none => do
        let shown ← named (String.ofList cs.dropLast)
        let braces := "'\x7b' and '\x7d'"
        complain self s!"{shown}\x7d: integer required between {braces}"
        quit 1

/-- A mark between delimiters, with the distance to it. -/
def fitOf (self s : String) (delimiter : Char) : Run Mark := do
  let cs := s.toList.tail
  let behind := (cs.reverse.takeWhile (· != delimiter)).reverse
  if behind.length = cs.length then do
    let d := String.singleton delimiter
    complain self s!"{s}: closing delimiter '{d}' missing"
    quit 1
  else do
    let source := cs.take (cs.length - behind.length - 1)
    match Regex.read .basic false false source with
    | .error _ => do
      complain self s!"{← named s}: invalid regular expression: Invalid regular expression"
      quit 1
    | .ok (r, _) => do
      let (negative, ds) := Binary64.takeSign behind
      let offset : Int ←
        if behind.isEmpty then pure 0
        else
          match digits? (String.ofList ds) with
          | some n => pure (if negative then -(n : Int) else n)
          | none => do
            complain self s!"{← named s}: integer expected after delimiter"
            quit 1
      pure (.fit r (delimiter = '%') offset)

/-- The borders that arguments give. -/
def borders (self : String) : Nat → Nat → List String → Run (List Border)
  | 0, _, _ => pure []
  | _ + 1, _, [] => pure []
  | fuel + 1, last, given :: rest => do
    let (mark, last) : Mark × Nat ←
      match given.toList with
      | '/' :: _ => do
        let mark ← fitOf self given '/'
        pure (mark, last)
      | '%' :: _ => do
        let mark ← fitOf self given '%'
        pure (mark, last)
      | _ =>
        match digits? given with
        | none => do
          complain self s!"{← named given}: invalid pattern"
          quit 1
        | some n => do
          if n = 0 then do
            complain self s!"{given}: line number must be greater than zero"
            quit 1
          if n < last then do
            complain self
              s!"line number {← named given} is smaller than preceding line number, {last}"
            quit 1
          if n = last then
            complain self
              s!"warning: line number {← named given} is the same as preceding line number"
          pure (.line n, n)
    match rest with
    | count :: more =>
      if count.startsWith "\x7b" then do
        let rounds ← roundsOf self count
        return ⟨mark, given, rounds⟩ :: (← borders self fuel last more)
      else return ⟨mark, given, some 0⟩ :: (← borders self fuel last rest)
    | [] => pure [⟨mark, given, some 0⟩]

/-- The end of a file name with a number: in a format with one conversion. -/
def suffixIn (format : String) (n : Nat) : String :=
  let cs := format.toList
  let front := cs.takeWhile (· != '%')
  let behind := cs.drop (front.length + 1)
  let flags := behind.takeWhile fun c => "#-+ 0'".toList.contains c
  let width := (behind.drop flags.length).takeWhile Char.isDigit
  let rest := behind.drop (flags.length + width.length)
  let (precision, rest) : Option Nat × List Char :=
    match rest with
    | '.' :: more =>
      let ds := more.takeWhile Char.isDigit
      (some (Decimal.value ds), more.drop ds.length)
    | _ => (none, rest)
  let l : Layout := ⟨flags, Decimal.value width, precision⟩
  match rest with
  | c :: more =>
    let shown := if c = 'd' ∨ c = 'i' then l.signed n else l.unsigned c n
    String.ofList (front ++ shown ++ more)
  | [] => format

/-- Checks a format for the ends of file names. -/
def checkFormat (self format : String) : Run Unit := do
  let cs := format.toList
  let behind := cs.drop ((cs.takeWhile (· != '%')).length + 1)
  let rest := behind.dropWhile fun c => "#-+ 0'".toList.contains c || c.isDigit || c == '.'
  let refuse (message : String) : Run Unit := do
    complain self message
    quit 1
  match rest with
  | c :: more =>
    if !"diuoxX".toList.contains c then
      refuse s!"invalid conversion specifier in suffix: {String.singleton c}"
    else if more.contains '%' then refuse "too many % conversion specifications in suffix"
  | [] =>
    if cs.contains '%' then refuse "missing conversion specifier in suffix"
    else refuse "missing % conversion specification in suffix"

end Sections

open Sections in
def csplit : Body := fun self args => do
  let a ← arguments self
    (.ofText "b:f:kn:qsz\x01"
      [("suffix-format", 'b'), ("prefix", 'f'), ("keep-files", 'k'), ("digits", 'n'),
        ("quiet", 'q'), ("silent", 's'), ("elide-empty-files", 'z'), ("suppress-matched", '\x01')])
    1 args
  let digits : List Nat ← (a.options.filter fun o => o.1 == 'n').mapM fun o => do
    match digits? o.2 with
    | some n => pure n
    | none => do
      complain self s!"invalid number: {← named o.2}"
      quit 1
  match a.operands with
  | [] => misuse self "missing operand" 1
  | [x] => misuse self s!"missing operand after {← named x}" 1
  | file :: given => do
    let width := digits.getLast?.getD 2
    let plain (n : Nat) : String :=
      let ds := Nat.toDigits 10 n
      String.ofList (List.replicate (width - ds.length) '0' ++ ds)
    match a.value? 'b' with
    | some f => checkFormat self f
    | none => pure ()
    let suffix : Nat → String := ((a.value? 'b').map suffixIn).getD plain
    let bs ← borders self (given.length + 1) 0 given
    match ← contents file with
    | .error fault => do
      if fault = .isDirectory then complain self s!"read error: {fault.reason}"
      else if file = "-" then complain self s!"read error: {fault.reason}"
      else complain self s!"cannot open {← shellName true file} for reading: {fault.reason}"
      pure 1
    | .ok cs => do
      let (ls, isEnded) := linesOf cs
      let lines :=
        (ls.zipIdx).map fun l => if !isEnded && l.2 + 1 == ls.length then l.1 else l.1 ++ ['\n']
      let m : Manner :=
        { self, front := (a.value? 'f').getD "xx", suffix
          keeps := a.has 'k', isQuiet := a.has 'q' || a.has 's', elides := a.has 'z'
          dropsMarks := a.has '\x01' }
      let _ ← (all m bs).run ⟨lines, 1, 0, [], false, []⟩
      pure 0

end CredoAssistant.Shell.Program
