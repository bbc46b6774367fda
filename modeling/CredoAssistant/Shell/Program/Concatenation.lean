import CredoAssistant.Shell.Program.Common
import CredoAssistant.Shell.Regex.Notation

/-!
Files one behind the other, and the input at several places at once; files turned round, their lines
from the last one on, or the characters of each line.
-/
namespace CredoAssistant.Shell.Program

/-! ### Files turned round -/

namespace Reversal

/-- The last place up to a bound at which a separator starts, and where it ends. Nothing of it lies
behind the bound. -/
def lastSeparator? (find : Nat → Nat → Option Nat) (bound : Nat) : Nat → Option (Nat × Nat)
  | 0 => none
  | i + 1 =>
    match find bound i with
    | some j => some (i, j)
    | none => lastSeparator? find bound i

/-- The starts of records, from the last one on. `separates` finds the end of a separator that
starts at a place before a bound; with `ends` separators end records, and otherwise they begin
them. -/
def starts (separates : Nat → Nat → Option Nat) (ends : Bool) (size : Nat) : Nat → Nat → List Nat
  | 0, _ => [0]
  | fuel + 1, bound =>
    match lastSeparator? separates bound bound with
    | none => [0]
    | some (i, j) =>
      let more := starts separates ends size fuel i
      if ends then if j = size then more else j :: more else i :: more

/-- The records of a text, from the last one on. -/
def records (text : Array Char) (starts : List Nat) : List Char :=
  (starts.foldl
    (fun (shown, behind) start => (shown ++ (text.extract start behind).toList, start))
    (([] : List Char), text.size)).1

end Reversal

section

open Reversal

def tac : Body := fun self args => do
  let spec := Spec.ofText "brs:" [("before", 'b'), ("regex", 'r'), ("separator", 's')]
  let a ← arguments self spec 1 args
  let utf8 ← usesUtf8
  let separator := ((a.value? 's').getD "\n").toList
  let pattern? ←
    if a.has 'r' then do
      if separator.isEmpty then do
        complain self "separator cannot be empty"
        quit 1
      match Regex.read .editing false utf8 (charactersIn utf8 separator) with
      | .ok (r, _) => pure (some r)
      | .error flaw => do
        complain self flaw.reason
        quit 1
    else pure none
  let turned (cs : List Char) : List Char :=
    match pattern? with
    | some r =>
      let text := (charactersIn utf8 cs).toArray
      let separates (bound i : Nat) : Option Nat :=
        let subject : Regex.Subject := ⟨text.extract 0 bound, utf8, true, false⟩
        (Regex.endAt? subject r i).map Regex.Place.position
      let shown := records text (starts separates (!a.has 'b') text.size text.size text.size)
      bytesIn utf8 shown
    | none =>
      let text := cs.toArray
      let mark := if separator.isEmpty then ['\x00'] else separator
      let separates (bound i : Nat) : Option Nat :=
        let j := i + mark.length
        if j ≤ bound && text[i]? == mark.head? && (text.extract i j).toList == mark then some j
        else none
      records text (starts separates (!a.has 'b') text.size text.size text.size)
  let (shown, failed) ← (inputs a).foldlM
    (fun (shown, failed) file => do
      match ← contents file with
      | .ok cs => pure (shown ++ turned cs, failed)
      | .error fault => do
        let name ← shellName true file
        complain self (← match fault with
          | .isDirectory => do
            pure s!"{← shellName false file}: read error: {Fault.invalid.reason}"
          | .badStream => pure s!"'standard input': read error: {fault.reason}"
          | _ => pure s!"failed to open {name} for reading: {fault.reason}")
        pure (shown, true))
    (([] : List Char), false)
  put self shown
  let unclosed ← closeInput self (inputs a)
  pure (statusOf (failed || unclosed))

/-- Turns lines round. What cannot be read as characters is read over and over. -/
def rev : Body := fun self args => do
  let a ← arguments self (.ofText "0hV" [("zero", '0')]) 1 args
  let utf8 ← usesUtf8
  let close := if a.has '0' then '\x00' else '\n'
  let (shown, failed) ← (inputs a).foldlM
    (fun (shown, failed) file => do
      match ← contents file with
      | .ok cs => do
        let text := charactersIn utf8 cs
        if utf8 && text.any fun c => Octets.firstApart ≤ c.toNat then Run.forever
        let lines := closedBy close ((linesUpTo close text).map List.reverse)
        let isOpen := text.getLast?.any (· != close)
        pure (shown ++ bytesIn utf8 (if isOpen then lines.dropLast else lines), failed)
      | .error .isDirectory => Run.forever
      | .error .badStream => Run.forever
      | .error fault => do
        complain self s!"cannot open {file}: {fault.reason}"
        pure (shown, true))
    (([] : List Char), false)
  put self shown
  pure (statusOf failed)

end

/-! ### Files as they are -/

/-- How text is shown: with numbers before its lines, or before the filled ones only; with marks at
the ends of lines, for tabs and for other characters; and with empty lines drawn together. -/
structure Showing where
  numbers : Bool
  onlyFilled : Bool
  ends : Bool
  tabs : Bool
  marks : Bool
  squeezes : Bool
  deriving DecidableEq, Repr

namespace Showing

/-- Whether text is shown as it is. -/
def isPlain (s : Showing) : Bool := !(s.numbers || s.ends || s.tabs || s.marks || s.squeezes)

/-- A character with a mark in its place, if it has one. -/
def marked (s : Showing) (c : Char) : List Char :=
  let n := c.toNat
  let low (n : Nat) : List Char :=
    if n < 32 then ['^', Char.ofNat (n + 64)]
    else if n = 127 then ['^', '?']
    else [Char.ofNat n]
  if c = '\t' then if s.tabs then ['^', 'I'] else [c]
  else if !s.marks then [c]
  else if 128 ≤ n then 'M' :: '-' :: low (n - 128)
  else low n

/-- A number before a line. -/
def lineNumber (n : Nat) : List Char :=
  let ds := Nat.toDigits 10 n
  List.replicate (6 - ds.length) ' ' ++ ds ++ ['\t']

/-- Where text has come to: the number of the last line, how many line ends stand before this place,
and what was shown, the last character first. -/
structure Position where
  number : Nat
  ends : Nat
  shown : List Char

def Position.put (p : Position) (cs : List Char) : Position :=
  { p with shown := cs.reverse ++ p.shown }

/-- Sets the number of the next line. -/
def count (p : Position) : Position :=
  { p.put (lineNumber (p.number + 1)) with number := p.number + 1 }

/-- Shows text. It starts at the beginning of a line, as if a line end stood before it. -/
def display (s : Showing) : List Char → Position → Position
  | [], p => p
  | c :: rest, p =>
    if c = '\n' then
      if s.squeezes && 2 < p.ends + 1 then s.display rest p
      else
        let isEmpty := 1 < p.ends + 1
        let p := if isEmpty && s.numbers && !s.onlyFilled then count p else p
        let p := p.put (if s.ends then ['$', '\n'] else ['\n'])
        s.display rest { p with ends := min 2 p.ends + 1 }
    else
      let p := if 0 < p.ends && s.numbers then count p else p
      let isReturn := c == '\r' && s.ends && !s.marks && rest.head? == some '\n'
      s.display rest { p.put (if isReturn then ['^', 'M'] else s.marked c) with ends := 0 }

end Showing

/-- Whether copying a file to the output would never end, since it is the output itself and what is
written comes behind what is read. -/
def feedsItself (file : String) : Run Bool := do
  let node ← nodeOf file
  if !(← isOutput node) then pure false
  else
    let start : Nat ←
      if file = "-" then do pure (((← Run.handle? 0).map fun h => h.2.offset).getD 0) else pure 0
    match ← Run.handle? 1 with
    | some (_, h) => do
      let size := ((← Run.disk).bytes (node.getD 0)).length
      pure (start < if h.appends then size else h.offset)
    | none => pure false

def cat : Body := fun self args => do
  let a ← arguments self
    (.ofText "benstuvAET"
      [("number-nonblank", 'b'), ("number", 'n'), ("squeeze-blank", 's'), ("show-nonprinting", 'v'),
        ("show-ends", 'E'), ("show-tabs", 'T'), ("show-all", 'A')])
    1 args
  let s : Showing :=
    { numbers := a.has 'n' || a.has 'b', onlyFilled := a.has 'b'
      ends := a.has 'E' || a.has 'A' || a.has 'e', tabs := a.has 'T' || a.has 'A' || a.has 't'
      marks := a.has 'v' || a.has 'A' || a.has 'e' || a.has 't', squeezes := a.has 's' }
  if (← Run.handle? 1).isNone then do
    (unwrittenMessages self .badStream).forM (complain self)
    quit 1
  let (_, failed) ← (inputs a).foldlM
    (fun (p, failed) file => do
      if ← feedsItself file then do
        complain self s!"{← shellName false file}: input file is output file"
        pure (p, true)
      else if s.isPlain then do
        match ← foldContents file (fun _ cs => put self cs) () with
        | .ok _ => pure (p, failed)
        | .error fault => do
          cannotRead self file fault
          pure (p, true)
      else
        match ← contents file with
        | .ok cs => do
          let p := s.display cs p
          put self p.shown.reverse
          pure ({ p with shown := [] }, failed)
        | .error fault => do
          cannotRead self file fault
          pure (p, true))
    (Showing.Position.mk 0 1 [], false)
  if (inputs a).contains "-" && (← lacksInput) then do
    complain self s!"closing standard input: {Fault.badStream.reason}"
    quit 1
  pure (statusOf failed)

/-- What follows when output fails. -/
def outputErrors : List (String × Bool) :=
  [("warn", false), ("warn-nopipe", false), ("exit", true), ("exit-nopipe", true)]

def tee : Body := fun self args => do
  let a ← arguments self
    (.ofText "aip\x01;"
      [("append", 'a'), ("ignore-interrupts", 'i'), ("output-error", '\x01')])
    1 args
  let exits ←
    match a.value? '\x01' with
    | some v => if v = "" then pure false else choice self "--output-error" v outputErrors
    | none => pure false
  let opening : Opening := if a.has 'a' then .append else .write
  let (handles, failed) ← a.operands.foldlM
    (fun (handles, failed) file => do
      match ← openForProgram opening file with
      | .ok id => pure (handles ++ [(file, id)], failed)
      | .error fault => do
        cannotRead self file fault
        if exits then quit 1
        pure (handles, true))
    (([] : List (String × Nat)), false)
  let unread ← do
    let copy (failed : Bool) (cs : List Char) : Run Bool := do
      let unwritten ←
        if cs.isEmpty || (← Run.write 1 cs) then pure false
        else do
          (unwrittenMessages self (← outputFault)).forM (complain self)
          if exits then quit 1
          pure true
      let others ← anyFails handles fun (file, id) => do
        if ← writeTo id cs then pure false
        else do
          cannotRead self file .full
          if exits then quit 1
          pure true
      pure (failed || unwritten || others)
    match ← foldContents "-" copy false with
    | .ok failed => pure failed
    | .error fault => fails self s!"read error: {fault.reason}"
  if ← lacksInput then do
    complain self s!"standard input: {Fault.badStream.reason}"
    quit 1
  pure (statusOf (failed || unread))

end CredoAssistant.Shell.Program
