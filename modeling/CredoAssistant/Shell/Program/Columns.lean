import CredoAssistant.Number.Decimal
import CredoAssistant.Shell.Format
import CredoAssistant.Shell.Program.Common

/-!
Columns of lines: lists of places, parts that are cut out, and lines side by side.
-/
namespace CredoAssistant.Shell.Program

/-- A range of places. Without a last one it is open. -/
structure Span where
  first : Nat
  last : Option Nat
  deriving DecidableEq, Repr

namespace Span

/-- Why a text is no list of places. -/
inductive Flaw
  | range
  | zero
  | endless
  | decreasing
  | tooLarge (digits : List Char)
  | value (rest : List Char)
  deriving DecidableEq, Repr

/-- How far a list was read: the ranges so far, the last one first; the digits of the number at
hand; where its range starts; and whether there was a number before a hyphen, one behind it, and a
hyphen. -/
structure Reading where
  spans : List Span
  digits : List Char
  start : Nat
  left : Bool
  right : Bool
  dash : Bool

/-- Numbers from here on are too large for a place. -/
def limit : Nat := 2 ^ 64 - 1

/-- Ends a range. With `lone` a hyphen alone stands for all places. -/
def close (lone : Bool) (r : Reading) : Except Flaw Reading :=
  let value := Decimal.value r.digits
  let add (s : Span) : Except Flaw Reading := .ok ⟨s :: r.spans, [], 1, false, false, false⟩
  if !r.dash then if value = 0 then .error .zero else add ⟨value, some value⟩
  else if !r.left && !r.right then if lone then add ⟨1, none⟩ else .error .endless
  else if !r.right then add ⟨r.start, none⟩
  else if value < r.start then .error .decreasing
  else add ⟨r.start, some value⟩

/-- Reads a list of places. -/
def readFrom (lone : Bool) : List Char → Reading → Except Flaw (List Span)
  | [], r => (close lone r).map fun r => r.spans.reverse
  | c :: rest, r =>
    if c = '-' then
      let value := Decimal.value r.digits
      if r.dash then .error .range
      else if r.left && value = 0 then .error .zero
      else
        let start := if r.left then value else 1
        readFrom lone rest { r with digits := [], start, dash := true }
    else if c = ',' ∨ c = ' ' ∨ c = '\t' then
      match close lone r with
      | .ok r => readFrom lone rest r
      | .error flaw => .error flaw
    else if c.isDigit then
      let digits := r.digits ++ [c]
      if limit ≤ Decimal.value digits then
        .error (.tooLarge (digits ++ rest.takeWhile Char.isDigit))
      else
        readFrom lone rest { r with digits, left := r.left || !r.dash, right := r.right || r.dash }
    else .error (.value (c :: rest))

/-- Reads a list of places in order; ranges that overlap are drawn together. -/
def read (lone : Bool) (s : String) : Except Flaw (List Span) := do
  let spans ← readFrom lone s.toList ⟨[], [], 1, false, false, false⟩
  let ordered := spans.mergeSort fun a b => decide (a.first ≤ b.first)
  let merged := ordered.foldl
    (fun (acc : List Span) s =>
      match acc with
      | t :: rest =>
        if t.last.all (s.first ≤ ·) then
          let last := t.last.bind fun m => s.last.map (max m)
          { t with last } :: rest
        else s :: acc
      | [] => [s])
    []
  .ok merged.reverse

/-- The ranges between some ranges. -/
def complementFrom (first : Nat) : List Span → List Span
  | [] => [⟨first, none⟩]
  | s :: rest =>
    let gap := if first < s.first then [⟨first, some (s.first - 1)⟩] else []
    match s.last with
    | none => gap
    | some last => gap ++ complementFrom (last + 1) rest

def complement (spans : List Span) : List Span := complementFrom 1 spans

def holds (spans : List Span) (n : Nat) : Bool :=
  spans.any fun s => s.first ≤ n && s.last.all (n ≤ ·)

/-- The members of a list at some places. -/
def choose {α : Type} (spans : List Span) (xs : List α) : List α :=
  (xs.zipIdx 1).filterMap fun x => if holds spans x.2 then some x.1 else none

end Span

/-! Parts of lines -/

/-- What is wrong with a list of bytes or fields. -/
def listComplaint (byFields : Bool) (flaw : Span.Flaw) : Run String := do
  match flaw with
  | .range => pure (if byFields then "invalid field range" else "invalid byte or character range")
  | .zero =>
    pure (if byFields then "fields are numbered from 1"
      else "byte/character positions are numbered from 1")
  | .endless => pure "invalid range with no endpoint: -"
  | .decreasing => pure "invalid decreasing range"
  | .tooLarge digits => do
    let name ← named (String.ofList digits)
    let kind := if byFields then "field number " else "byte/character offset "
    pure (kind ++ name ++ " is too large")
  | .value rest => do
    let name ← named (String.ofList rest)
    pure ((if byFields then "invalid field value " else "invalid byte/character position ") ++ name)

/-- What is cut out of lines: bytes or fields at some places, what stands between fields, what is
written between the parts, and whether lines without a delimiter are left out. -/
structure Cut where
  spans : List Span
  byFields : Bool
  delimiter : Char
  between : Option (List Char)
  onlyDelimited : Bool

namespace Cut

/-- The parts of a line between a delimiter. -/
def partsAt (d : Char) (cs : List Char) : List (List Char) :=
  cs.foldr
    (fun c acc =>
      if c = d then [] :: acc
      else
        match acc with
        | part :: rest => (c :: part) :: rest
        | [] => [[c]])
    [[]]

/-- The chosen bytes of a line; where a new range starts, a delimiter may stand before it. -/
def bytes (c : Cut) (line : List Char) : List Char :=
  let isStart (n : Nat) : Bool := c.spans.any fun s => s.first == n
  ((line.zipIdx 1).foldl
    (fun (shown : List Char) (b, n) =>
      if !Span.holds c.spans n then shown
      else if !shown.isEmpty && isStart n then b :: ((c.between.getD []).reverse ++ shown)
      else b :: shown)
    []).reverse

/-- The chosen fields of a line, if anything of it is shown. -/
def fields (c : Cut) (line : List Char) : Option (List Char) :=
  if line.contains c.delimiter then
    let parts := Span.choose c.spans (partsAt c.delimiter line)
    some (parts.intersperse (c.between.getD [c.delimiter])).flatten
  else if c.onlyDelimited then none
  else some line

/-- What is shown of a text in which `close` ends lines. A delimiter that ends lines makes one line
of all. -/
def text (c : Cut) (close : Char) (cs : List Char) : List Char :=
  let lines :=
    if c.byFields && c.delimiter == close then
      if cs.isEmpty then [] else [if cs.getLast? == some close then cs.dropLast else cs]
    else linesUpTo close cs
  closedBy close (if c.byFields then lines.filterMap c.fields else lines.map c.bytes)

end Cut

def cut : Body := fun self args => do
  let a ← arguments self
    (.ofText "b:c:d:f:nsz\x01\x02:"
      [("bytes", 'b'), ("characters", 'c'), ("delimiter", 'd'), ("fields", 'f'),
        ("only-delimited", 's'), ("complement", '\x01'), ("output-delimiter", '\x02'),
        ("zero-terminated", 'z')])
    1 args
  let lists := a.options.filter fun o => ['b', 'c', 'f'].contains o.1
  let delimiter := (a.value? 'd').map String.toList
  if 1 < lists.length then misuse self "only one list may be specified" 1
  if delimiter.any fun d => 1 < d.length then
    misuse self "the delimiter must be a single character" 1
  match lists with
  | [] => misuse self "you must specify a list of bytes, characters, or fields" 1
  | (kind, list) :: _ => do
    let byFields := kind == 'f'
    if delimiter.any (fun d => !d.isEmpty) && !byFields then
      misuse self "an input delimiter may be specified only when operating on fields" 1
    if a.has 's' && !byFields then
      misuse self
        "suppressing non-delimited lines makes sense\n\tonly when operating on fields" 1
    match Span.read false list with
    | .error flaw => misuse self (← listComplaint byFields flaw) 1
    | .ok spans => do
      let between := (a.value? '\x02').map fun s => if s = "" then ['\x00'] else s.toList
      let c : Cut :=
        ⟨if a.has '\x01' then Span.complement spans else spans, byFields,
          delimiter.elim '\t' fun d => d.headD '\x00', between, a.has 's'⟩
      let close := if a.has 'z' then '\x00' else '\n'
      let failed ← anyFails (inputs a) fun file => do
        match ← contents file with
        | .ok cs => do
          put self (c.text close cs)
          pure false
        | .error fault => do
          cannotRead self file fault
          pure true
      let unclosed ← closeInput self (inputs a)
      pure (statusOf (failed || unclosed))

/-! Lines side by side -/

/-- Reads the delimiters in a text, of which some may be nothing; there are none with an open escape
at the end. -/
def delimiters? : List Char → Option (List (Option Char))
  | [] => some []
  | ['\\'] => none
  | '\\' :: '0' :: rest => (delimiters? rest).map (none :: ·)
  | '\\' :: c :: rest =>
    let letter := if c = 'a' then none else Escape.letter? c
    (delimiters? rest).map (some (letter.getD c) :: ·)
  | c :: rest => (delimiters? rest).map (some c :: ·)

/-- Every `count`-th of some lines from a place on. -/
def everyNth (count start : Nat) (lines : List (List Char)) : List (List Char) :=
  (lines.zipIdx.filter fun p => p.2 % max count 1 == start).map Prod.fst

/-- Deals the lines of the input, which come at the first of its names, to all of them. -/
def dealInput (files : List (String × List (List Char))) : List (List (List Char)) :=
  let isInput (f : String × List (List Char)) : Bool := f.1 == "-"
  let count := files.countP isInput
  let input := ((files.find? isInput).map Prod.snd).getD []
  (files.zipIdx).map fun (f, i) =>
    if isInput f then everyNth count ((files.take i).countP isInput) input else f.2

def paste : Body := fun self args => do
  let a ← arguments self
    (.ofText "d:sz" [("delimiters", 'd'), ("serial", 's'), ("zero-terminated", 'z')]) 1 args
  let close := if a.has 'z' then '\x00' else '\n'
  let list := (a.value? 'd').getD "\t"
  let delimiters ←
    match delimiters? list.toList with
    | some [] => pure [none]
    | some ds => pure ds
    | none => do
      let name ← shellName false list
      complain self s!"delimiter list ends with an unescaped backslash: {name}"
      quit 1
  let join (parts : List (List Char)) : List Char :=
    ((parts.zipIdx).map fun (part, i) =>
      if i = 0 then part
      else (delimiters[(i - 1) % max delimiters.length 1]?.join).toList ++ part).flatten
  let read (file : String) : Run (Except Fault (List (List Char))) := do
    return (← contents file).map (linesUpTo close)
  let missing (file : String) (fault : Fault) : Run (String × List (List Char) × Bool) := do
    cannotRead self file fault
    if fault = .isDirectory ∨ fault = .badStream then pure (file, [], true) else quit 1
  let failed ←
    if a.has 's' then
      anyFails (inputs a) fun file => do
        match ← read file with
        | .ok lines => do
          put self (join lines ++ [close])
          pure false
        | .error fault => do
          cannotRead self file fault
          if fault = .isDirectory ∨ fault = .badStream then put self [close]
          pure true
    else do
      let files ← (inputs a).mapM fun file => do
        match ← read file with
        | .ok lines => pure (file, lines, false)
        | .error fault => missing file fault
      let columns := dealInput (files.map fun f => (f.1, f.2.1))
      let rows := (columns.map List.length).foldl max 0
      put self (closedBy close ((List.range rows).map fun i =>
        join (columns.map fun f => (f[i]?).getD [])))
      pure (files.any fun f => f.2.2)
  let unclosed ← closeInput self (inputs a)
  pure (statusOf (failed || unclosed))

end CredoAssistant.Shell.Program
