import CredoAssistant.Shell.Layout
import CredoAssistant.Shell.Program.Columns
import CredoAssistant.Shell.Program.Common
import CredoAssistant.Shell.Program.Counting
import CredoAssistant.Shell.VersionOrder

/-!
Lines put in order, by all of their text or by keys in them.
-/
namespace CredoAssistant.Shell.Program

namespace Sorting

/-- How keys compare: which blanks around them do not count, which characters do, whether case does,
what is read in them, and whether the order is turned round. -/
structure Manner where
  skipsFront : Bool
  skipsBack : Bool
  dictionary : Bool
  printable : Bool
  folds : Bool
  numeric : Bool
  general : Bool
  human : Bool
  month : Bool
  random : Bool
  version : Bool
  reverse : Bool
  deriving DecidableEq, Repr

namespace Manner

def plain : Manner :=
  ⟨false, false, false, false, false, false, false, false, false, false, false, false⟩

/-- Whether keys compare as they are, in either direction. -/
def isPlain (m : Manner) : Bool := { m with reverse := false } == plain

/-- Adds what a letter asks for; blanks count for the front, the back or both ends of a key. -/
def add (front back : Bool) (m : Manner) (c : Char) : Option Manner :=
  match c with
  | 'b' => some { m with skipsFront := m.skipsFront || front, skipsBack := m.skipsBack || back }
  | 'd' => some { m with dictionary := true, printable := false }
  | 'f' => some { m with folds := true }
  | 'g' => some { m with general := true }
  | 'h' => some { m with human := true }
  | 'i' => some { m with printable := !m.dictionary }
  | 'M' => some { m with month := true }
  | 'n' => some { m with numeric := true }
  | 'R' => some { m with random := true }
  | 'r' => some { m with reverse := true }
  | 'V' => some { m with version := true }
  | _ => none

/-- Takes the letters at the front of a text. -/
def takeLetters (front back : Bool) : Manner → List Char → Manner × List Char
  | m, [] => (m, [])
  | m, c :: rest =>
    match add front back m c with
    | some m => takeLetters front back m rest
    | none => (m, c :: rest)

/-- The letters that exclude each other, if there are such among those given. -/
def conflict? (m : Manner) : Option String :=
  let kinds :=
    [m.numeric, m.general, m.human, m.month, m.version || m.random || m.dictionary || m.printable]
  if (kinds.filter id).length ≤ 1 then none
  else
    let letters := [(m.dictionary, 'd'), (m.folds, 'f'), (m.general, 'g'), (m.human, 'h'),
      (m.printable, 'i'), (m.month, 'M'), (m.numeric, 'n'), (m.random, 'R'), (m.version, 'V')]
    some (String.ofList ((letters.filter Prod.fst).map Prod.snd))

end Manner

/-- A key: from a character of a field, both counted from zero, up to a character of another field.
An end without characters takes in its field. -/
structure Key where
  field : Nat
  char : Nat
  last : Option (Nat × Nat)
  manner : Manner
  deriving DecidableEq, Repr

/-- Why a text is no key: a number is missing at the front of the rest, or something else is
wrong. -/
inductive Flaw
  | count (place : String) (rest : String)
  | spec (message : String)
  deriving DecidableEq, Repr

/-- Reads a number at the front of a text. -/
def number (place : String) (cs : List Char) : Except Flaw (Nat × List Char) :=
  let (negative, body) := Binary64.takeSign (cs.dropWhile Arithmetic.isSpace)
  let ds := body.takeWhile Char.isDigit
  if negative || ds.isEmpty then .error (.count place (String.ofList cs))
  else .ok (min (Decimal.value ds) Span.limit, body.drop ds.length)

/-- Reads a place in a line: a field, and a character of it behind a point. -/
def place (what : String) (starts : Bool) (cs : List Char) :
    Except Flaw (Nat × Nat × List Char) := do
  let (field, rest) ← number what cs
  if field = 0 then .error (.spec "field number is zero")
  match rest with
  | '.' :: more => do
    let (char, rest) ← number "invalid number after '.'" more
    if starts ∧ char = 0 then .error (.spec "character offset is zero")
    .ok (field - 1, char, rest)
  | rest => .ok (field - 1, 0, rest)

/-- Reads a key. -/
def key (s : String) : Except Flaw Key := do
  let (field, char, rest) ← place "invalid number at field start" true s.toList
  let (manner, rest) := Manner.takeLetters true false .plain rest
  let stray : Flaw := .spec "stray character in field spec"
  match rest with
  | [] => .ok ⟨field, char - 1, none, manner⟩
  | ',' :: more => do
    let (last, lastChar, rest) ← place "invalid number after ','" false more
    let (manner, rest) := Manner.takeLetters false true manner rest
    if rest.isEmpty then .ok ⟨field, char - 1, some (last, lastChar), manner⟩ else .error stray
  | _ => .error stray

def isBlank (c : Char) : Bool := c == ' ' || c == '\t' || c == '\n'

/-- What is left of a line behind some of its fields; with a separator, behind that as well. -/
def behindFields (separator : Option Char) : Nat → List Char → List Char
  | 0, cs => cs
  | n + 1, cs =>
    if cs.isEmpty then []
    else
      match separator with
      | some d => behindFields separator n ((cs.dropWhile (· != d)).drop 1)
      | none => behindFields separator n ((cs.dropWhile isBlank).dropWhile fun c => !isBlank c)

/-- What follows the end of a key. -/
def behindKey (separator : Option Char) (m : Manner) (field char : Nat) (line : List Char) :
    List Char :=
  let rest := behindFields separator field line
  if char = 0 then
    match separator with
    | some d => rest.dropWhile (· != d)
    | none => (rest.dropWhile isBlank).dropWhile fun c => !isBlank c
  else (if m.skipsBack then rest.dropWhile isBlank else rest).drop char

/-- The text of a key in a line. -/
def textOf (separator : Option Char) (k : Key) (line : List Char) : List Char :=
  let front := behindFields separator k.field line
  let front := (if k.manner.skipsFront then front.dropWhile isBlank else front).drop k.char
  match k.last with
  | none => front
  | some (field, char) =>
    front.take (front.length - (behindKey separator k.manner field char line).length)

/-! What is read in keys -/

/-- A decimal number at the front of a text, as digits and the number of them behind the point. -/
def decimalOf (cs : List Char) : Int × Nat :=
  let cs := cs.dropWhile isBlank
  let (negative, cs) :=
    match cs with
    | '-' :: rest => (true, rest)
    | cs => (false, cs)
  let whole := cs.takeWhile Char.isDigit
  let fraction :=
    match cs.drop whole.length with
    | '.' :: rest => rest.takeWhile Char.isDigit
    | _ => []
  let n := Decimal.value (whole ++ fraction)
  (if negative then -(n : Int) else n, fraction.length)

def compareDecimals (a b : Int × Nat) : Ordering :=
  compare (a.1 * (10 : Int) ^ b.2) (b.1 * (10 : Int) ^ a.2)

/-- The rank of a number by the unit behind it; zero has none. -/
def unitRank (cs : List Char) : Int :=
  let cs := cs.dropWhile isBlank
  let (negative, cs) :=
    match cs with
    | '-' :: rest => (true, rest)
    | cs => (false, cs)
  let whole := cs.takeWhile Char.isDigit
  let rest := cs.drop whole.length
  let fraction :=
    match rest with
    | '.' :: more => more.takeWhile Char.isDigit
    | _ => []
  let behind := if rest.head? = some '.' then rest.drop (1 + fraction.length) else rest
  let isZero := (whole ++ fraction).all (· == '0')
  let letter := if behind.head? = some 'k' then some 'K' else behind.head?
  let rank : Int :=
    ((letter.bind fun c => Quantity.powers.idxOf? c).map fun i => ((i + 1 : Nat) : Int)).getD 0
  if isZero then 0 else if negative then -rank else rank

/-- Compares numbers with a point. What is no number comes first, and then what is called none. -/
def compareFloating (a b : Option Floating) : Ordering :=
  let rank : Option Floating → Nat
    | none => 0
    | some (.nan _) => 1
    | _ => 2
  let size : Floating → Int × Int × Int
    | .infinite negative => (if negative then -1 else 1, 0, 0)
    | .finite negative m e => (0, if negative then -(m : Int) else m, e)
    | .nan _ => (0, 0, 0)
  (compare (rank a) (rank b)).then <|
    match a, b with
    | some x, some y =>
      let (i, m, d) := size x
      let (j, n, e) := size y
      let low := min d e
      (compare i j).then
        (compare (m * (2 : Int) ^ (d - low).toNat) (n * (2 : Int) ^ (e - low).toNat))
    | _, _ => .eq

/-- The number of a month by its name, and zero without one. -/
def monthOf (cs : List Char) : Nat :=
  let name := String.ofList (((cs.dropWhile isBlank).take 3).map Char.toLower)
  ((["jan", "feb", "mar", "apr", "may", "jun", "jul", "aug", "sep", "oct", "nov", "dec"].idxOf?
    name).map (· + 1)).getD 0

def compareChars (a b : List Char) : Ordering :=
  if a < b then .lt else if a = b then .eq else .gt

/-- Compares two keys. -/
def compareKeys (m : Manner) (a b : List Char) : Ordering :=
  let view (cs : List Char) : List Char :=
    let cs :=
      if m.dictionary then cs.filter fun c => isBlank c || c.isAlphanum
      else if m.printable then cs.filter fun c => ' ' ≤ c && c ≤ '~'
      else cs
    if m.folds then cs.map Char.toUpper else cs
  let a := view a
  let b := view b
  let r :=
    if m.numeric then compareDecimals (decimalOf a) (decimalOf b)
    else if m.general then
      let read (cs : List Char) : Option Floating :=
        (Floating.read? .extended cs).map fun r => r.value
      compareFloating (read a) (read b)
    else if m.human then
      (compare (unitRank a) (unitRank b)).then (compareDecimals (decimalOf a) (decimalOf b))
    else if m.month then compare (monthOf a) (monthOf b)
    else if m.version then VersionOrder.compareNames (String.ofList a) (String.ofList b)
    else compareChars a b
  if m.reverse then r.swap else r

/-- How lines are put in order. Lines with equal keys compare as a whole unless only keys count. -/
structure Plan where
  keys : List Key
  separator : Option Char
  reverse : Bool
  onlyKeys : Bool
  unique : Bool

/-- Compares lines by their keys. -/
def Plan.byKeys (p : Plan) (a b : List Char) : Ordering :=
  p.keys.foldl
    (fun acc k =>
      acc.then (compareKeys k.manner (textOf p.separator k a) (textOf p.separator k b)))
    .eq

/-- Compares lines. -/
def Plan.order (p : Plan) (a b : List Char) : Ordering :=
  let whole := if p.reverse then compareChars b a else compareChars a b
  if p.keys.isEmpty then whole
  else if p.onlyKeys || p.unique then p.byKeys a b
  else (p.byKeys a b).then whole

/-- Leaves out lines that equal the one before. -/
def Plan.distinct (p : Plan) (lines : List (List Char)) : List (List Char) :=
  (lines.foldl
    (fun acc l =>
      match acc with
      | last :: _ => if p.order last l = .eq then acc else l :: acc
      | [] => [l])
    []).reverse

/-- Takes the least of the first lines of some files, again and again. -/
def Plan.merge (p : Plan) : Nat → List (List (List Char)) → List (List Char)
  | 0, _ => []
  | fuel + 1, files =>
    let heads := files.zipIdx.filterMap fun (f, i) => f.head?.map fun l => (l, i)
    match heads with
    | [] => []
    | first :: rest =>
      let (line, i) := rest.foldl (fun m h => if p.order h.1 m.1 = .lt then h else m) first
      line :: p.merge fuel (files.modify i List.tail)

/-- Arguments in which a plus sign before digits stands for a key, counted from zero, and a hyphen
before digits behind it for the end of that key. -/
def withOldKeys : List String → List String
  | [] => []
  | "--" :: rest => "--" :: rest
  | [a] =>
    match keyStart? a with
    | none => [a]
    | some front => ["-k", front]
  | a :: b :: rest =>
    match keyStart? a, keyEnd? b with
    | none, _ => a :: withOldKeys (b :: rest)
    | some front, some back => "-k" :: (front ++ "," ++ back) :: withOldKeys rest
    | some front, none => "-k" :: front :: withOldKeys (b :: rest)
where
  /-- The numbers of a place, and the letters behind them. -/
  parts (sign : Char) (s : String) : Option (Nat × Option Nat × String) :=
    match s.toList with
    | c :: d :: more =>
      if c = sign && d.isDigit then
        let ds := (d :: more).takeWhile Char.isDigit
        let rest := (d :: more).drop ds.length
        match rest with
        | '.' :: behind =>
          let es := behind.takeWhile Char.isDigit
          some (Decimal.value ds, some (Decimal.value es), String.ofList (behind.drop es.length))
        | rest => some (Decimal.value ds, none, String.ofList rest)
      else none
    | _ => none
  keyStart? (s : String) : Option String := do
    let (n, c?, letters) ← parts '+' s
    let point := match c? with
      | some c => s!".{c + 1}"
      | none => ""
    some (toString (n + 1) ++ point ++ letters)
  keyEnd? (s : String) : Option String := do
    let (n, c?, letters) ← parts '-' s
    match c?.filter (· != 0) with
    | some c => some (toString (n + 1) ++ s!".{c}" ++ letters)
    | none => if n = 0 then none else some (toString n ++ letters)

/-- The ways to sort that have names. -/
def sorts : List (String × Char) :=
  [("general-numeric", 'g'), ("human-numeric", 'h'), ("month", 'M'), ("numeric", 'n'),
    ("random", 'R'), ("version", 'V')]

/-- The options that give the order of all keys, which others may name. -/
def orderOptions (self : String) (a : Arguments) : Run Manner := do
  let letters ← a.options.mapM fun o => do
    if o.1 == '\x01' then choice self "--sort" o.2 sorts else pure o.1
  pure (letters.foldl (fun m c => (Manner.add true true m c).getD m) .plain)

/-- Ends the program with a complaint. -/
def refuse {α : Type} (self message : String) : Run α := do
  complain self message
  quit 2

/-- The plan that the options describe. -/
def planOf (self : String) (a : Arguments) : Run Plan := do
  let whole ← orderOptions self a
  let keys ← (a.options.filter fun o => o.1 == 'k').mapM fun o => do
    match key o.2 with
    | .ok k => pure k
    | .error (.count place rest) =>
      refuse self s!"{place}: invalid count at start of {← named rest}"
    | .error (.spec message) => refuse self s!"{message}: invalid field specification {← named o.2}"
  let separators ← (a.options.filter fun o => o.1 == 't').mapM fun o => do
    match o.2.toList with
    | [c] => pure c
    | ['\\', '0'] => pure '\x00'
    | [] => refuse self "empty tab"
    | _ => refuse self s!"multi-character tab {← named o.2}"
  if separators.any fun c => some c != separators.head? then refuse self "incompatible tabs"
  let inherited := keys.map fun k =>
    if k.manner.isPlain && !k.manner.reverse then { k with manner := whole } else k
  let keys := if keys.isEmpty && !whole.isPlain then [⟨0, 0, none, whole⟩] else inherited
  match keys.findSome? fun k => k.manner.conflict? with
  | some letters => refuse self s!"options '-{letters}' are incompatible"
  | none => pure ()
  pure ⟨keys, separators.head?, whole.reverse, a.has 's', a.has 'u'⟩

/-- How strictly an order is checked: with a report, or without. -/
def checkOf (self : String) (a : Arguments) : Run (Option Char) := do
  let given ← (a.options.filter fun o => "cC\x02".toList.contains o.1).mapM fun o => do
    if o.1 == '\x02' && o.2 != "" then
      choice self "--check" o.2 [("quiet|silent", 'C'), ("diagnose-first", 'c')]
    else pure (if o.1 == 'C' then 'C' else 'c')
  if given.any fun c => some c != given.head? then refuse self "options '-cC' are incompatible"
  pure given.head?

/-- Checks the values of options that change nothing about the order. -/
def checkMeans (self : String) (a : Arguments) : Run Unit := do
  a.options.forM fun (c, v) => do
    let q := Quantity.read? (if c = 'S' then "bEgGkKmMPQRtTYZ%" else "") 0 Quantity.mostNatural v
    let isRight := q.any fun q => !q.trails
    if c = '\x03' then
      if !isRight then refuse self s!"invalid --parallel argument {← named v}"
      else if q.any fun q => q.value = 0 then refuse self "number in parallel must be nonzero"
    else if c = '\x04' then
      if !isRight then refuse self s!"invalid --batch-size argument {← named v}"
      else if q.any fun q => q.value < 2 then do
        complain self s!"invalid --batch-size argument {← named v}"
        refuse self s!"minimum --batch-size argument is {← named (toString 2)}"
    else if c = 'S' && !isRight && !v.endsWith "%" then refuse self s!"invalid -S argument '{v}'"

/-- The lines of a file. -/
def linesFrom (self : String) (close : Char) (file : String) : Run (List (List Char)) := do
  match ← contents file with
  | .ok cs => pure (linesUpTo close cs)
  | .error .isDirectory =>
    refuse self s!"read failed: {← shellName false file}: {Fault.isDirectory.reason}"
  | .error .badStream => refuse self s!"stat failed: -: {Fault.badStream.reason}"
  | .error fault => refuse self s!"cannot read: {← shellName false file}: {fault.reason}"

end Sorting

open Sorting in
def sort : Body := fun self args => do
  let a ← arguments self
    (.ofText "bcCdfghik:mMno:rRsS:t:T:uVy:z\x01:\x02;\x03:\x04:\x05:\x06:\x07:"
      [("ignore-leading-blanks", 'b'), ("check", '\x02'), ("compress-program", '\x07'),
        ("dictionary-order", 'd'), ("ignore-case", 'f'), ("files0-from", '\x05'),
        ("general-numeric-sort", 'g'), ("ignore-nonprinting", 'i'), ("key", 'k'), ("merge", 'm'),
        ("month-sort", 'M'), ("numeric-sort", 'n'), ("human-numeric-sort", 'h'),
        ("version-sort", 'V'), ("random-sort", 'R'), ("random-source", '\x06'), ("sort", '\x01'),
        ("output", 'o'), ("reverse", 'r'), ("stable", 's'), ("batch-size", '\x04'),
        ("buffer-size", 'S'), ("field-separator", 't'), ("temporary-directory", 'T'),
        ("unique", 'u'), ("zero-terminated", 'z'), ("parallel", '\x03')])
    2 (withOldKeys args)
  checkMeans self a
  let check ← checkOf self a
  let p ← planOf self a
  let outputs := (a.options.filter fun o => o.1 == 'o').map Prod.snd
  if outputs.any fun o => some o != outputs.head? then
    refuse self "multiple output files specified"
  let files ←
    match a.value? '\x05' with
    | none => pure (inputs a)
    | some source => do
      match a.operands with
      | [] => do
        let names ← namesFrom self source
        if names.isEmpty then refuse self s!"no input from {← shellName true source}"
        match names.zipIdx.find? fun n => n.1 = "" with
        | some (_, i) => do
          let name ← shellName false source
          refuse self s!"{name}:{i + 1}: invalid zero-length file name"
        | none => pure names
      | x :: _ => do
        complain self s!"extra operand {← shellName true x}"
        Run.say 2 "file operands cannot be combined with --files0-from\n"
        hint self 2
  let close := if a.has 'z' then '\x00' else '\n'
  match check with
  | some letter => do
    match files with
    | _ :: x :: _ => refuse self s!"extra operand {← shellName true x} not allowed with -{letter}"
    | _ => pure ()
    if !outputs.isEmpty then refuse self s!"options '-{letter}o' are incompatible"
    let file := files.headD "-"
    let lines ← linesFrom self close file
    let wrong := ((lines.zip lines.tail).zipIdx 2).find? fun l =>
      let r := p.order l.1.1 l.1.2
      r == .gt || (p.unique && r == .eq)
    match wrong with
    | none => pure 0
    | some ((_, line), n) => do
      if letter = 'c' then
        Run.say 2 (String.ofList (s!"{self}: {file}:{n}: disorder: ".toList ++ line ++ [close]))
      pure 1
  | none => do
    let texts ← files.mapM (linesFrom self close)
    let ordered :=
      if a.has 'm' then p.merge ((texts.map List.length).sum + 1) texts
      else texts.flatten.mergeSort fun x y => p.order x y != .gt
    let shown := closedBy close (if p.unique then p.distinct ordered else ordered)
    match outputs.head? with
    | none => do
      put self shown
      pure 0
    | some file => do
      match ← writeFile file shown with
      | .ok _ => pure 0
      | .error fault => refuse self s!"open failed: {← shellName false file}: {fault.reason}"

end CredoAssistant.Shell.Program
