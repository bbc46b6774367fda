import CredoAssistant.Shell.Program.Common

/-!
Neighbouring lines that are equal: drawn together, counted, or set apart in groups.
-/
namespace CredoAssistant.Shell.Program

namespace Repetition

/-- Where groups are set apart: before each, behind each, between them, or on both sides. -/
inductive Border
  | none
  | before
  | behind
  | between
  | around
  deriving DecidableEq, Repr

/-- What is shown: which lines of a group and whether with their number; the border between groups
of repeated lines; and that of all groups, if these are shown whole. -/
structure Plan where
  single : Bool
  first : Bool
  later : Bool
  counts : Bool
  border : Border
  grouping : Option Border
  close : Char

/-- Which part of a line counts: what is left out before it, how long it is, and whether case
does. -/
structure View where
  fields : Nat
  bytes : Nat
  length : Option Nat
  folds : Bool

def isGap (c : Char) : Bool := c == ' ' || c == '\t' || c == '\n'

/-- What is left of a line behind some fields. -/
def behind : Nat → List Char → List Char
  | 0, cs => cs
  | n + 1, cs =>
    if cs.isEmpty then [] else behind n ((cs.dropWhile isGap).dropWhile fun c => !isGap c)

/-- The part of a line that counts. -/
def View.of (v : View) (line : List Char) : List Char :=
  let cs := (behind v.fields line).drop v.bytes
  let cs := match v.length with
    | some n => cs.take n
    | none => cs
  if v.folds then cs.map Char.toUpper else cs

/-- The groups of equal neighbours. -/
def groups (v : View) (lines : List (List Char)) : List (List (List Char)) :=
  lines.foldr
    (fun line acc =>
      match acc with
      | (next :: more) :: rest =>
        if v.of line = v.of next then (line :: next :: more) :: rest else [line] :: acc
      | _ => [[line]])
    []

/-- All lines, with the groups set apart. -/
def grouped (p : Plan) (border : Border) (gs : List (List (List Char))) : List Char :=
  let shown := (gs.zipIdx).flatMap fun (g, i) =>
    let isApart := border = .before || border = .around || (0 < i && border != .none)
    (if isApart then [p.close] else []) ++ closedBy p.close g
  let ends := !gs.isEmpty && (border = .behind || border = .around)
  shown ++ if ends then [p.close] else []

/-- The lines of one group that are shown. `used` says that a group of repeated lines was shown. -/
def shownOf (p : Plan) (used : Bool) (g : List (List Char)) : List Char :=
  let count := g.length
  let lead : List Char :=
    if p.counts then
      let ds := Nat.toDigits 10 count
      List.replicate (7 - ds.length) ' ' ++ ds ++ [' ']
    else []
  let apart : List Char :=
    if 1 < count && (p.border = .before || (p.border = .between && used)) then [p.close] else []
  let front := if p.later then g.dropLast else []
  let last := if p.later then g.drop (count - 1) else g.take 1
  let isShown := if count = 1 then p.single else p.first
  apart ++ closedBy p.close front ++ if isShown then closedBy p.close (last.map (lead ++ ·)) else []

/-- The lines of all groups that are shown. -/
def shown (p : Plan) : Bool → List (List (List Char)) → List Char
  | _, [] => []
  | used, g :: rest => shownOf p used g ++ shown p (used || 1 < g.length) rest

/-- A number that an option gives; there is no limit to it. -/
def size (self what s : String) : Run Nat := do
  match (Quantity.read? "" 0 Quantity.mostNatural s).filter fun q => !q.trails with
  | some q => pure q.value.toNat
  | none => do
    complain self s!"{s}: invalid number of {what}"
    quit 1

end Repetition

open Repetition in
def uniq : Body := fun self args => do
  let a ← arguments self
    (.ofText "0123456789Dcdf:is:uw:z\x01;\x02;"
      [("count", 'c'), ("repeated", 'd'), ("all-repeated", '\x01'), ("group", '\x02'),
        ("ignore-case", 'i'), ("unique", 'u'), ("skip-fields", 'f'), ("skip-chars", 's'),
        ("check-chars", 'w'), ("zero-terminated", 'z')])
    1 args
  let border ←
    match a.value? '\x01' with
    | none => pure Border.none
    | some "" => pure Border.none
    | some v =>
      choice self "--all-repeated" v
        [("none", Border.none), ("prepend", .before), ("separate", .between)]
  let grouping ←
    match a.value? '\x02' with
    | none => pure none
    | some "" => pure (some Border.between)
    | some v =>
      some <$> choice self "--group" v
        [("prepend", Border.before), ("append", .behind), ("separate", .between), ("both", .around)]
  let later := a.has 'D' || a.has '\x01'
  let value (option : Char) (what : String) : Run (Option Nat) :=
    (a.value? option).mapM (size self what)
  let fields ← value 'f' "fields to skip"
  let bytes ← value 's' "bytes to skip"
  let length ← value 'w' "bytes to compare"
  let bare := (a.options.map Prod.fst).filter Char.isDigit
  let olds := a.operands.filter fun s =>
    s.startsWith "+" && (digits? (s.drop 1).toString).isSome
  let files := a.operands.filter fun s => !olds.contains s
  let skipped := (olds.getLast?.bind fun s => digits? (s.drop 1).toString).orElse fun _ => bytes
  match files[2]? with
  | some x => misuse self s!"extra operand {← named x}" 1
  | none => pure ()
  if grouping.isSome && (later || a.options.any fun o => "cdu".toList.contains o.1) then
    misuse self "--group is mutually exclusive with -c/-d/-D/-u" 1
  if a.has 'c' && later then
    misuse self "printing all duplicated lines and repeat counts is meaningless" 1
  let v : View :=
    ⟨if bare.isEmpty then fields.getD 0 else Decimal.value bare, skipped.getD 0, length, a.has 'i'⟩
  let p : Plan :=
    { single := !(a.has 'd' || later), first := !a.has 'u', later, counts := a.has 'c', border
      grouping, close := if a.has 'z' then '\x00' else '\n' }
  let file := files.headD "-"
  let source ← contents file
  match source, files[1]? with
  | .error .isDirectory, _ => pure ()
  | .error .badStream, _ => pure ()
  | .error fault, _ => do
    cannotRead self file fault
    quit 1
  | _, _ => pure ()
  let target ←
    match files[1]? with
    | none => pure none
    | some "-" => pure none
    | some target => do
      match ← openForProgram .write target with
      | .ok id => pure (some id)
      | .error fault => do
        cannotRead self target fault
        quit 1
  match source with
  | .error fault => do
    complain self s!"error reading {← shellName true file}: {fault.reason}"
    pure 1
  | .ok cs => do
    let gs := groups v (linesUpTo p.close cs)
    let text :=
      match p.grouping with
      | some border => grouped p border gs
      | none => shown p false gs
    match target with
    | none => put self text
    | some id => discard (writeTo id text)
    pure 0

end CredoAssistant.Shell.Program
