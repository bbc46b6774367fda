import CredoAssistant.Shell.Program.Common
import CredoAssistant.Shell.Regex.Notation

/-!
Numbered lines, on pages whose headers, bodies and footers have numbers of their own.
-/
namespace CredoAssistant.Shell.Program

namespace Numbering

/-- The lines of a part of a page that get numbers. -/
inductive Style
  | all
  | filled
  | none
  | fitting (pattern : Regex)

/-- How a number is set: at the left, at the right, or behind zeros. -/
inductive Alignment
  | left
  | right
  | zeros
  deriving DecidableEq, Repr

/-- How lines are numbered. `mark` is written once, twice or three times to begin a footer, a body
or a header, and of so many empty lines in a row only the last one counts. -/
structure Plan where
  header : Style
  body : Style
  footer : Style
  start : Int
  step : Int
  restarts : Bool
  blanks : Nat
  separator : List Char
  width : Nat
  alignment : Alignment
  mark : List Char

/-- Where numbering has come to: the style at work, the next number, and the empty lines in a
row. -/
structure Progress where
  style : Style
  number : Int
  blanks : Nat

/-- A number set to a width. -/
def numeral (p : Plan) (n : Int) : List Char :=
  let ds := Nat.toDigits 10 n.natAbs
  let sign := if n < 0 then ['-'] else []
  let fill (c : Char) : List Char := List.replicate (p.width - ds.length - sign.length) c
  match p.alignment with
  | .left => sign ++ ds ++ fill ' '
  | .right => fill ' ' ++ sign ++ ds
  | .zeros => sign ++ fill '0' ++ ds

/-- The part of a page that a line begins. -/
def sectionOf (p : Plan) (line : List Char) : Option Style :=
  if p.mark.length < 2 || line.length < 2 then none
  else if line = p.mark ++ p.mark ++ p.mark then some p.header
  else if line = p.mark ++ p.mark then some p.body
  else if line = p.mark then some p.footer
  else none

/-- Whether a line gets a number, and how many empty lines in a row there are then. -/
def counts (p : Plan) (utf8 : Bool) (s : Progress) (line : List Char) : Bool × Nat :=
  match s.style with
  | .all =>
    if p.blanks ≤ 1 then (true, s.blanks)
    else if !line.isEmpty || s.blanks + 1 = p.blanks then (true, 0)
    else (false, s.blanks + 1)
  | .filled => (!line.isEmpty, s.blanks)
  | .none => (false, s.blanks)
  | .fitting r =>
    (Regex.isIn ⟨(charactersIn utf8 line).toArray, utf8, false, false⟩ r, s.blanks)

/-- Numbers lines. -/
def numbered (p : Plan) (utf8 : Bool) : List (List Char) → Progress → List (List Char) × Progress
  | [], s => ([], s)
  | line :: rest, s =>
    match sectionOf p line with
    | some style =>
      let number := if p.restarts then p.start else s.number
      let (more, s) := numbered p utf8 rest { s with style, number }
      ([] :: more, s)
    | none =>
      let (isCounted, blanks) := counts p utf8 s line
      let lead :=
        if isCounted then numeral p s.number ++ p.separator
        else List.replicate (p.width + p.separator.length) ' '
      let number := if isCounted then s.number + p.step else s.number
      let (more, s) := numbered p utf8 rest { s with number, blanks }
      ((lead ++ line) :: more, s)

/-- Reads a style; there is none for a letter that is not known. -/
def styleOf? (self : String) (utf8 : Bool) (s : String) : Run (Option Style) := do
  match s.toList with
  | 'a' :: _ => pure (some .all)
  | 't' :: _ => pure (some .filled)
  | 'n' :: _ => pure (some .none)
  | 'p' :: pattern =>
    match Regex.read .comparing false utf8 (charactersIn utf8 pattern) with
    | .ok (r, _) => pure (some (.fitting r))
    | .error flaw => do
      complain self flaw.reason
      quit 1
  | _ => pure none

end Numbering

open CredoAssistant.Shell.Program.Numbering

def nl : Body := fun self args => do
  let a ← arguments self
    (.ofText "h:b:f:v:i:pl:s:w:n:d:"
      [("header-numbering", 'h'), ("body-numbering", 'b'), ("footer-numbering", 'f'),
        ("starting-line-number", 'v'), ("line-increment", 'i'), ("no-renumber", 'p'),
        ("join-blank-lines", 'l'), ("number-separator", 's'), ("number-width", 'w'),
        ("number-format", 'n'), ("section-delimiter", 'd')])
    1 args
  let utf8 ← usesUtf8
  let most := Quantity.mostInteger
  let start : Plan :=
    { header := .none, body := .filled, footer := .none, start := 1, step := 1
      restarts := !a.has 'p', blanks := 1, separator := ['\t'], width := 6, alignment := .right
      mark := ['\\', ':'] }
  let (plan, wrong) ← a.options.foldlM
    (fun (p, wrong) (option, v) => do
      let styled (part : String) (f : Style → Plan) : Run (Plan × Bool) := do
        match ← styleOf? self utf8 v with
        | some style => pure (f style, wrong)
        | none => do
          complain self s!"invalid {part} numbering style: {← named v}"
          pure (p, true)
      match option with
      | 'h' => styled "header" fun style => { p with header := style }
      | 'b' => styled "body" fun style => { p with body := style }
      | 'f' => styled "footer" fun style => { p with footer := style }
      | 'v' => do
        let n ← integer self "invalid starting line number" "" (-most - 1) most v
        pure ({ p with start := n }, wrong)
      | 'i' => do
        let n ← integer self "invalid line number increment" "" (-most - 1) most v
        pure ({ p with step := n }, wrong)
      | 'l' => do
        let n ← integer self "invalid line number of blank lines" "" 1 most v
        pure ({ p with blanks := n.toNat }, wrong)
      | 's' => pure ({ p with separator := v.toList }, wrong)
      | 'w' => do
        let n ← integer self "invalid line number field width" "" 1 (2 ^ 31 - 1) v
        pure ({ p with width := n.toNat }, wrong)
      | 'n' =>
        match v with
        | "ln" => pure ({ p with alignment := .left }, wrong)
        | "rn" => pure ({ p with alignment := .right }, wrong)
        | "rz" => pure ({ p with alignment := .zeros }, wrong)
        | _ => do
          complain self s!"invalid line numbering format: {← named v}"
          pure (p, true)
      | 'd' =>
        match v.toList with
        | [c] => pure ({ p with mark := c :: p.mark.drop 1 }, wrong)
        | mark => pure ({ p with mark }, wrong)
      | _ => pure (p, wrong))
    (start, false)
  if wrong then hint self 1
  let (_, failed) ← (inputs a).foldlM
    (fun (s, failed) file => do
      match ← contents file with
      | .error fault => do
        cannotRead self file fault
        pure (s, true)
      | .ok cs => do
        let (lines, s) := numbered plan utf8 (linesOf cs).1 s
        put self (unlines lines)
        pure (s, failed))
    (Progress.mk plan.body plan.start 0, false)
  let unclosed ← closeInput self (inputs a)
  pure (statusOf (failed || unclosed))

end CredoAssistant.Shell.Program
