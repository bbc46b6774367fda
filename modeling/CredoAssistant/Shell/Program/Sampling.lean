import CredoAssistant.Shell.Program.Common

/-!
Lines in an order of chance.
-/
namespace CredoAssistant.Shell.Program

namespace Sampling

/-- The next number of a sequence that seems to have no order. -/
def draw (seed : Nat) : Nat := (seed * 6364136223846793005 + 1442695040888963407) % 2 ^ 64

/-- The members of a list in an order of chance. -/
def shuffled {α : Type} : Nat → Nat → List α → List α
  | 0, _, xs => xs
  | fuel + 1, seed, xs =>
    if xs.isEmpty then []
    else
      let i := seed / 2 ^ 33 % xs.length
      match xs[i]? with
      | some x => x :: shuffled fuel (draw seed) (xs.eraseIdx i)
      | none => xs

/-- Members of a list that are drawn again and again. -/
def drawn {α : Type} (xs : Array α) : Nat → Nat → List α
  | 0, _ => []
  | count + 1, seed =>
    match xs[seed / 2 ^ 33 % xs.size]? with
    | some x => x :: drawn xs count (draw seed)
    | none => []

/-- How many members are drawn when no number is given. -/
def mostDrawn : Nat := 100000

/-- The bounds of a range of numbers. -/
def range? (s : String) : Option (Nat × Nat) := do
  match s.splitOn "-" with
  | [low, high] =>
    let low ← digits? low
    let high ← digits? high
    if low ≤ high + 1 && high < 2 ^ 64 then some (low, high) else none
  | _ => none

/-- The number of lines that an option gives. -/
def lineCount (self s : String) : Run Nat := do
  match digits? s with
  | some n => pure n
  | none => do
    complain self s!"invalid line count: {← named s}"
    quit 1

end Sampling

open Sampling in
def shuf : Body := fun self args => do
  let a ← arguments self
    (.ofText "ei:n:o:rz\x01:"
      [("echo", 'e'), ("input-range", 'i'), ("head-count", 'n'), ("output", 'o'), ("repeat", 'r'),
        ("zero-terminated", 'z'), ("random-source", '\x01')])
    1 args
  let counts ← (a.options.filter fun o => o.1 == 'n').mapM fun o => lineCount self o.2
  let ranges ← (a.options.filter fun o => o.1 == 'i').mapM fun o => do
    match range? o.2 with
    | some r => pure r
    | none => do
      complain self s!"invalid input range: {← named o.2}"
      quit 1
  if 1 < ranges.length then misuse self "multiple -i options specified" 1
  if a.has 'e' && !ranges.isEmpty then misuse self "cannot combine -e and -i options" 1
  let most := if ranges.isEmpty then 1 else 0
  match if a.has 'e' then none else a.operands[most]? with
  | some x => misuse self s!"extra operand {← named x}" 1
  | none => pure ()
  let close : Char := if a.has 'z' then '\x00' else '\n'
  let count := counts.min?
  let lines : List (List Char) ←
    match ranges.head? with
    | some (low, high) =>
      pure ((List.range' low (high + 1 - low)).map fun n => (toString n).toList)
    | none =>
      if a.has 'e' then pure (a.operands.map String.toList)
      else if count = some 0 && !a.has 'r' then pure []
      else do
        let file := a.operands.headD "-"
        match ← contents file with
        | .ok cs => pure (linesUpTo close cs)
        | .error fault => do
          if file = "-" || fault = .isDirectory then complain self s!"read error: {fault.reason}"
          else cannotRead self file fault
          quit 1
  let seed := (← Run.getSystem).counter + 20
  if a.has 'r' && lines.isEmpty && count != some 0 then do
    complain self "no lines to repeat"
    quit 1
  let chosen :=
    if a.has 'r' then drawn lines.toArray (count.getD mostDrawn) (draw (draw seed))
    else
      let all := shuffled lines.length (draw (draw seed)) lines
      (count.map fun n => all.take n).getD all
  let cs := closedBy close chosen
  match a.value? 'o' with
  | some file => do
    match ← writeFile file cs with
    | .ok () => pure ()
    | .error fault => do
      cannotRead self file fault
      quit 1
  | none => do
    put self cs
    if a.has 'r' && count.isNone then Run.forever
  pure 0

end CredoAssistant.Shell.Program
