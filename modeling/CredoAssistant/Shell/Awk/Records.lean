import CredoAssistant.Shell.Awk.Cell
import CredoAssistant.Shell.Awk.Regular

/-!
Records and their fields: what divides a stream into records and a text into fields, and how a text
that stands in for another one is put together.
-/
namespace CredoAssistant.Shell.Awk

/-- A text as something to look for expressions in. -/
def subjectOf (cs : List Char) : Regex.Subject := ⟨cs.toArray, false, false, false⟩

/-- Whether an expression fits anywhere in a text. -/
def fitsIn (r : Regex) (s : String) : Bool := Regex.isIn (subjectOf s.toList) r

/-- Where an expression fits first from an index on, and how long it is there. -/
def firstFit (s : Regex.Subject) (r : Regex) (start : Nat) : Option (Nat × Nat) :=
  (Regex.find? s r start).map fun p => (p.start, p.position - p.start)

/-- The first place from an index on where an expression takes something. -/
def firstPart (s : Regex.Subject) (r : Regex) (start : Nat) : Option (Nat × Nat) :=
  (List.range' start (s.text.size + 1 - start)).findSome? fun i =>
    (Regex.endAt? s r i).bind fun p => if i < p.position then some (i, p.position - i) else none

/-- What stands between the parts of a text: blanks, nothing at all, a character, or what an
expression fits. -/
inductive Separator
  | blanks
  | nothing
  | char (c : Char)
  | regex (r : Regex)
  deriving Repr, Inhabited

namespace Separator

/-- The separator that a text stands for. -/
def ofText (s : String) : Except Regular.Flaw Separator :=
  match s.toList with
  | [' '] => .ok blanks
  | [] => .ok nothing
  | [c] => .ok (char c)
  | _ => (Regular.read s).map regex

/-- The parts of a text between what an expression fits. -/
def between (s : Regex.Subject) (r : Regex) : Nat → Nat → List (List Char)
  | 0, start => [s.between start s.text.size]
  | fuel + 1, start =>
    match firstPart s r start with
    | some (i, n) => s.between start i :: between s r fuel (i + n)
    | none => [s.between start s.text.size]

/-- The parts of a text between characters. -/
def betweenChars (isMark : Char → Bool) (cs : List Char) : List (List Char) :=
  let (done, current) := cs.foldl
    (fun (acc : List (List Char) × List Char) c =>
      if isMark c then (acc.2.reverse :: acc.1, []) else (acc.1, c :: acc.2))
    ([], [])
  (current.reverse :: done).reverse

def isBlank (c : Char) : Bool := Arithmetic.isSpace c

/-- The fields of a text. With `lines` the ends of lines stand between them as well. -/
def fields (sep : Separator) (lines : Bool) (text : String) : List String :=
  let cs := text.toList
  let parts : List (List Char) :=
    if cs.isEmpty then []
    else
      match sep with
      | blanks => (betweenChars isBlank cs).filter fun p => !p.isEmpty
      | nothing => cs.map fun c => [c]
      | char c => betweenChars (fun d => d == c || (lines && d == '\n')) cs
      | regex r =>
        let r := if lines then .either r (.char false '\n') else r
        between (subjectOf cs) r (cs.length + 1) 0
  parts.map String.ofList

end Separator

/-- What ends a record: a character, an empty line or more of them, or what an expression fits. -/
inductive Divider
  | char (c : Char)
  | emptyLines
  | regex (r : Regex)
  deriving Repr, Inhabited

namespace Divider

def ofText (s : String) : Except Regular.Flaw Divider :=
  match s.toList with
  | [] => .ok emptyLines
  | [c] => .ok (char c)
  | _ => (Regular.read s).map regex

/-- Text up to an empty line, and what follows it. -/
def paragraph : List Char → List Char → List Char × List Char
  | acc, '\n' :: '\n' :: rest => (acc.reverse, rest.dropWhile (· == '\n'))
  | acc, ['\n'] => (acc.reverse, [])
  | acc, c :: rest => paragraph (c :: acc) rest
  | acc, [] => (acc.reverse, [])

/-- The first record of a stream and what is left. -/
def take? (d : Divider) (cs : List Char) : Option (List Char × List Char) :=
  match d with
  | char c =>
    if cs.isEmpty then none
    else
      let front := cs.takeWhile (· != c)
      some (front, cs.drop (front.length + 1))
  | emptyLines =>
    let cs := cs.dropWhile (· == '\n')
    if cs.isEmpty then none else some (paragraph [] cs)
  | regex r =>
    if cs.isEmpty then none
    else
      match firstPart (subjectOf cs) r 0 with
      | some (i, n) => some (cs.take i, cs.drop (i + n))
      | none => some (cs, [])

end Divider

/-! Texts that stand in for others -/

/-- A piece of a text that stands in for another: one of its own, or the text that it stands for. -/
inductive Piece
  | own (c : Char)
  | found
  deriving DecidableEq, Repr

namespace Piece

/-- The pieces of a text, in which an ampersand stands for what was found unless a backslash is
before it; two of them before an ampersand stand for one. `slashes` is the number of those right
before. -/
def ofTextBehind (slashes : Nat) : List Char → List Piece
  | '\\' :: rest => ofTextBehind (slashes + 1) rest
  | '&' :: rest =>
    List.replicate (slashes / 2) (own '\\') ++
      (if slashes % 2 = 0 then found else own '&') :: ofTextBehind 0 rest
  | c :: rest => List.replicate slashes (own '\\') ++ own c :: ofTextBehind 0 rest
  | [] => List.replicate slashes (own '\\')

def ofText (cs : List Char) : List Piece := ofTextBehind 0 cs

/-- The text that pieces make in the place of another one. -/
def fill (ps : List Piece) (cs : List Char) : List Char :=
  ps.flatMap fun
    | own c => [c]
    | found => cs

/-- Puts pieces in the place of everything that an expression fits from an index on: the new text,
and how often that was. `behind` says that a fit ends here, behind which there is no empty one. -/
def replaceAll (s : Regex.Subject) (r : Regex) (ps : List Piece) :
    Nat → Nat → Bool → Nat → List Char × Nat
  | 0, start, _, count => (s.between start s.text.size, count)
  | fuel + 1, start, behind, count =>
    match firstFit s r start with
    | none => (s.between start s.text.size, count)
    | some (i, n) =>
      let before := s.between start i
      if n = 0 then
        let isHere := behind && i == start
        let new := if isHere then [] else fill ps []
        let one := s.between i (i + 1)
        let count := if isHere then count else count + 1
        if i < s.text.size then
          let (rest, count) := replaceAll s r ps fuel (i + 1) false count
          (before ++ new ++ one ++ rest, count)
        else (before ++ new, count)
      else
        let (rest, count) := replaceAll s r ps fuel (i + n) true (count + 1)
        (before ++ fill ps (s.between i (i + n)) ++ rest, count)

/-- Puts pieces in the place of what an expression fits, once or everywhere. -/
def replace (everywhere : Bool) (r : Regex) (ps : List Piece) (text : String) : String × Nat :=
  let cs := text.toList
  let s := subjectOf cs
  if everywhere then
    let (new, count) := replaceAll s r ps (cs.length + 2) 0 false 0
    (String.ofList new, count)
  else
    match firstFit s r 0 with
    | none => (text, 0)
    | some (i, n) =>
      (String.ofList (cs.take i ++ fill ps ((cs.drop i).take n) ++ cs.drop (i + n)), 1)

end Piece

end CredoAssistant.Shell.Awk
