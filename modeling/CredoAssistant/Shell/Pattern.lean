import CredoAssistant.Shell.Octets
import CredoAssistant.Text.Letters
import CredoAssistant.Text.Printable

/-!
Shell patterns: a question mark stands for any character, an asterisk for any number of them, and
brackets for one of a set. Quoted characters stand for themselves.
-/
namespace CredoAssistant.Shell

/-- A character of a word, and whether it was quoted. -/
abbrev Marked := Char × Bool

/-- A member of a set of characters: those of a range, those of a class, or all but some. -/
inductive Member
  | range (low high : Char)
  | named (name : String)
  | outside (m : Member)
  deriving DecidableEq, Repr

/-- A part of a pattern. -/
inductive Glob
  | char (c : Char)
  | one
  | many
  | set (inverted : Bool) (members : List Member)
  deriving DecidableEq, Repr

namespace Member

/-- Whether a character is in a class of the standard. Bytes beyond ASCII are in none, and
characters beyond it are only looked at where texts are `wide`. -/
def inClass (wide : Bool) (name : String) (c : Char) : Bool :=
  let n := c.toNat
  let letter := c.isAlpha || (wide && Letters.isLetter c)
  let shown := (' ' ≤ c && c ≤ '~') ||
    (wide && 0xA0 ≤ n && (Text.isPrintable c || n ≤ 0xAD || (0x2000 ≤ n && n < 0x2065)))
  let space := c == ' ' || ('\t' ≤ c && c ≤ '\r')
  let gap := wide && (n == 0x1680 || (0x2000 ≤ n && n ≤ 0x200A && n != 0x2007) || n == 0x205F
    || n == 0x3000)
  if name = "alpha" then letter
  else if name = "digit" then c.isDigit
  else if name = "alnum" then letter || c.isDigit
  else if name = "upper" then c.isUpper || (wide && Letters.isUpper c)
  else if name = "lower" then c.isLower || (wide && Letters.isLower c)
  else if name = "space" then space || gap || (wide && (n == 0x2028 || n == 0x2029))
  else if name = "blank" then c == ' ' || c == '\t' || gap
  else if name = "punct" then shown && c != ' ' && !gap && !letter && !c.isDigit
  else if name = "print" then shown
  else if name = "graph" then shown && c != ' ' && !gap
  else if name = "cntrl" then c < ' ' || c == '\x7f' || (wide && 0x80 ≤ n && n < 0xA0)
  else if name = "xdigit" then
    c.isDigit || ('a' ≤ c && c ≤ 'f') || ('A' ≤ c && c ≤ 'F')
  else false

/-- The names of the classes. -/
def classNames : List String :=
  ["alpha", "digit", "alnum", "upper", "lower", "space", "blank", "punct", "print", "graph",
    "cntrl", "xdigit"]

def holds (wide : Bool) (c : Char) : Member → Bool
  | range low high => low ≤ c && c ≤ high
  | named name => inClass wide name c
  | outside m => !holds wide c m

end Member

namespace Glob

/-- The name of a class after its opening bracket and colon, and what follows it. -/
def className? (cs : List Marked) : Option (String × List Marked) :=
  let name := cs.takeWhile fun m => m.1.isAlpha && !m.2
  match cs.drop name.length with
  | (':', false) :: (']', false) :: rest => some (String.ofList (name.map Prod.fst), rest)
  | _ => none

/-- Reads the members of a set up to its closing bracket, which cannot be the first of them. A class
that nobody knows is none, and in a `wide` pattern nothing is in it. -/
def members (wide : Bool) :
    Nat → Bool → List Member → List Marked → Option (List Member × List Marked)
  | 0, _, _, _ => none
  | _ + 1, _, _, [] => none
  | fuel + 1, first, acc, (c, quoted) :: rest =>
    let members := members wide fuel false
    if c = ']' ∧ !quoted ∧ !first then some (acc.reverse, rest)
    else
      let plain : Option (List Member × List Marked) :=
        match rest with
        | ('-', false) :: (high, highQuoted) :: rest' =>
          if high = ']' ∧ !highQuoted then members (.range c c :: acc) rest
          else members (.range c high :: acc) rest'
        | _ => members (.range c c :: acc) rest
      if c = '[' ∧ !quoted then
        match rest with
        | (':', false) :: named =>
          match className? named with
          | some (name, rest) =>
            if wide || Member.classNames.contains name then members (.named name :: acc) rest
            else plain
          | none => plain
        | (mark, false) :: (e, _) :: (mark', false) :: (']', false) :: rest' =>
          if wide ∧ mark = mark' ∧ (mark = '.' ∨ mark = '=') then members (.range e e :: acc) rest'
          else plain
        | _ => plain
      else plain

/-- Reads a pattern. A bracket that is never closed stands for itself. In a `wide` pattern a caret
inverts a set too. -/
def parse (wide : Bool) : Nat → List Marked → List Glob
  | 0, _ => []
  | _ + 1, [] => []
  | fuel + 1, (c, quoted) :: rest =>
    let parse := parse wide fuel
    if quoted then char c :: parse rest
    else if c = '?' then one :: parse rest
    else if c = '*' then many :: parse rest
    else if c = '[' then
      let inverted := rest.head? == some ('!', false) || (wide && rest.head? == some ('^', false))
      match members wide (rest.length + 1) true [] (if inverted then rest.drop 1 else rest) with
      | some (ms, rest) => set inverted ms :: parse rest
      | none => char c :: parse rest
    else char c :: parse rest

/-- Backslashes that are not quoted quote the characters behind them. -/
def unescape : List Marked → List Marked
  | [] => []
  | ('\\', false) :: (c, _) :: rest => (c, true) :: unescape rest
  | m :: rest => m :: unescape rest

/-- The pattern of a part of a word. -/
def ofMarked (cs : List Marked) : List Glob := parse false (cs.length + 1) (unescape cs)

/-- Whether a pattern can stand for several texts. -/
def isActive (ps : List Glob) : Bool := ps.any fun
  | char _ => false
  | _ => true

/-- A list and what is left of it after each of its members. -/
def suffixes : List Char → List (List Char)
  | [] => [[]]
  | c :: cs => (c :: cs) :: suffixes cs

/-- Whether a pattern stands for a text. -/
def isMatch (wide : Bool) : List Glob → List Char → Bool
  | [], cs => cs.isEmpty
  | char c :: ps, cs =>
    match cs with
    | [] => false
    | d :: rest => c == d && isMatch wide ps rest
  | one :: ps, cs =>
    match cs with
    | [] => false
    | _ :: rest => isMatch wide ps rest
  | set inverted ms :: ps, cs =>
    match cs with
    | [] => false
    | d :: rest => (ms.any (Member.holds wide d)) != inverted && isMatch wide ps rest
  | many :: ps, cs => (suffixes cs).any (isMatch wide ps)

/-- The length of the shortest or longest front of a text that a pattern stands for. A null
character keeps arguments apart, and nothing behind it is looked at. -/
def frontLength? (longest : Bool) (ps : List Glob) (cs : List Char) : Option Nat :=
  let first := (cs.takeWhile (· != '\x00')).length
  let lengths :=
    if longest then (List.range (cs.length + 1)).reverse else List.range (first + 1)
  lengths.find? fun n => isMatch false ps ((cs.take n).takeWhile (· != '\x00'))

/-- How much of a text stands before the shortest or longest end that a pattern stands for. -/
def endStart? (longest : Bool) (ps : List Glob) (cs : List Char) : Option Nat :=
  let first := (cs.takeWhile (· != '\x00')).length
  let lengths :=
    if longest then List.range (first + 1) else (List.range (cs.length + 1)).reverse
  lengths.find? fun n => isMatch false ps ((cs.drop n).takeWhile (· != '\x00'))

/-- Whether a pattern in which backslashes quote fits a name: by its characters, or by its bytes. A
backslash at the end fits nothing. -/
def fits (pattern name : List Char) : Bool :=
  let tried (f : List Char → List Char) : Bool :=
    let marked := unescape ((f pattern).map fun c => (c, false))
    marked.getLast? != some ('\\', false) &&
      isMatch true (parse true (marked.length + 1) marked) (f name)
  tried Octets.toCharacters || tried id

end Glob

end CredoAssistant.Shell
