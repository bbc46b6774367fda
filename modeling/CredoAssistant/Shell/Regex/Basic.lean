import CredoAssistant.Shell.Pattern

/-!
Regular expressions and the places in a text where they fit.

The ways in which an expression fits are listed in the order of preference: the first branch of a
choice before the others, and more rounds of a repetition before fewer, unless it is a lazy one. An
expression of the standard then fits by the longest of them, and by the first among those of one
length.
-/
namespace CredoAssistant.Shell

/-- What an expression can ask of a place between two characters. -/
inductive Edge
  | lineStart
  | lineEnd
  | textStart
  | textEnd
  | lastLineEnd
  | wordStart
  | wordEnd
  | word
  | noWord
  deriving DecidableEq, Repr

/-- A regular expression. Characters and sets may fit regardless of case, and then stand for great
letters. A group is known by its number afterwards. -/
inductive Regex
  | empty
  | char (folds : Bool) (c : Char)
  | any (newline : Bool)
  | set (folds inverted : Bool) (members : List Member)
  | concat (first second : Regex)
  | either (first second : Regex)
  | repeated (r : Regex) (low : Nat) (high : Option Nat) (isLazy : Bool)
  | group (number : Nat) (r : Regex)
  | same (folds : Bool) (number : Nat)
  | edge (e : Edge)
  | look (behind negated : Bool) (r : Regex)
  | atomic (r : Regex)
  | keep
  deriving Repr, Inhabited

namespace Regex

/-- A text in which an expression is looked for. In a `wide` one characters beyond ASCII can be
letters, in a `multiline` one lines have edges of their own, and in an `ordered` search the first
way in which an expression fits counts rather than the longest. -/
structure Subject where
  text : Array Char
  wide : Bool
  multiline : Bool
  ordered : Bool

/-- A place in a text, where the fit that ends there starts, and the groups on the way to it. -/
structure Place where
  position : Nat
  start : Nat
  groups : List (Nat × Nat × Nat)
  deriving DecidableEq, Repr

/-- Whether later parts of an expression depend on what its groups hold. -/
def refersBack : Regex → Bool
  | same _ _ => true
  | keep => true
  | concat r r' => r.refersBack || r'.refersBack
  | either r r' => r.refersBack || r'.refersBack
  | repeated r _ _ _ => r.refersBack
  | group _ r => r.refersBack
  | look _ _ r => r.refersBack
  | atomic r => r.refersBack
  | _ => false

namespace Subject

def isWordChar (s : Subject) (c : Char) : Bool := c == '_' || Member.inClass s.wide "alnum" c

/-- Whether the character at an index belongs to a word. -/
def wordAt (s : Subject) (i : Nat) : Bool := (s.text[i]?).any s.isWordChar

def wordBefore (s : Subject) (i : Nat) : Bool := 0 < i && s.wordAt (i - 1)

/-- Whether a place is at an edge. -/
def isAt (s : Subject) (i : Nat) : Edge → Bool
  | .textStart => i == 0
  | .textEnd => i == s.text.size
  | .lastLineEnd => i == s.text.size || (i + 1 == s.text.size && s.text[i]? == some '\n')
  | .lineStart => i == 0 || (s.multiline && s.text[i - 1]? == some '\n')
  | .lineEnd => i == s.text.size || (s.multiline && s.text[i]? == some '\n')
  | .wordStart => !s.wordBefore i && s.wordAt i
  | .wordEnd => s.wordBefore i && !s.wordAt i
  | .word => s.wordBefore i != s.wordAt i
  | .noWord => s.wordBefore i == s.wordAt i

/-- The case in which characters are compared. -/
def folded (s : Subject) (folds : Bool) (c : Char) : Char :=
  if !folds then c else if s.wide then Letters.toUpper c else c.toUpper

/-- Places without those that lead nowhere else than an earlier one of them. With `exact` what the
groups hold counts too. -/
def distinct (s : Subject) (exact : Bool) (ps : List Place) : List Place :=
  match ps with
  | [] => []
  | [p] => [p]
  | _ =>
    if exact then ps.eraseDups
    else
      let step (acc : List Place × Array Bool) (p : Place) : List Place × Array Bool :=
        if acc.2.getD p.position false then acc
        else (p :: acc.1, acc.2.setIfInBounds p.position true)
      (ps.foldl step ([], Array.replicate (s.text.size + 1) false)).1.reverse

end Subject

/-- Which single characters an expression stands for, if it stands for nothing else. -/
def single? (s : Subject) : Regex → Option (Char → Bool)
  | char folds c => some fun d => s.folded folds d == s.folded folds c
  | any newline => some fun d => d.toNat < Octets.firstApart && (newline || d != '\n')
  | set folds inverted ms => some fun d =>
    let isIn (c : Char) : Bool := ms.any (Member.holds s.wide c)
    let found := isIn d || (folds && (isIn (Letters.toUpper d) || isIn (Letters.toLower d)))
    d.toNat < Octets.firstApart && found != inverted
  | _ => none

/-- How many characters from an index on are of one kind, up to a bound. -/
def runLength (s : Subject) (holds : Char → Bool) (i : Nat) : Nat → Nat
  | 0 => 0
  | bound + 1 =>
    if (s.text[i]?).any holds then runLength s holds (i + 1) bound + 1 else 0

/-- The places behind rounds of a repetition, from a place on, that were not found before: a
depth-first walk that keeps the numbers of rounds and places it has been to. A round that takes
nothing can be repeated up to the least number of them. -/
def rounds (exact : Bool) (step : Place → List Place) (low : Nat) (high : Option Nat)
    (isLazy : Bool) :
    Nat → Nat → Place → List (Nat × Place) × List Place → List (Nat × Place) × List Place
  | 0, _, _, acc => acc
  | fuel + 1, count, p, (seen, found) =>
    let key := if high.isSome then count else min count low
    let isSeen := seen.any fun e => e.1 == key && e.2.position == p.position && (!exact || e.2 == p)
    if isSeen then (seen, found)
    else
      let seen := (key, p) :: seen
      let enough := low ≤ count
      let more := if high.any (· ≤ count) then [] else step p
      let go (acc : List (Nat × Place) × List Place) : List (Nat × Place) × List Place :=
        more.foldl
          (fun acc q =>
            if q.position != p.position then
              rounds exact step low high isLazy fuel (count + 1) q acc
            else if enough then acc
            else rounds exact step low high isLazy fuel low q acc)
          acc
      if isLazy then go (seen, if enough then p :: found else found)
      else
        let (seen, found) := go (seen, found)
        (seen, if enough then p :: found else found)

/-- The indices in front of a place from which a look behind can start. -/
def startsBehind (p : Place) : List Nat := (List.range (p.position + 1)).reverse

/-- The places behind an expression from a place on, in the order of preference. -/
def ends (s : Subject) (exact : Bool) : Regex → Place → List Place
  | empty, p => [p]
  | keep, p => [{ p with start := p.position }]
  | edge e, p => if s.isAt p.position e then [p] else []
  | concat r r', p =>
    s.distinct exact ((ends s exact r p).flatMap (ends s exact r'))
  | either r r', p => s.distinct exact (ends s exact r p ++ ends s exact r' p)
  | group n r, p =>
    (ends s exact r p).map fun q =>
      { q with groups := (n, p.position, q.position) :: q.groups.filter fun g => g.1 != n }
  | same folds n, p =>
    match p.groups.find? fun g => g.1 == n with
    | none => []
    | some (_, i, j) =>
      let length := j - i
      let held := (s.text.extract i j).map (s.folded folds)
      let here := (s.text.extract p.position (p.position + length)).map (s.folded folds)
      if held == here then [{ p with position := p.position + length }] else []
  | look behind negated r, p =>
    let found :=
      if behind then
        (startsBehind p).filterMap fun i =>
          (ends s exact r { p with position := i }).find? fun q => q.position == p.position
      else ends s exact r p
    match found.head?, negated with
    | none, true => [p]
    | some q, false => [{ q with position := p.position }]
    | _, _ => []
  | atomic r, p => (ends s exact r p).take 1
  | repeated r low high isLazy, p =>
    match r.single? s with
    | some holds =>
      let left := s.text.size - p.position
      let n := runLength s holds p.position ((high.map (min left)).getD left)
      let steps := (List.range (n + 1 - low)).map fun k =>
        { p with position := p.position + low + k }
      if n < low then [] else if isLazy then steps else steps.reverse
    | none =>
      let fuel := low + (s.text.size - p.position) + 2
      (rounds exact (ends s exact r) low high isLazy fuel 0 p ([], [])).2.reverse
  | r, p =>
    match r.single? s with
    | some holds =>
      if (s.text[p.position]?).any holds then [{ p with position := p.position + 1 }] else []
    | none => []

/-- The places behind an expression that starts at an index, the best first. -/
def endsAt (s : Subject) (r : Regex) (i : Nat) : List Place :=
  let found := ends s r.refersBack r ⟨i, i, []⟩
  if s.ordered then found else found.mergeSort fun p q => q.position ≤ p.position

/-- The best place behind an expression that starts at an index. -/
def endAt? (s : Subject) (r : Regex) (i : Nat) : Option Place :=
  let found := ends s r.refersBack r ⟨i, i, []⟩
  if s.ordered then found.head?
  else
    found.foldl
      (fun best p =>
        match best with
        | none => some p
        | some b => if b.position < p.position then some p else best)
      none

/-- The leftmost place where an expression fits, from an index on. -/
def find? (s : Subject) (r : Regex) (first : Nat) : Option Place :=
  (List.range' first (s.text.size + 1 - first)).findSome? fun i => endAt? s r i

/-- Whether an expression fits anywhere. -/
def isIn (s : Subject) (r : Regex) : Bool := (find? s r 0).isSome

/-- Whether an expression fits the whole text. -/
def isWhole (s : Subject) (r : Regex) : Bool :=
  (ends s r.refersBack r ⟨0, 0, []⟩).any fun p => p.position == s.text.size

/-- The characters between two indices. -/
def Subject.between (s : Subject) (i j : Nat) : List Char := (s.text.extract i j).toList

/-- The indices between which a group lies. -/
def Place.group? (p : Place) (number : Nat) : Option (Nat × Nat) :=
  (p.groups.find? fun g => g.1 == number).map Prod.snd

/-- What a group holds: nothing if it was not passed. -/
def Place.held (p : Place) (s : Subject) (number : Nat) : List Char :=
  match p.group? number with
  | some (i, j) => s.between i j
  | none => []

/-- An expression that stands for itself. -/
def ofText (folds : Bool) (cs : List Char) : Regex :=
  cs.foldl (fun r c => .concat r (.char folds c)) .empty

end Regex

end CredoAssistant.Shell
