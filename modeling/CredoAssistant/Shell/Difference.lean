import CredoAssistant.Number.Instances
import Std.Data.HashMap

/-!
The differences between two sequences: which members of each stand in no common subsequence. A
middle of the shortest way from one to the other is looked for from both ends, and runs of changed
members are moved together afterwards where equal members allow it.
-/
namespace CredoAssistant.Shell.Difference

/-- The furthest places on diagonals. -/
abbrev Reach := Std.HashMap Int Int

/-- What is known of a search: its step, the range of its diagonals, and how far it came on each. -/
structure Search where
  low : Int
  high : Int
  reach : Reach

/-- Two sequences between bounds. -/
structure Span where
  left : Int
  leftEnd : Int
  right : Int
  rightEnd : Int

variable (same : Int → Int → Bool)

/-- How far two sequences agree from a place on. -/
def slideDown (s : Span) : Nat → Int → Int → Int × Int
  | 0, x, y => (x, y)
  | fuel + 1, x, y =>
    if x < s.leftEnd && y < s.rightEnd && same x y then slideDown s fuel (x + 1) (y + 1) else (x, y)

/-- How far two sequences agree up to a place. -/
def slideUp (s : Span) : Nat → Int → Int → Int × Int
  | 0, x, y => (x, y)
  | fuel + 1, x, y =>
    if s.left < x && s.right < y && same (x - 1) (y - 1) then slideUp s fuel (x - 1) (y - 1)
    else (x, y)

/-- A value that no place has. -/
def never : Int := 2 ^ 40

/-- Widens the range of diagonals by one on each side, as long as that is inside the bounds. -/
def widen (s : Span) (out : Int) (f : Search) : Search :=
  let least := s.left - s.rightEnd
  let most := s.leftEnd - s.right
  let f :=
    if least < f.low then { f with low := f.low - 1, reach := f.reach.insert (f.low - 2) out }
    else { f with low := f.low + 1 }
  if f.high < most then { f with high := f.high + 1, reach := f.reach.insert (f.high + 2) out }
  else { f with high := f.high - 1 }

/-- Goes on from the front on each diagonal; a place where both searches meet ends it. -/
def forward (s : Span) (odd : Bool) (back : Search) (fuel : Nat) :
    Nat → Int → Search → Search × Option (Int × Int)
  | 0, _, f => (f, none)
  | steps + 1, d, f =>
    if d < f.low then (f, none)
    else
      let low := f.reach.getD (d - 1) (-1)
      let high := f.reach.getD (d + 1) (-1)
      let start := if low < high then high else low + 1
      let (x, y) := slideDown same s fuel start (start - d)
      let f := { f with reach := f.reach.insert d x }
      if odd && back.low ≤ d && d ≤ back.high && back.reach.getD d never ≤ x then (f, some (x, y))
      else forward s odd back fuel steps (d - 2) f

/-- Goes on from the end on each diagonal; a place where both searches meet ends it. -/
def backward (s : Span) (odd : Bool) (front : Search) (fuel : Nat) :
    Nat → Int → Search → Search × Option (Int × Int)
  | 0, _, b => (b, none)
  | steps + 1, d, b =>
    if d < b.low then (b, none)
    else
      let low := b.reach.getD (d - 1) never
      let high := b.reach.getD (d + 1) never
      let start := if low < high then low else high - 1
      let (x, y) := slideUp same s fuel start (start - d)
      let b := { b with reach := b.reach.insert d x }
      if !odd && front.low ≤ d && d ≤ front.high && x ≤ front.reach.getD d (-1) then
        (b, some (x, y))
      else backward s odd front fuel steps (d - 2) b

/-- A place in the middle of a shortest way. -/
def middle (s : Span) (fuel : Nat) : Nat → Search → Search → Int × Int
  | 0, _, _ => (s.leftEnd, s.rightEnd)
  | steps + 1, front, back =>
    let odd := ((s.left - s.right) - (s.leftEnd - s.rightEnd)) % 2 ≠ 0
    let front := widen s (-1) front
    match forward same s odd back fuel fuel front.high front with
    | (_, some spot) => spot
    | (front, none) =>
      let back := widen s never back
      match backward same s odd front fuel fuel back.high back with
      | (_, some spot) => spot
      | (back, none) => middle s fuel steps front back

/-- The members on each side that are in no common subsequence. -/
def changes : Nat → Span → List Int × List Int
  | 0, _ => ([], [])
  | fuel + 1, s =>
    let size := (s.leftEnd - s.left + (s.rightEnd - s.right)).toNat + 2
    let (x, y) := slideDown same s size s.left s.right
    let s := { s with left := x, right := y }
    let (x, y) := slideUp same s size s.leftEnd s.rightEnd
    let s := { s with leftEnd := x, rightEnd := y }
    let range (low high : Int) : List Int :=
      (List.range (high - low).toNat).map fun (i : Nat) => low + (i : Int)
    if s.left = s.leftEnd then ([], range s.right s.rightEnd)
    else if s.right = s.rightEnd then (range s.left s.leftEnd, [])
    else
      let front : Search :=
        ⟨s.left - s.right, s.left - s.right, ({} : Reach).insert (s.left - s.right) s.left⟩
      let last := s.leftEnd - s.rightEnd
      let back : Search := ⟨last, last, ({} : Reach).insert last s.leftEnd⟩
      let (x, y) := middle same s size size front back
      let a := changes fuel { s with leftEnd := x, rightEnd := y }
      let b := changes fuel { s with left := x, right := y }
      (a.1 ++ b.1, a.2 ++ b.2)

/-! Moving runs of changes -/

/-- Which members of both sides are changed, as seen from one of them: a run of changes from `start`
up to `i`, and the place `j` on the other side. -/
structure Marks where
  own : Array Bool
  other : Array Bool
  start : Nat
  i : Nat
  j : Int
  meeting : Nat

/-- Whether a member is marked. -/
def isMarked (marks : Array Bool) (i : Int) : Bool :=
  if i < 0 then false else marks.getD i.toNat false

/-- Goes on behind marked members. -/
def passMarked (marks : Array Bool) : Nat → Int → Int
  | 0, j => j
  | fuel + 1, j => if isMarked marks j then passMarked marks fuel (j + 1) else j

/-- Goes back in front of marked members. -/
def passMarkedBack (marks : Array Bool) : Nat → Int → Int
  | 0, j => j
  | fuel + 1, j => if isMarked marks j then passMarkedBack marks fuel (j - 1) else j

/-- Moves a run back as long as the member before it equals its last one. -/
def moveBack (equal : Nat → Nat → Bool) : Nat → Marks → Marks
  | 0, m => m
  | fuel + 1, m =>
    if 0 < m.start && equal (m.start - 1) (m.i - 1) then
      let start := m.start - 1
      let i := m.i - 1
      let own := (m.own.setIfInBounds start true).setIfInBounds i false
      let start := (passMarkedBack own start (start - 1 : Int) + 1).toNat
      let j := passMarkedBack m.other (m.other.size + 1) (m.j - 1)
      moveBack equal fuel { m with own, start, i, j }
    else m

/-- Moves a run on as long as the member behind it equals its first one. -/
def moveOn (equal : Nat → Nat → Bool) : Nat → Marks → Marks
  | 0, m => m
  | fuel + 1, m =>
    if m.i < m.own.size && equal m.start m.i then
      let own := (m.own.setIfInBounds m.start false).setIfInBounds m.i true
      let i := (passMarked own own.size (m.i + 1 : Nat)).toNat
      let j := m.j + 1
      let passed := passMarked m.other (m.other.size + 1) j
      moveOn equal fuel
        { m with own, start := m.start + 1, i, j := passed
                 meeting := if passed = j then m.meeting else i }
    else m

/-- Moves a run to and fro until it grows no more. -/
def settle (equal : Nat → Nat → Bool) : Nat → Marks → Marks
  | 0, m => m
  | fuel + 1, m =>
    let length := m.i - m.start
    let size := m.own.size + 1
    let m := moveBack equal size m
    let m := { m with meeting := if isMarked m.other (m.j - 1) then m.i else m.own.size }
    let m := moveOn equal size m
    if m.i - m.start = length then m else settle equal fuel m

/-- Moves a run back to where the other side has one too. -/
def meet : Nat → Marks → Marks
  | 0, m => m
  | fuel + 1, m =>
    if m.meeting < m.i then
      let start := m.start - 1
      let i := m.i - 1
      let own := (m.own.setIfInBounds start true).setIfInBounds i false
      let j := passMarkedBack m.other (m.other.size + 1) (m.j - 1)
      meet fuel { m with own, start, i, j }
    else m

/-- Goes over unmarked members, and as many on the other side. -/
def passPlain : Nat → Marks → Marks
  | 0, m => m
  | fuel + 1, m =>
    if m.i < m.own.size && !isMarked m.own m.i then
      passPlain fuel { m with i := m.i + 1, j := passMarked m.other (m.other.size + 1) m.j + 1 }
    else m

/-- Moves all runs of one side together. -/
def shift (equal : Nat → Nat → Bool) : Nat → Marks → Marks
  | 0, m => m
  | fuel + 1, m =>
    let size := m.own.size + 1
    let m := passPlain size m
    if m.own.size ≤ m.i then m
    else
      let start := m.i
      let i := (passMarked m.own size (m.i + 1 : Nat)).toNat
      let j := passMarked m.other (m.other.size + 1) m.j
      shift equal fuel (meet size (settle equal size { m with start, i, j }))

/-- Which members of two lists are in no common subsequence. What both begin and end with is left
out of the search, except for `horizon` members. -/
def ofLists {α : Type} [Inhabited α] [BEq α] (horizon : Nat) (xs ys : List α) :
    Array Bool × Array Bool :=
  let agree (xs ys : List α) : Nat := ((xs.zip ys).takeWhile fun p => p.1 == p.2).length
  let all := agree xs ys
  let ends := agree (xs.drop all).reverse (ys.drop all).reverse
  let same := all - horizon
  let tail := ends - horizon
  let left := ((xs.take (xs.length - tail)).drop same).toArray
  let right := ((ys.take (ys.length - tail)).drop same).toArray
  -- Members that the other side has nowhere are changed in any case.
  let kept (own other : Array α) : Array Nat :=
    (Array.range own.size).filter fun i => other.contains own[i]!
  let leftKept := kept left right
  let rightKept := kept right left
  let equal (i j : Int) : Bool := left[leftKept[i.toNat]!]! == right[rightKept[j.toNat]!]!
  let (leftChanged, rightChanged) :=
    changes equal (left.size + right.size + 2) ⟨0, leftKept.size, 0, rightKept.size⟩
  let marks (own : Array α) (kept : Array Nat) (changed : List Int) : Array Bool :=
    let all := Array.replicate own.size true
    let some := kept.foldl (fun m i => m.setIfInBounds i false) all
    changed.foldl (fun m i => m.setIfInBounds kept[i.toNat]! true) some
  let leftMarks := marks left leftKept leftChanged
  let rightMarks := marks right rightKept rightChanged
  let fuel := left.size + right.size + 2
  let first := shift (fun i j => left[i]! == left[j]!) fuel ⟨leftMarks, rightMarks, 0, 0, 0, 0⟩
  let second := shift (fun i j => right[i]! == right[j]!) fuel ⟨rightMarks, first.own, 0, 0, 0, 0⟩
  let front := Array.replicate same false
  let back := Array.replicate tail false
  (front ++ first.own ++ back, front ++ second.own ++ back)

/-- A run of changes: which members on the left, counted from zero, are replaced by which on the
right. -/
structure Hunk where
  left : Nat
  leftCount : Nat
  right : Nat
  rightCount : Nat
  deriving DecidableEq, Repr, Inhabited

/-- The runs of changes between two lists that are marked. -/
def hunks (left right : Array Bool) : Nat → Nat → Nat → List Hunk
  | 0, _, _ => []
  | fuel + 1, i, j =>
    if left.size ≤ i && right.size ≤ j then []
    else if isMarked left i || isMarked right j then
      let a := (passMarked left left.size i).toNat
      let b := (passMarked right right.size j).toNat
      ⟨i, a - i, j, b - j⟩ :: hunks left right fuel a b
    else hunks left right fuel (i + 1) (j + 1)

/-- The runs of changes that lead from one list to another. -/
def between {α : Type} [Inhabited α] [BEq α] (horizon : Nat) (xs ys : List α) : List Hunk :=
  let (left, right) := ofLists horizon xs ys
  hunks left right (left.size + right.size + 2) 0 0

end CredoAssistant.Shell.Difference
