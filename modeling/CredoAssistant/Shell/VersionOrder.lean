import CredoAssistant.Number.Decimal

/-!
The order of names with numbers in them: numbers count by their value, a tilde stands before
everything, and endings that mark a kind of file count last.
-/
namespace CredoAssistant.Shell.VersionOrder

/-- The place of a character among those that are no digits: a tilde, the end, letters, others. -/
def rank : List Char → Int
  | [] => -1
  | c :: _ =>
    if c.isDigit then 0
    else if c.isAlpha then c.toNat
    else if c = '~' then -2
    else c.toNat + 256

/-- Compares texts as alternating runs of other characters and of digits. -/
def compareRuns : Nat → List Char → List Char → Ordering
  | 0, _, _ => .eq
  | fuel + 1, a, b =>
    if a.isEmpty && b.isEmpty then .eq
    else
      let isText (cs : List Char) : Bool := (cs.head?).any fun c => !c.isDigit
      if isText a || isText b then
        match compare (rank a) (rank b) with
        | .eq => compareRuns fuel a.tail b.tail
        | other => other
      else
        let digits (cs : List Char) : List Char := cs.takeWhile Char.isDigit
        match compare (Decimal.value (digits a)) (Decimal.value (digits b)) with
        | .eq => compareRuns fuel (a.drop (digits a).length) (b.drop (digits b).length)
        | other => other

/-- Whether a text consists of endings, each a point with a letter or tilde behind it and more of
these or digits. -/
def isEndings : Nat → List Char → Bool
  | 0, _ => false
  | _ + 1, [] => true
  | fuel + 1, '.' :: c :: rest =>
    (c.isAlpha || c == '~') && isEndings fuel (rest.dropWhile fun d => d.isAlphanum || d == '~')
  | _ + 1, _ => false

/-- A name without its endings. At least one character of it remains. -/
def stem (cs : List Char) : List Char :=
  let lengths := (List.range cs.length).map (· + 1)
  match lengths.find? fun n => isEndings (cs.length + 1) (cs.drop n) with
  | some n => cs.take n
  | none => cs

/-- Where a name stands that begins with a point. -/
def special (cs : List Char) : Nat :=
  if cs.isEmpty then 0
  else if cs = ['.'] then 1
  else if cs = ['.', '.'] then 2
  else if cs.head? = some '.' then 3
  else 4

def compareNames (a b : String) : Ordering :=
  let xs := a.toList
  let ys := b.toList
  let fuel := xs.length + ys.length + 2
  match compare (special xs) (special ys) with
  | .eq =>
    match compareRuns fuel (stem xs) (stem ys) with
    | .eq => compareRuns fuel xs ys
    | other => other
  | other => other

end CredoAssistant.Shell.VersionOrder
