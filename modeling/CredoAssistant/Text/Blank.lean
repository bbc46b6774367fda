/-!
Blank characters and trimming. Two classes are in use: the Unicode property White_Space, and the
wider class that also holds the four information separators U+001C to U+001F.
-/
namespace CredoAssistant.Text

/-- Characters with the Unicode property White_Space. -/
def isWhiteSpace (c : Char) : Bool :=
  let n := c.toNat
  (9 ≤ n && n ≤ 13) || n == 0x20 || n == 0x85 || n == 0xA0 || n == 0x1680
    || (0x2000 ≤ n && n ≤ 0x200A) || n == 0x2028 || n == 0x2029 || n == 0x202F
    || n == 0x205F || n == 0x3000

/-- White space or an information separator. -/
def isBlank (c : Char) : Bool :=
  isWhiteSpace c || (0x1C ≤ c.toNat && c.toNat ≤ 0x1F)

/-- Drops the characters of class `p` at the end. -/
def trimEnd (p : Char → Bool) (cs : List Char) : List Char :=
  (cs.reverse.dropWhile p).reverse

/-- Drops the characters of class `p` at both ends. -/
def trim (p : Char → Bool) (cs : List Char) : List Char :=
  trimEnd p (cs.dropWhile p)

/-- The text without blanks at its ends. -/
def strip (s : String) : String := String.ofList (trim isBlank s.toList)

/-- The first `n` characters, followed by three points when some are left out. -/
def excerpt (n : Nat) (s : String) : String :=
  let cs := (strip s).toList
  if cs.length ≤ n then String.ofList cs else String.ofList (cs.take n) ++ "..."

end CredoAssistant.Text
