import CredoAssistant.Text.Utf8

/-!
Texts as shells see them: strings of bytes. A byte is written as the character with its number, so
that a text of ASCII characters is its own string of bytes.
-/
namespace CredoAssistant.Shell.Octets

/-- The bytes of a text in UTF-8. -/
def ofChars (cs : List Char) : List Char := (Utf8.encode cs).map fun b => Char.ofNat b.toNat

/-- The bytes of a text in UTF-8. -/
def ofText (s : String) : String := String.ofList (ofChars s.toList)

/-- A string of bytes as bytes. -/
def toBytes (cs : List Char) : List UInt8 := cs.map fun c => UInt8.ofNat c.toNat

def ofBytes (bytes : List UInt8) : List Char := bytes.map fun b => Char.ofNat b.toNat

/-- The text that a string of bytes stands for. -/
def toText (s : String) : String := String.ofList (Utf8.decodeLossy (toBytes s.toList))

/-! Strings of bytes as characters, none of which is lost: a byte that belongs to none is set
apart. -/

/-- The first of the characters that stand for single bytes. -/
def firstApart : Nat := 0x10FF00

/-- The characters of a string of bytes. -/
def toCharacters (cs : List Char) : List Char :=
  ((Utf8.pieces (toBytes cs)).foldl
    (fun (acc, rest) piece =>
      match piece with
      | .char c => (c :: acc, rest.drop c.utf8Size)
      | .flaw f =>
        let apart := (rest.take f.length).map fun b => Char.ofNat (firstApart + b.toNat)
        (apart.reverse ++ acc, rest.drop f.length))
    ([], cs)).1.reverse

/-- The bytes of such characters. -/
def ofCharacters (cs : List Char) : List Char :=
  cs.flatMap fun c =>
    if firstApart ≤ c.toNat then [Char.ofNat (c.toNat - firstApart)] else ofChars [c]

end CredoAssistant.Shell.Octets
