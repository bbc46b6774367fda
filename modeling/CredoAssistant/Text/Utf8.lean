/-!
UTF-8. Decoding goes byte by byte and cuts a sequence of bytes into characters and flaws; a flaw is
a longest front of a character that the next byte, or the end, does not continue. A lossy reader
puts a replacement character for each flaw, a strict one stops at the first.
-/
namespace CredoAssistant.Utf8

/-- Why some bytes are no character. -/
inductive Reason
  | startByte
  | continuationByte
  | endOfData
  deriving DecidableEq, Repr

def Reason.message : Reason → String
  | startByte => "invalid start byte"
  | continuationByte => "invalid continuation byte"
  | endOfData => "unexpected end of data"

/-- Bytes that are no character: the first one, how many there are, and why. -/
structure Flaw where
  first : UInt8
  length : Nat
  reason : Reason
  deriving DecidableEq, Repr

/-- A part of a decoded sequence. -/
inductive Piece
  | char (c : Char)
  | flaw (f : Flaw)
  deriving DecidableEq, Repr

/-- A character that lacks bytes: its first byte, how many bytes are read and how many are owed, the
bounds of the next one, and the bits so far. -/
structure Pending where
  first : UInt8
  read : Nat
  owed : Nat
  low : Nat
  high : Nat
  bits : Nat
  deriving DecidableEq, Repr

/-- Starts a character of `owed` more bytes. -/
def opening (b : UInt8) (owed low high bits : Nat) : List Piece × Option Pending :=
  ([], some ⟨b, 1, owed, low, high, bits⟩)

/-- The first byte of a character decides how many bytes follow and bounds the next one, so that
overlong forms, surrogates and code points past the last plane have no decoding. -/
def start (b : UInt8) : List Piece × Option Pending :=
  let n := b.toNat
  if n < 0x80 then ([.char (Char.ofNat n)], none)
  else if n < 0xC2 then ([.flaw ⟨b, 1, .startByte⟩], none)
  else if n < 0xE0 then opening b 1 0x80 0xBF (n - 0xC0)
  else if n = 0xE0 then opening b 2 0xA0 0xBF 0
  else if n = 0xED then opening b 2 0x80 0x9F 0xD
  else if n < 0xF0 then opening b 2 0x80 0xBF (n - 0xE0)
  else if n = 0xF0 then opening b 3 0x90 0xBF 0
  else if n < 0xF4 then opening b 3 0x80 0xBF (n - 0xF0)
  else if n = 0xF4 then opening b 3 0x80 0x8F 4
  else ([.flaw ⟨b, 1, .startByte⟩], none)

/-- Takes one byte. A byte that does not continue the pending character starts the next one. -/
def step (pending : Option Pending) (b : UInt8) : List Piece × Option Pending :=
  match pending with
  | none => start b
  | some p =>
    let n := b.toNat
    if p.low ≤ n ∧ n ≤ p.high then
      let bits := p.bits * 64 + (n - 0x80)
      if p.owed = 1 then ([.char (Char.ofNat bits)], none)
      else ([], some ⟨p.first, p.read + 1, p.owed - 1, 0x80, 0xBF, bits⟩)
    else
      let (pieces, next) := start b
      (.flaw ⟨p.first, p.read, .continuationByte⟩ :: pieces, next)

/-- Takes the bytes in turn. `done` holds the pieces before, the last one first; a character still
pending at the end is a flaw. -/
def piecesFrom (done : List Piece) (pending : Option Pending) : List UInt8 → List Piece
  | [] =>
    match pending with
    | none => done.reverse
    | some p => (.flaw ⟨p.first, p.read, .endOfData⟩ :: done).reverse
  | b :: rest => piecesFrom ((step pending b).1.reverse ++ done) (step pending b).2 rest

/-- Cuts bytes into characters and flaws. -/
def pieces (bytes : List UInt8) : List Piece := piecesFrom [] none bytes

/-- What stands for bytes that are no character. -/
def replacement : Char := '\uFFFD'

/-- The character that a lossy reader puts for a piece. -/
def Piece.shown : Piece → Char
  | char c => c
  | flaw _ => replacement

/-- The text of the bytes, with a replacement character for every flaw. -/
def decodeLossy (bytes : List UInt8) : List Char := (pieces bytes).map Piece.shown

/-- The first flaw of some bytes and its offset. -/
structure Undecodable where
  offset : Nat
  flaw : Flaw
  deriving DecidableEq, Repr

def Undecodable.message (u : Undecodable) : String :=
  let which :=
    if u.flaw.length = 1 then
      let ds := Nat.toDigits 16 u.flaw.first.toNat
      let hex := String.ofList (List.replicate (2 - ds.length) '0' ++ ds)
      s!"byte 0x{hex} in position {u.offset}"
    else s!"bytes in position {u.offset}-{u.offset + u.flaw.length - 1}"
  s!"'utf-8' codec can't decode {which}: {u.flaw.reason.message}"

/-- The characters of the pieces from `offset` on, unless there is a flaw among them. -/
def characters (offset : Nat) : List Piece → Except Undecodable (List Char)
  | [] => .ok []
  | .flaw f :: _ => .error ⟨offset, f⟩
  | .char c :: rest =>
    match characters (offset + c.utf8Size) rest with
    | .ok cs => .ok (c :: cs)
    | .error u => .error u

/-- The text of the bytes, or where they stop being one. -/
def decode (bytes : List UInt8) : Except Undecodable (List Char) := characters 0 (pieces bytes)

/-- The continuation byte for the six low bits of `n`. -/
def continuation (n : Nat) : UInt8 := UInt8.ofNat (0x80 + n % 64)

/-- The bytes of a character. -/
def encodeChar (c : Char) : List UInt8 :=
  let n := c.toNat
  if n < 0x80 then [UInt8.ofNat n]
  else if n < 0x800 then [UInt8.ofNat (0xC0 + n / 64), continuation n]
  else if n < 0x10000 then
    [UInt8.ofNat (0xE0 + n / 4096), continuation (n / 64), continuation n]
  else
    [UInt8.ofNat (0xF0 + n / 262144), continuation (n / 4096), continuation (n / 64),
      continuation n]

/-- The bytes of a text. -/
def encode (cs : List Char) : List UInt8 := cs.flatMap encodeChar

end CredoAssistant.Utf8
