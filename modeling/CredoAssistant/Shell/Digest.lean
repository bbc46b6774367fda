import CredoAssistant.Number.Instances

/-!
Checksums of files by cyclic redundancy, and message digests: MD5, a sum of sixteen bytes; the
secure hash algorithms, which are SHA-1, those with words of 32 bits and those with words of 64
bits; and BLAKE2b, a sum of up to 64 bytes.
-/
namespace CredoAssistant.Shell.Digest

/-- The bytes of a number, the most significant one first. -/
def bigBytes (count n : Nat) : List UInt8 :=
  (List.range count).map fun i => UInt8.ofNat (n / 256 ^ (count - 1 - i))

/-- The bytes of a number, the least significant one first. -/
def littleBytes (count n : Nat) : List UInt8 := (bigBytes count n).reverse

/-- The number of some bytes, of which the most significant one comes first. -/
def ofBigBytes (bytes : List UInt8) : Nat := bytes.foldl (fun n b => n * 256 + b.toNat) 0

/-- The number of some bytes, of which the least significant one comes first. -/
def ofLittleBytes (bytes : List UInt8) : Nat := ofBigBytes bytes.reverse

/-- Takes a list apart into pieces of a size; the last one may be shorter. -/
def pieces {α : Type} (size : Nat) : Nat → List α → List (List α)
  | 0, _ => []
  | fuel + 1, xs => if xs.isEmpty then [] else xs.take size :: pieces size fuel (xs.drop size)

/-- Fills bytes up to whole blocks: a mark, zeros, and the number of bits in a field of some
bytes. -/
def padded (block field : Nat) (length : Nat → List UInt8) (bytes : List UInt8) : List UInt8 :=
  let size := bytes.length
  let zeros := (2 * block - 1 - field - size % block) % block
  bytes ++ 0x80 :: List.replicate zeros 0 ++ length (size * 8)

/-- Digits of bytes in base sixteen. -/
def hexadecimal (bytes : List UInt8) : String :=
  String.ofList (bytes.flatMap fun b =>
    let ds := Nat.toDigits 16 b.toNat
    if ds.length = 1 then '0' :: ds else ds)

def rotateLeft32 (x : UInt32) (n : Nat) : UInt32 :=
  (x <<< UInt32.ofNat n) ||| (x >>> UInt32.ofNat (32 - n))

def rotateRight32 (x : UInt32) (n : Nat) : UInt32 := rotateLeft32 x (32 - n)

def rotateRight64 (x : UInt64) (n : Nat) : UInt64 :=
  (x >>> UInt64.ofNat n) ||| (x <<< UInt64.ofNat (64 - n))

end CredoAssistant.Shell.Digest

namespace CredoAssistant.Shell.Digest.Crc

/-- Shifts a remainder by some bits. -/
def shift : Nat → UInt32 → UInt32
  | 0, r => r
  | n + 1, r => shift n (if r &&& 0x80000000 != 0 then (r <<< 1) ^^^ 0x04c11db7 else r <<< 1)

/-- The remainders of single bytes. -/
def table : Array UInt32 :=
  ((List.range 256).map fun n => shift 8 (UInt32.ofNat n <<< 24)).toArray

def step (table : Array UInt32) (r : UInt32) (b : UInt8) : UInt32 :=
  (r <<< 8) ^^^ table.getD ((r >>> 24).toNat ^^^ b.toNat) 0

/-- The bytes of a length, the least significant one first, without zeros at the end. -/
def lengthBytes : Nat → Nat → List UInt8
  | 0, _ => []
  | fuel + 1, n => if n = 0 then [] else UInt8.ofNat n :: lengthBytes fuel (n / 256)

/-- The check of some bytes, in which their number counts too. -/
def sum (bytes : List UInt8) : Nat :=
  let table := table
  let r := (bytes ++ lengthBytes 9 bytes.length).foldl (step table) 0
  (~~~r).toNat

/-- Adds bytes up, with the sum rotated by one bit before each. -/
def rotated (bytes : List UInt8) : Nat :=
  bytes.foldl (fun s b => (s / 2 + s % 2 * 0x8000 + b.toNat) % 0x10000) 0

/-- Adds bytes up, with what leaves sixteen bits added again. -/
def folded (bytes : List UInt8) : Nat :=
  let s := bytes.foldl (fun s b => s + b.toNat) 0 % 2 ^ 32
  let r := s % 0x10000 + s / 0x10000
  r % 0x10000 + r / 0x10000

end CredoAssistant.Shell.Digest.Crc

namespace CredoAssistant.Shell.Digest.Md5

/-- The constants of the steps, from the sines of the numbers one to sixty-four. -/
def constants : List UInt32 :=
  [0xd76aa478, 0xe8c7b756, 0x242070db, 0xc1bdceee, 0xf57c0faf, 0x4787c62a, 0xa8304613,
    0xfd469501, 0x698098d8, 0x8b44f7af, 0xffff5bb1, 0x895cd7be, 0x6b901122, 0xfd987193,
    0xa679438e, 0x49b40821, 0xf61e2562, 0xc040b340, 0x265e5a51, 0xe9b6c7aa, 0xd62f105d,
    0x02441453, 0xd8a1e681, 0xe7d3fbc8, 0x21e1cde6, 0xc33707d6, 0xf4d50d87, 0x455a14ed,
    0xa9e3e905, 0xfcefa3f8, 0x676f02d9, 0x8d2a4c8a, 0xfffa3942, 0x8771f681, 0x6d9d6122,
    0xfde5380c, 0xa4beea44, 0x4bdecfa9, 0xf6bb4b60, 0xbebfbc70, 0x289b7ec6, 0xeaa127fa,
    0xd4ef3085, 0x04881d05, 0xd9d4d039, 0xe6db99e5, 0x1fa27cf8, 0xc4ac5665, 0xf4292244,
    0x432aff97, 0xab9423a7, 0xfc93a039, 0x655b59c3, 0x8f0ccc92, 0xffeff47d, 0x85845dd1,
    0x6fa87e4f, 0xfe2ce6e0, 0xa3014314, 0x4e0811a1, 0xf7537e82, 0xbd3af235, 0x2ad7d2bb, 0xeb86d391]

/-- How far the steps of each round rotate. -/
def shifts : List (List Nat) := [[7, 12, 17, 22], [5, 9, 14, 20], [4, 11, 16, 23], [6, 10, 15, 21]]

/-- The state between blocks. -/
structure State where
  a : UInt32
  b : UInt32
  c : UInt32
  d : UInt32

def start : State := ⟨0x67452301, 0xefcdab89, 0x98badcfe, 0x10325476⟩

/-- A step with a number and its constant. -/
def step (words : Array UInt32) (s : State) (k : UInt32 × Nat) : State :=
  let i := k.2
  let (f, g) : UInt32 × Nat :=
    if i < 16 then ((s.b &&& s.c) ||| (~~~s.b &&& s.d), i)
    else if i < 32 then ((s.d &&& s.b) ||| (~~~s.d &&& s.c), (5 * i + 1) % 16)
    else if i < 48 then (s.b ^^^ s.c ^^^ s.d, (3 * i + 5) % 16)
    else (s.c ^^^ (s.b ||| ~~~s.d), 7 * i % 16)
  let shift := (((shifts[i / 16]?).getD [])[i % 4]?).getD 0
  let sum := s.a + f + k.1 + words.getD g 0
  ⟨s.d, s.b + rotateLeft32 sum shift, s.b, s.c⟩

def block (s : State) (bytes : List UInt8) : State :=
  let words := ((pieces 4 16 bytes).map fun w => UInt32.ofNat (ofLittleBytes w)).toArray
  let t := constants.zipIdx.foldl (step words) s
  ⟨s.a + t.a, s.b + t.b, s.c + t.c, s.d + t.d⟩

/-- The sum of some bytes. -/
def sum (bytes : List UInt8) : List UInt8 :=
  let all := padded 64 8 (littleBytes 8) bytes
  let s := (pieces 64 (all.length / 64 + 1) all).foldl block start
  [s.a, s.b, s.c, s.d].flatMap fun w => littleBytes 4 w.toNat

end CredoAssistant.Shell.Digest.Md5

namespace CredoAssistant.Shell.Digest.Sha

/-! Twenty bytes -/

/-- The state of SHA-1 between steps. -/
structure Five where
  a : UInt32
  b : UInt32
  c : UInt32
  d : UInt32
  e : UInt32

def step1 (s : Five) (w : UInt32 × Nat) : Five :=
  let (f, k) : UInt32 × UInt32 :=
    if w.2 < 20 then ((s.b &&& s.c) ||| (~~~s.b &&& s.d), 0x5a827999)
    else if w.2 < 40 then (s.b ^^^ s.c ^^^ s.d, 0x6ed9eba1)
    else if w.2 < 60 then ((s.b &&& s.c) ||| (s.b &&& s.d) ||| (s.c &&& s.d), 0x8f1bbcdc)
    else (s.b ^^^ s.c ^^^ s.d, 0xca62c1d6)
  ⟨rotateLeft32 s.a 5 + f + s.e + k + w.1, s.a, rotateLeft32 s.b 30, s.c, s.d⟩

/-- Prolongs the words of a block; each new one depends on some before it. -/
def prolonged {α : Type} (next : Array α → α) : Nat → Array α → Array α
  | 0, ws => ws
  | n + 1, ws => prolonged next n (ws.push (next ws))

def block1 (s : Five) (bytes : List UInt8) : Five :=
  let words := ((pieces 4 16 bytes).map fun w => UInt32.ofNat (ofBigBytes w)).toArray
  let next (ws : Array UInt32) : UInt32 :=
    let back (i : Nat) : UInt32 := ws.getD (ws.size - i) 0
    rotateLeft32 (back 3 ^^^ back 8 ^^^ back 14 ^^^ back 16) 1
  let t := (prolonged next 64 words).toList.zipIdx.foldl step1 s
  ⟨s.a + t.a, s.b + t.b, s.c + t.c, s.d + t.d, s.e + t.e⟩

/-- The sum SHA-1 of some bytes. -/
def sum1 (bytes : List UInt8) : List UInt8 :=
  let all := padded 64 8 (bigBytes 8) bytes
  let s := (pieces 64 (all.length / 64 + 1) all).foldl block1
    ⟨0x67452301, 0xefcdab89, 0x98badcfe, 0x10325476, 0xc3d2e1f0⟩
  [s.a, s.b, s.c, s.d, s.e].flatMap fun w => bigBytes 4 w.toNat

/-- The eight words of a state between steps. -/
structure Eight (α : Type) where
  a : α
  b : α
  c : α
  d : α
  e : α
  f : α
  g : α
  h : α

namespace Eight

def words {α : Type} (s : Eight α) : List α := [s.a, s.b, s.c, s.d, s.e, s.f, s.g, s.h]

def map₂ {α : Type} (f : α → α → α) (s t : Eight α) : Eight α :=
  ⟨f s.a t.a, f s.b t.b, f s.c t.c, f s.d t.d, f s.e t.e, f s.f t.f, f s.g t.g, f s.h t.h⟩

end Eight

/-! Words of 32 bits -/

/-- The constants of the steps, from the cube roots of the first primes. -/
def constants32 : List UInt32 :=
  [0x428a2f98, 0x71374491, 0xb5c0fbcf, 0xe9b5dba5, 0x3956c25b, 0x59f111f1, 0x923f82a4,
    0xab1c5ed5, 0xd807aa98, 0x12835b01, 0x243185be, 0x550c7dc3, 0x72be5d74, 0x80deb1fe,
    0x9bdc06a7, 0xc19bf174, 0xe49b69c1, 0xefbe4786, 0x0fc19dc6, 0x240ca1cc, 0x2de92c6f,
    0x4a7484aa, 0x5cb0a9dc, 0x76f988da, 0x983e5152, 0xa831c66d, 0xb00327c8, 0xbf597fc7,
    0xc6e00bf3, 0xd5a79147, 0x06ca6351, 0x14292967, 0x27b70a85, 0x2e1b2138, 0x4d2c6dfc,
    0x53380d13, 0x650a7354, 0x766a0abb, 0x81c2c92e, 0x92722c85, 0xa2bfe8a1, 0xa81a664b,
    0xc24b8b70, 0xc76c51a3, 0xd192e819, 0xd6990624, 0xf40e3585, 0x106aa070, 0x19a4c116,
    0x1e376c08, 0x2748774c, 0x34b0bcb5, 0x391c0cb3, 0x4ed8aa4a, 0x5b9cca4f, 0x682e6ff3,
    0x748f82ee, 0x78a5636f, 0x84c87814, 0x8cc70208, 0x90befffa, 0xa4506ceb, 0xbef9a3f7, 0xc67178f2]

def step32 (s : Eight UInt32) (w : UInt32 × UInt32) : Eight UInt32 :=
  let s1 := rotateRight32 s.e 6 ^^^ rotateRight32 s.e 11 ^^^ rotateRight32 s.e 25
  let chosen := (s.e &&& s.f) ^^^ (~~~s.e &&& s.g)
  let first := s.h + s1 + chosen + w.1 + w.2
  let s0 := rotateRight32 s.a 2 ^^^ rotateRight32 s.a 13 ^^^ rotateRight32 s.a 22
  let most := (s.a &&& s.b) ^^^ (s.a &&& s.c) ^^^ (s.b &&& s.c)
  ⟨first + s0 + most, s.a, s.b, s.c, s.d + first, s.e, s.f, s.g⟩

def block32 (s : Eight UInt32) (bytes : List UInt8) : Eight UInt32 :=
  let words := ((pieces 4 16 bytes).map fun w => UInt32.ofNat (ofBigBytes w)).toArray
  let next (ws : Array UInt32) : UInt32 :=
    let back (i : Nat) : UInt32 := ws.getD (ws.size - i) 0
    let x := back 15
    let y := back 2
    let s0 := rotateRight32 x 7 ^^^ rotateRight32 x 18 ^^^ (x >>> 3)
    let s1 := rotateRight32 y 17 ^^^ rotateRight32 y 19 ^^^ (y >>> 10)
    back 16 + s0 + back 7 + s1
  let t := (constants32.zip (prolonged next 48 words).toList).foldl step32 s
  Eight.map₂ (· + ·) s t

/-- The first bytes of a sum with words of 32 bits. -/
def sum32 (start : Eight UInt32) (length : Nat) (bytes : List UInt8) : List UInt8 :=
  let all := padded 64 8 (bigBytes 8) bytes
  let s := (pieces 64 (all.length / 64 + 1) all).foldl block32 start
  (s.words.flatMap fun w => bigBytes 4 w.toNat).take length

/-- The sum SHA-224 of some bytes. -/
def sum224 (bytes : List UInt8) : List UInt8 :=
  sum32
    ⟨0xc1059ed8, 0x367cd507, 0x3070dd17, 0xf70e5939,
      0xffc00b31, 0x68581511, 0x64f98fa7, 0xbefa4fa4⟩ 28 bytes

/-- The sum SHA-256 of some bytes. -/
def sum256 (bytes : List UInt8) : List UInt8 :=
  sum32
    ⟨0x6a09e667, 0xbb67ae85, 0x3c6ef372, 0xa54ff53a,
      0x510e527f, 0x9b05688c, 0x1f83d9ab, 0x5be0cd19⟩ 32 bytes

/-! Words of 64 bits -/

/-- The constants of the steps, from the cube roots of the first primes. -/
def constants64 : List UInt64 :=
  [0x428a2f98d728ae22, 0x7137449123ef65cd, 0xb5c0fbcfec4d3b2f, 0xe9b5dba58189dbbc,
    0x3956c25bf348b538, 0x59f111f1b605d019, 0x923f82a4af194f9b, 0xab1c5ed5da6d8118,
    0xd807aa98a3030242, 0x12835b0145706fbe, 0x243185be4ee4b28c, 0x550c7dc3d5ffb4e2,
    0x72be5d74f27b896f, 0x80deb1fe3b1696b1, 0x9bdc06a725c71235, 0xc19bf174cf692694,
    0xe49b69c19ef14ad2, 0xefbe4786384f25e3, 0x0fc19dc68b8cd5b5, 0x240ca1cc77ac9c65,
    0x2de92c6f592b0275, 0x4a7484aa6ea6e483, 0x5cb0a9dcbd41fbd4, 0x76f988da831153b5,
    0x983e5152ee66dfab, 0xa831c66d2db43210, 0xb00327c898fb213f, 0xbf597fc7beef0ee4,
    0xc6e00bf33da88fc2, 0xd5a79147930aa725, 0x06ca6351e003826f, 0x142929670a0e6e70,
    0x27b70a8546d22ffc, 0x2e1b21385c26c926, 0x4d2c6dfc5ac42aed, 0x53380d139d95b3df,
    0x650a73548baf63de, 0x766a0abb3c77b2a8, 0x81c2c92e47edaee6, 0x92722c851482353b,
    0xa2bfe8a14cf10364, 0xa81a664bbc423001, 0xc24b8b70d0f89791, 0xc76c51a30654be30,
    0xd192e819d6ef5218, 0xd69906245565a910, 0xf40e35855771202a, 0x106aa07032bbd1b8,
    0x19a4c116b8d2d0c8, 0x1e376c085141ab53, 0x2748774cdf8eeb99, 0x34b0bcb5e19b48a8,
    0x391c0cb3c5c95a63, 0x4ed8aa4ae3418acb, 0x5b9cca4f7763e373, 0x682e6ff3d6b2b8a3,
    0x748f82ee5defb2fc, 0x78a5636f43172f60, 0x84c87814a1f0ab72, 0x8cc702081a6439ec,
    0x90befffa23631e28, 0xa4506cebde82bde9, 0xbef9a3f7b2c67915, 0xc67178f2e372532b,
    0xca273eceea26619c, 0xd186b8c721c0c207, 0xeada7dd6cde0eb1e, 0xf57d4f7fee6ed178,
    0x06f067aa72176fba, 0x0a637dc5a2c898a6, 0x113f9804bef90dae, 0x1b710b35131c471b,
    0x28db77f523047d84, 0x32caab7b40c72493, 0x3c9ebe0a15c9bebc, 0x431d67c49c100d4c,
    0x4cc5d4becb3e42b6, 0x597f299cfc657e2a, 0x5fcb6fab3ad6faec, 0x6c44198c4a475817]

def step64 (s : Eight UInt64) (w : UInt64 × UInt64) : Eight UInt64 :=
  let s1 := rotateRight64 s.e 14 ^^^ rotateRight64 s.e 18 ^^^ rotateRight64 s.e 41
  let chosen := (s.e &&& s.f) ^^^ (~~~s.e &&& s.g)
  let first := s.h + s1 + chosen + w.1 + w.2
  let s0 := rotateRight64 s.a 28 ^^^ rotateRight64 s.a 34 ^^^ rotateRight64 s.a 39
  let most := (s.a &&& s.b) ^^^ (s.a &&& s.c) ^^^ (s.b &&& s.c)
  ⟨first + s0 + most, s.a, s.b, s.c, s.d + first, s.e, s.f, s.g⟩

def block64 (s : Eight UInt64) (bytes : List UInt8) : Eight UInt64 :=
  let words := ((pieces 8 16 bytes).map fun w => UInt64.ofNat (ofBigBytes w)).toArray
  let next (ws : Array UInt64) : UInt64 :=
    let back (i : Nat) : UInt64 := ws.getD (ws.size - i) 0
    let x := back 15
    let y := back 2
    let s0 := rotateRight64 x 1 ^^^ rotateRight64 x 8 ^^^ (x >>> 7)
    let s1 := rotateRight64 y 19 ^^^ rotateRight64 y 61 ^^^ (y >>> 6)
    back 16 + s0 + back 7 + s1
  let t := (constants64.zip (prolonged next 64 words).toList).foldl step64 s
  Eight.map₂ (· + ·) s t

/-- The first bytes of a sum with words of 64 bits. -/
def sum64 (start : Eight UInt64) (length : Nat) (bytes : List UInt8) : List UInt8 :=
  let all := padded 128 16 (bigBytes 16) bytes
  let s := (pieces 128 (all.length / 128 + 1) all).foldl block64 start
  (s.words.flatMap fun w => bigBytes 8 w.toNat).take length

/-- The words that sums with 64 bytes start from. -/
def start512 : Eight UInt64 :=
  ⟨0x6a09e667f3bcc908, 0xbb67ae8584caa73b, 0x3c6ef372fe94f82b, 0xa54ff53a5f1d36f1,
    0x510e527fade682d1, 0x9b05688c2b3e6c1f, 0x1f83d9abfb41bd6b, 0x5be0cd19137e2179⟩

/-- The sum SHA-384 of some bytes. -/
def sum384 (bytes : List UInt8) : List UInt8 :=
  sum64
    ⟨0xcbbb9d5dc1059ed8, 0x629a292a367cd507, 0x9159015a3070dd17, 0x152fecd8f70e5939,
      0x67332667ffc00b31, 0x8eb44a8768581511, 0xdb0c2e0d64f98fa7, 0x47b5481dbefa4fa4⟩ 48 bytes

/-- The sum SHA-512 of some bytes. -/
def sum512 (bytes : List UInt8) : List UInt8 := sum64 start512 64 bytes

/-! A sum of thirty-two bytes whose steps mix two sequences of words -/

def stepSm3 (s : Eight UInt32) (w : (UInt32 × UInt32) × Nat) : Eight UInt32 :=
  let ((word, both), i) := w
  let key := if i < 16 then 0x79cc4519 else 0x7a879d8a
  let turned := rotateLeft32 s.a 12
  let first := rotateLeft32 (turned + s.e + rotateLeft32 key (i % 32)) 7
  let mixed (x y z : UInt32) : UInt32 :=
    if i < 16 then x ^^^ y ^^^ z else (x &&& y) ||| (x &&& z) ||| (y &&& z)
  let chosen := if i < 16 then s.e ^^^ s.f ^^^ s.g else (s.e &&& s.f) ||| (~~~s.e &&& s.g)
  let one := mixed s.a s.b s.c + s.d + (first ^^^ turned) + both
  let two := chosen + s.h + first + word
  ⟨one, s.a, rotateLeft32 s.b 9, s.c, two ^^^ rotateLeft32 two 9 ^^^ rotateLeft32 two 17, s.e,
    rotateLeft32 s.f 19, s.g⟩

def blockSm3 (s : Eight UInt32) (bytes : List UInt8) : Eight UInt32 :=
  let words := ((pieces 4 16 bytes).map fun w => UInt32.ofNat (ofBigBytes w)).toArray
  let next (ws : Array UInt32) : UInt32 :=
    let back (i : Nat) : UInt32 := ws.getD (ws.size - i) 0
    let x := back 16 ^^^ back 9 ^^^ rotateLeft32 (back 3) 15
    x ^^^ rotateLeft32 x 15 ^^^ rotateLeft32 x 23 ^^^ rotateLeft32 (back 13) 7 ^^^ back 6
  let all := (prolonged next 52 words).toList
  let both := (all.zip (all.drop 4)).map fun (x, y) => (x, x ^^^ y)
  let t := both.zipIdx.foldl stepSm3 s
  Eight.map₂ (· ^^^ ·) s t

/-- The sum SM3 of some bytes. -/
def sumSm3 (bytes : List UInt8) : List UInt8 :=
  let all := padded 64 8 (bigBytes 8) bytes
  let s := (pieces 64 (all.length / 64 + 1) all).foldl blockSm3
    ⟨0x7380166f, 0x4914b2b9, 0x172442d7, 0xda8a0600,
      0xa96f30bc, 0x163138aa, 0xe38dee4d, 0xb0fb0e4e⟩
  s.words.flatMap fun w => bigBytes 4 w.toNat

end CredoAssistant.Shell.Digest.Sha

namespace CredoAssistant.Shell.Digest.Blake2

/-- In which order the rounds take the words of a block. -/
def orders : List (List Nat) :=
  [[0, 1, 2, 3, 4, 5, 6, 7, 8, 9, 10, 11, 12, 13, 14, 15],
    [14, 10, 4, 8, 9, 15, 13, 6, 1, 12, 0, 2, 11, 7, 5, 3],
    [11, 8, 12, 0, 5, 2, 15, 13, 10, 14, 3, 6, 7, 1, 9, 4],
    [7, 9, 3, 1, 13, 12, 11, 14, 2, 6, 5, 10, 4, 0, 15, 8],
    [9, 0, 5, 7, 2, 4, 10, 15, 14, 1, 11, 12, 6, 8, 3, 13],
    [2, 12, 6, 10, 0, 11, 8, 3, 4, 13, 7, 5, 15, 14, 1, 9],
    [12, 5, 1, 15, 14, 13, 4, 10, 0, 7, 6, 3, 9, 2, 8, 11],
    [13, 11, 7, 14, 12, 1, 3, 9, 5, 0, 15, 4, 8, 6, 2, 10],
    [6, 15, 14, 9, 11, 3, 0, 8, 12, 2, 13, 7, 1, 4, 10, 5],
    [10, 2, 8, 4, 7, 6, 1, 5, 15, 11, 9, 14, 3, 12, 13, 0]]

/-- The places that the steps of a round mix: columns first, then diagonals. -/
def quarters : List (Nat × Nat × Nat × Nat) :=
  [(0, 4, 8, 12), (1, 5, 9, 13), (2, 6, 10, 14), (3, 7, 11, 15), (0, 5, 10, 15), (1, 6, 11, 12),
    (2, 7, 8, 13), (3, 4, 9, 14)]

/-- Mixes two words of a block into four places. -/
def mix (v : Array UInt64) (places : Nat × Nat × Nat × Nat) (x y : UInt64) : Array UInt64 :=
  let (i, j, k, l) := places
  let half (v : Array UInt64) (x : UInt64) (r s : Nat) : Array UInt64 :=
    let a := v.getD i 0 + v.getD j 0 + x
    let d := rotateRight64 (v.getD l 0 ^^^ a) r
    let c := v.getD k 0 + d
    let b := rotateRight64 (v.getD j 0 ^^^ c) s
    (((v.setIfInBounds i a).setIfInBounds j b).setIfInBounds k c).setIfInBounds l d
  half (half v x 32 24) y 16 63

def round (words : Array UInt64) (v : Array UInt64) (order : List Nat) : Array UInt64 :=
  (quarters.zipIdx).foldl
    (fun v (places, n) =>
      let word (i : Nat) : UInt64 := words.getD ((order[i]?).getD 0) 0
      mix v places (word (2 * n)) (word (2 * n + 1)))
    v

/-- Takes in a block, behind which so many bytes have been read. -/
def block (state : List UInt64) (bytes : List UInt8) (count : Nat) (isLast : Bool) : List UInt64 :=
  let filled := bytes ++ List.replicate (128 - bytes.length) 0
  let words := ((pieces 8 16 filled).map fun w => UInt64.ofNat (ofLittleBytes w)).toArray
  let start := Sha.start512.words
  let v := (state ++ start).toArray
  let v := v.modify 12 (· ^^^ UInt64.ofNat count)
  let v := v.modify 13 (· ^^^ UInt64.ofNat (count / 2 ^ 64))
  let v := if isLast then v.modify 14 (fun w => ~~~w) else v
  let v := (orders ++ orders.take 2).foldl (round words) v
  state.zipIdx.map fun (w, i) => w ^^^ v.getD i 0 ^^^ v.getD (i + 8) 0

/-- Takes in all blocks. -/
def blocks : List (List UInt8) → Nat → List UInt64 → List UInt64
  | [], _, state => state
  | [b], count, state => block state b (count + b.length) true
  | b :: rest, count, state =>
    blocks rest (count + b.length) (block state b (count + b.length) false)

/-- The sum of some bytes with a length in bytes. -/
def sum (length : Nat) (bytes : List UInt8) : List UInt8 :=
  let start := Sha.start512.words.zipIdx.map fun (w, i) =>
    if i = 0 then w ^^^ 0x01010000 ^^^ UInt64.ofNat length else w
  let all := if bytes.isEmpty then [[]] else pieces 128 (bytes.length / 128 + 1) bytes
  ((blocks all 0 start).flatMap fun w => littleBytes 8 w.toNat).take length

end CredoAssistant.Shell.Digest.Blake2
