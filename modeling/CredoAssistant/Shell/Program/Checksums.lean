import CredoAssistant.Shell.Digest
import CredoAssistant.Shell.Program.Common
import CredoAssistant.Shell.Program.Encodings

/-!
Sums of files, and lists of sums that files are checked against.
-/
namespace CredoAssistant.Shell.Program

namespace Checksum

/-- The ways to sum up bytes. -/
inductive Method
  | bsd
  | sysv
  | crc
  | md5
  | sha1
  | sha224
  | sha256
  | sha384
  | sha512
  | blake2b
  | sm3
  deriving DecidableEq, Repr

/-- The names of the methods. -/
def methods : List (String × Method) :=
  [("bsd", .bsd), ("sysv", .sysv), ("crc", .crc), ("md5", .md5), ("sha1", .sha1),
    ("sha224", .sha224), ("sha256", .sha256), ("sha384", .sha384), ("sha512", .sha512),
    ("blake2b", .blake2b), ("sm3", .sm3)]

namespace Method

/-- Whether sums are numbers, and not strings of bytes. -/
def isNumber (m : Method) : Bool := m == .bsd || m == .sysv || m == .crc

/-- The name in front of a sum. -/
def tag : Method → String
  | bsd => "BSD"
  | sysv => "SYSV"
  | crc => "CRC"
  | md5 => "MD5"
  | sha1 => "SHA1"
  | sha224 => "SHA224"
  | sha256 => "SHA256"
  | sha384 => "SHA384"
  | sha512 => "SHA512"
  | blake2b => "BLAKE2b"
  | sm3 => "SM3"

/-- How many bytes a sum has. -/
def length : Method → Nat
  | bsd => 2
  | sysv => 2
  | crc => 4
  | md5 => 16
  | sha1 => 20
  | sha224 => 28
  | sha256 => 32
  | sha384 => 48
  | sha512 => 64
  | blake2b => 64
  | sm3 => 32

/-- The sum of some bytes, of which there may be a choice how many it has. -/
def sum (m : Method) (length : Nat) (bytes : List UInt8) : List UInt8 :=
  match m with
  | bsd => Digest.bigBytes 2 (Digest.Crc.rotated bytes)
  | sysv => Digest.bigBytes 2 (Digest.Crc.folded bytes)
  | crc => Digest.bigBytes 4 (Digest.Crc.sum bytes)
  | md5 => Digest.Md5.sum bytes
  | sha1 => Digest.Sha.sum1 bytes
  | sha224 => Digest.Sha.sum224 bytes
  | sha256 => Digest.Sha.sum256 bytes
  | sha384 => Digest.Sha.sum384 bytes
  | sha512 => Digest.Sha.sum512 bytes
  | blake2b => Digest.Blake2.sum length bytes
  | sm3 => Digest.Sha.sumSm3 bytes

end Method

/-- How sums are shown: how many bytes they have, whether as bytes or in base sixty-four, with the
name of the method before them, with a mark at the file, and what ends a line. -/
structure Style where
  method : Method
  length : Nat
  isRaw : Bool
  inBase64 : Bool
  tagged : Bool
  binary : Bool
  close : Char

/-- A name with escapes, and whether it needed some. -/
def escapedName (file : String) : String × Bool :=
  let escape (c : Char) : List Char :=
    if c = '\n' then ['\\', 'n'] else if c = '\r' then ['\\', 'r']
    else if c = '\\' then ['\\', '\\'] else [c]
  let cs := file.toList.flatMap escape
  (String.ofList cs, file.length < cs.length)

/-- A name whose escapes are read. -/
def unescaped? : List Char → Option (List Char)
  | [] => some []
  | '\\' :: 'n' :: rest => ('\n' :: ·) <$> unescaped? rest
  | '\\' :: 'r' :: rest => ('\r' :: ·) <$> unescaped? rest
  | '\\' :: '\\' :: rest => ('\\' :: ·) <$> unescaped? rest
  | '\\' :: _ => none
  | c :: rest => (c :: ·) <$> unescaped? rest

/-- The line for a file. `isNamed` says that the file was named. -/
def Style.line (s : Style) (file : String) (isNamed : Bool) (bytes : List UInt8) : List Char :=
  let sum := s.method.sum s.length bytes
  if s.isRaw then Octets.ofBytes sum
  else if s.method.isNumber then
    let n := Digest.ofBigBytes sum
    let blocks (size : Nat) : Nat := (bytes.length + size - 1) / size
    let pad (width : Nat) (filler : Char) (n : Nat) : List Char :=
      let ds := Nat.toDigits 10 n
      List.replicate (width - ds.length) filler ++ ds
    let numbers :=
      match s.method with
      | .bsd => pad 5 '0' n ++ ' ' :: pad 5 ' ' (blocks 1024)
      | .sysv => pad 0 ' ' n ++ ' ' :: pad 0 ' ' (blocks 512)
      | _ => pad 0 ' ' n ++ ' ' :: pad 0 ' ' bytes.length
    numbers ++ (if isNamed then ' ' :: file.toList else []) ++ [s.close]
  else
    let (name, isEscaped) := if s.close = '\n' then escapedName file else (file, false)
    let shown :=
      if s.inBase64 then (Encoding.base64.encode? sum).getD []
      else (Digest.hexadecimal sum).toList
    let length :=
      if s.method = .blake2b && s.length < 64 then s!"-{s.length * 8}" else ""
    let text :=
      if s.tagged then s!"{s.method.tag}{length} ({name}) = ".toList ++ shown
      else shown ++ [' ', if s.binary then '*' else ' '] ++ name.toList
    (if isEscaped then ['\\'] else []) ++ text ++ [s.close]

/-- A line of a list: the method, its length and the sum of a file. -/
structure Entry where
  method : Method
  length : Nat
  sum : List Char
  file : String

def isWhite (c : Char) : Bool := c == ' ' || c == '\t'

/-- Whether a text is a sum of some length. -/
def isSum (inBase64 : Bool) (length : Nat) (cs : List Char) : Bool :=
  if inBase64 && cs.length = (length + 2) / 3 * 4 then
    let rest := cs.dropWhile Encoding.base64.digits.contains
    rest.length = (3 - length % 3) % 3 && rest.all (· == '=')
  else cs.length = 2 * length && cs.all fun c => (c.isDigit || ('a' ≤ c.toLower && c.toLower ≤ 'f'))

/-- Reads what stands behind a method: a file in parentheses and its sum. -/
def tagged? (inBase64 isEscaped : Bool) (m : Method) (length : Nat) (cs : List Char) :
    Option Entry := do
  let front := (cs.reverse.dropWhile (· != ')')).tail.reverse
  if !cs.contains ')' then none
  else
    let name ← if isEscaped then unescaped? front else some front
    match (cs.drop (front.length + 1)).dropWhile isWhite with
    | '=' :: rest =>
      let sum := rest.dropWhile isWhite
      if isSum inBase64 length sum then some ⟨m, length, sum, String.ofList name⟩ else none
    | _ => none

/-- The way a list keeps sums and files apart, once it is known. -/
inductive Separation
  | unknown
  | blanks
  | single
  deriving DecidableEq, Repr

/-- Reads a line of a list. Without a fixed method the line names it. -/
def entry? (fixed : Option Method) (inBase64 : Bool) (kind : Separation) (line : List Char) :
    Option Entry × Separation :=
  let cs := line.dropWhile isWhite
  let (isEscaped, cs) :=
    match cs with
    | '\\' :: rest => (true, rest)
    | _ => (false, cs)
  let namedMethod : Option Method :=
    match fixed with
    | some m => if m.tag.toList.isPrefixOf cs then some m else none
    | none => ((methods.map Prod.snd).filter fun m => m.tag.toList.isPrefixOf cs).getLast?
  match namedMethod with
  | some m =>
    let cs := cs.drop m.tag.length
    if fixed.isNone && m.isNumber then (none, kind)
    else
      let (length, cs) : Option Nat × List Char :=
        match m, cs with
        | .blake2b, '-' :: rest =>
          let ds := rest.takeWhile Char.isDigit
          let bits := Nat.ofDigitChars 10 ds 0
          (if 0 < bits && bits ≤ 512 && bits % 8 = 0 then some (bits / 8) else none,
            rest.drop ds.length)
        | m, cs => (some m.length, cs)
      let cs := if cs.head? == some ' ' then cs.tail else cs
      match length, cs with
      | some length, '(' :: rest => (tagged? inBase64 isEscaped m length rest, kind)
      | _, _ => (none, kind)
  | none =>
    match fixed with
    | none => (none, kind)
    | some m =>
      let sum := cs.takeWhile fun c => !isWhite c
      let digits := cs.takeWhile fun c => c.isDigit || ('a' ≤ c.toLower && c.toLower ≤ 'f')
      let length := if m = .blake2b then digits.length / 2 else m.length
      let least := if m = .blake2b || inBase64 then 3 else 2 * m.length + 3
      let fits := m != .blake2b || (digits.length % 2 = 0 && 2 ≤ digits.length && length ≤ 64)
      let rest := cs.drop (sum.length + 1)
      if cs.length + 1 < least || !fits || sum.length = cs.length || !isSum inBase64 length sum then
        (none, kind)
      else
        let isSingle := rest.length = 1 || !(rest.head?.any fun c => c == ' ' || c == '*')
        if isSingle && kind = .blanks then (none, kind)
        else
          let kind := if isSingle then .single else if kind = .single then .single else .blanks
          let name := if kind = .single then rest else rest.tail
          let name := if isEscaped then unescaped? name else some name
          (name.map fun name => ⟨m, length, sum, String.ofList name⟩, kind)

/-- How lists are checked: whether results are shown at all, good ones too, with warnings for lines
that are wrong; whether such lines count; and whether missing files are passed over. -/
structure Check where
  fixed : Option Method
  inBase64 : Bool
  status : Bool
  quiet : Bool
  warn : Bool
  strict : Bool
  ignoresMissing : Bool

/-- What was found in a list. -/
structure Found where
  kind : Separation
  right : Nat
  wrongLines : Nat
  unreadable : Nat
  mismatched : Nat
  matching : Nat

/-- The bytes of a file that is summed up, or a complaint. Nothing is given back for one that is
passed over since it is missing. -/
def bytesOf (self : String) (ignoresMissing : Bool) (file : String) :
    Run (Except Unit (Option (List UInt8))) := do
  match ← contents file with
  | .ok cs => pure (.ok (some (Octets.toBytes cs)))
  | .error fault =>
    if ignoresMissing && fault = .missing then pure (.ok none)
    else do
      cannotRead self file fault
      pure (.error ())

/-- Checks a file against its sum in a list. -/
def checkEntry (self : String) (c : Check) (f : Found) (e : Entry) : Run Found := do
  let report (result : String) : Run Unit := do
    let (name, isEscaped) := if c.status then (e.file, false) else escapedName e.file
    let lead := if isEscaped then "\\" else ""
    putText self s!"{lead}{name}: {result}\n"
  let f := { f with right := f.right + 1 }
  match ← bytesOf self c.ignoresMissing e.file with
  | .error () => do
    if !c.status then report "FAILED open or read"
    pure { f with unreadable := f.unreadable + 1 }
  | .ok none => pure f
  | .ok (some bytes) => do
    let sum := e.method.sum e.length bytes
    let isEqual :=
      (Digest.hexadecimal sum).toList == e.sum.map Char.toLower
        || (c.inBase64 && Encoding.base64.encode? sum == some e.sum)
    if isEqual then do
      if !c.status && !c.quiet then report "OK"
      pure { f with matching := f.matching + 1 }
    else do
      if !c.status then report "FAILED"
      pure { f with mismatched := f.mismatched + 1 }

/-- Checks the files of a list; whether all is well. -/
def checkList (self tag : String) (c : Check) (list : String) : Run Bool := do
  let name ← if list = "-" then pure "'standard input'" else shellName false list
  match ← contents list with
  | .error .isDirectory => do
    complain self s!"{name}: read error"
    pure false
  | .error .badStream => do
    complain self s!"{name}: read error"
    pure false
  | .error fault => do
    cannotRead self list fault
    pure false
  | .ok cs => do
    let f ← (linesUpTo '\n' cs).zipIdx.foldlM
      (fun (f : Found) (line, i) => do
        let line := if line.getLast? == some '\r' then line.dropLast else line
        if line.head? == some '#' || line.isEmpty then pure f
        else do
          let (entry, kind) := entry? c.fixed c.inBase64 f.kind line
          let f := { f with kind }
          match entry.filter fun e => !(list == "-" && e.file == "-") with
          | some e => checkEntry self c f e
          | none => do
            if c.warn then
              complain self s!"{name}: {i + 1}: improperly formatted {tag} checksum line"
            pure { f with wrongLines := f.wrongLines + 1 })
      ⟨.unknown, 0, 0, 0, 0, 0⟩
    let warning (count : Nat) (one many : String) : Run Unit :=
      if count = 0 then pure ()
      else if count = 1 then complain self s!"WARNING: 1 {one}"
      else complain self s!"WARNING: {count} {many}"
    if f.right = 0 then complain self s!"{name}: no properly formatted checksum lines found"
    else if c.status then pure ()
    else do
      warning f.wrongLines "line is improperly formatted" "lines are improperly formatted"
      warning f.unreadable "listed file could not be read" "listed files could not be read"
      warning f.mismatched "computed checksum did NOT match" "computed checksums did NOT match"
      if c.ignoresMissing && f.matching = 0 then complain self s!"{name}: no file was verified"
    pure (0 < f.matching && f.mismatched = 0 && f.unreadable = 0
      && (!c.strict || f.wrongLines = 0))

/-- Complains when input was used that cannot be closed. -/
def closeStandardInput (self : String) (files : List String) : Run Bool := do
  if files.contains "-" && (← lacksInput) then
    fails self s!"standard input: {Fault.badStream.reason}"
  else pure false

end Checksum

open Checksum in
/-- Sums of files by one method, or by one that an option names. -/
def checksumWith (own : Option Method) : Body := fun self args => do
  let chooses := own.isNone
  let letters :=
    "bctwz\x01\x02\x03\x04\x05" ++ (if chooses then "a:\x06\x07\x0b\x0e" else "")
      ++ (if chooses || own == some .blake2b then "l:" else "")
  let words := [("check", 'c'), ("ignore-missing", '\x01'), ("quiet", '\x02'), ("status", '\x03'),
      ("warn", 'w'), ("strict", '\x04'), ("tag", '\x05'), ("zero", 'z'), ("binary", 'b'),
      ("text", 't')]
    ++ (if chooses then
      [("algorithm", 'a'), ("untagged", '\x06'), ("raw", '\x07'), ("base64", '\x0b'),
        ("debug", '\x0e')]
      else [])
    ++ if chooses || own == some .blake2b then [("length", 'l')] else []
  let a ← arguments self (.ofText letters words) 1 args
  let values ← (a.options.filter fun o => o.1 == 'a' || o.1 == 'l').mapM fun (c, v) => do
    if c = 'a' then do return (some (← exactChoice self "--algorithm" v methods), none)
    else do
      let n ← natural self "invalid length" "" 0 v
      if n % 8 != 0 then do
        complain self s!"invalid length: {← named v}"
        complain self "length is not a multiple of 8"
        quit 1
      else pure ((none : Option Method), some (n, v))
  let specified := (values.filterMap Prod.fst).getLast?
  let method := own.getD (specified.getD .crc)
  let (bits, bitsText) := ((values.filterMap Prod.snd).getLast?).getD (0, "")
  if bits != 0 && method != .blake2b then do
    complain self "--length is only supported with --algorithm=blake2b"
    quit 1
  if 512 < bits then do
    complain self s!"invalid length: {← named bitsText}"
    let kind ← named Method.blake2b.tag
    complain self s!"maximum digest length for {kind} is 512 bits"
    quit 1
  let length := if bits = 0 then method.length else bits / 8
  let checks := a.has 'c'
  if checks && specified.any Method.isNumber then do
    complain self "--check is not supported with --algorithm=\x7bbsd,sysv,crc\x7d"
    quit 1
  let isRaw := a.has '\x07'
  let inBase64 := a.has '\x0b'
  if isRaw && inBase64 then misuse self "--base64 and --raw are mutually exclusive" 1
  let tagged := ((lastOf a ['\x05', '\x06']).map (· == '\x05')).getD chooses
  let binary := (lastOf a ['b', 't', '\x05']).map (· != 't')
  if tagged && binary == some false then
    misuse self
      (if chooses then "--text mode is only supported with --untagged"
        else "--tag does not support --text mode") 1
  let close := if a.has 'z' then '\x00' else '\n'
  if a.has 'z' && checks then
    misuse self "the --zero option is not supported when verifying checksums" 1
  if !chooses && tagged && checks then
    misuse self "the --tag option is meaningless when verifying checksums" 1
  if binary.isSome && checks then
    misuse self "the --binary and --text options are meaningless when verifying checksums" 1
  let mood := lastOf a ['\x02', '\x03', 'w']
  let onlyChecking : List (String × Bool) :=
    [("ignore-missing", a.has '\x01'), ("status", mood == some '\x03'), ("warn", mood == some 'w'),
      ("quiet", mood == some '\x02'), ("strict", a.has '\x04')]
  match onlyChecking.find? fun o => o.2 && !checks with
  | some o => misuse self s!"the --{o.1} option is meaningful only when verifying checksums" 1
  | none => pure ()
  let files := inputs a
  if isRaw && 1 < a.operands.length then do
    complain self "the --raw option is not supported with multiple files"
    quit 1
  let failed ←
    if checks then
      let c : Check :=
        { fixed := if chooses then specified else own, inBase64 := chooses
          status := mood == some '\x03', quiet := mood == some '\x02', warn := mood == some 'w'
          strict := a.has '\x04', ignoresMissing := a.has '\x01' }
      anyFails files fun list => do return !(← checkList self method.tag c list)
    else
      let s : Style := ⟨method, length, isRaw, inBase64, tagged, binary.getD false, close⟩
      anyFails files fun file => do
        match ← bytesOf self false file with
        | .ok bytes => do
          put self (s.line file (!a.operands.isEmpty) (bytes.getD []))
          pure false
        | .error () => pure true
  return statusOf ((← closeStandardInput self files) || failed)

open Checksum in
/-- Short sums of files with the number of their blocks. -/
def sum : Body := fun self args => do
  let a ← arguments self (.ofText "rs" [("sysv", 's')]) 1 args
  let method : Method := if lastOf a ['r', 's'] == some 's' then .sysv else .bsd
  let s : Style := ⟨method, 2, false, false, false, false, '\n'⟩
  let files := inputs a
  let failed ← anyFails files fun file => do
    match ← bytesOf self false file with
    | .ok bytes => do
      put self (s.line file (!a.operands.isEmpty) (bytes.getD []))
      pure false
    | .error () => pure true
  return statusOf ((← closeStandardInput self files) || failed)

end CredoAssistant.Shell.Program
