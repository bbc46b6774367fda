import CredoAssistant.Document
import CredoAssistant.Json.Reader
import CredoAssistant.Proofs.Path
import CredoAssistant.Proofs.Text.Utf8
import Mathlib.Tactic.Tauto

/-!
What the uri of a document identifies. Percent encoding is read back: an encoded text is made of
unreserved characters, slashes and escapes, and decoding it gives the bytes of the text that was
encoded, whatever characters that text holds.

Without links, the document of a path has the place that the path leads to as its identity: two
paths, each seen from its own directory, have one uri when they lead to one place, and different
uris otherwise.
-/
namespace CredoAssistant.Percent

/-! ### Encoded texts -/

/-- Letters and digits of ASCII, four marks, and the slash between the parts of a path. -/
def Plain (c : Char) : Prop :=
  'a' ≤ c ∧ c ≤ 'z' ∨ 'A' ≤ c ∧ c ≤ 'Z' ∨ '0' ≤ c ∧ c ≤ '9' ∨ c ∈ ['-', '.', '_', '~', '/']

/-- Texts of plain characters and of escapes with two upper-case digits. -/
inductive Escaped : List Char → Prop
  | nil : Escaped []
  | plain {c : Char} {rest : List Char} (stands : Plain c) (behind : Escaped rest) :
      Escaped (c :: rest)
  | escape {high low : Char} {rest : List Char} (first : high ∈ "0123456789ABCDEF".toList)
      (second : low ∈ "0123456789ABCDEF".toList) (behind : Escaped rest) :
      Escaped ('%' :: high :: low :: rest)

/-- The bytes of an encoded text: two digits behind a percent sign are one byte, any other character
stands for its own bytes. -/
def decode : List Char → List UInt8
  | [] => []
  | '%' :: high :: low :: rest =>
    match Json.hexDigit? high, Json.hexDigit? low with
    | some n, some k => UInt8.ofNat (n * 16 + k) :: decode rest
    | _, _ => Utf8.encodeChar '%' ++ decode (high :: low :: rest)
  | c :: rest => Utf8.encodeChar c ++ decode rest

theorem isUnreserved_iff {c : Char} : isUnreserved c = true ↔ Plain c := by
  simp only [isUnreserved, Plain, Bool.or_eq_true, Bool.and_eq_true, decide_eq_true_eq, beq_iff_eq,
    List.mem_cons, List.not_mem_nil, or_false]
  tauto

theorem percent_not_plain : ¬ Plain '%' := by
  unfold Plain
  decide

theorem hexDigit_mem : ∀ n < 16, hexDigit n ∈ "0123456789ABCDEF".toList := by decide

theorem hexDigit?_hexDigit : ∀ n < 16, Json.hexDigit? (hexDigit n) = some n := by decide

theorem decode_plain {c : Char} (plain : Plain c) (rest : List Char) :
    decode (c :: rest) = Utf8.encodeChar c ++ decode rest := by
  have other : c ≠ '%' := fun percent => percent_not_plain (percent ▸ plain)
  rw [decode]
  rintro _ _ _ rfl
  exact absurd rfl other

theorem decode_escape {n k : Nat} (first : n < 16) (second : k < 16) (rest : List Char) :
    decode ('%' :: hexDigit n :: hexDigit k :: rest) = UInt8.ofNat (n * 16 + k) :: decode rest := by
  rw [decode, hexDigit?_hexDigit n first, hexDigit?_hexDigit k second]

/-! ### Bytes -/

/-- A byte is encoded as the character that it is, where this one is plain, and as an escape
elsewhere. -/
theorem encodeByte_cases (b : UInt8) :
    (b.toNat < 0x80 ∧ Plain (Char.ofNat b.toNat) ∧ encodeByte b = [Char.ofNat b.toNat]) ∨
      encodeByte b = ['%', hexDigit (b.toNat / 16), hexDigit (b.toNat % 16)] := by
  unfold encodeByte
  dsimp only
  split
  · rename_i stands
    rw [Bool.and_eq_true, decide_eq_true_eq, isUnreserved_iff] at stands
    exact .inl ⟨stands.1, stands.2, rfl⟩
  · exact .inr rfl

theorem escaped_encodeByte (b : UInt8) {rest : List Char} (behind : Escaped rest) :
    Escaped (encodeByte b ++ rest) := by
  have small := b.toNat_lt
  rcases encodeByte_cases b with ⟨-, plain, alone⟩ | escape
  · rw [alone]
    exact .plain plain behind
  · rw [escape]
    exact .escape (hexDigit_mem _ (by omega)) (hexDigit_mem _ (by omega)) behind

theorem decode_encodeByte (b : UInt8) (rest : List Char) :
    decode (encodeByte b ++ rest) = b :: decode rest := by
  have small := b.toNat_lt
  rcases encodeByte_cases b with ⟨ascii, plain, alone⟩ | escape
  · rw [alone, List.singleton_append, decode_plain plain, Utf8.encodeChar_one ascii]
    rfl
  · have whole : UInt8.ofNat (b.toNat / 16 * 16 + b.toNat % 16) = b := by
      rw [Nat.div_add_mod']
      exact b.ofNat_toNat
    rw [escape]
    exact (decode_escape (by omega) (by omega) rest).trans (by rw [whole])

/-! ### Texts -/

theorem escaped_encode (s : String) : Escaped (encode s).toList := by
  rw [encode, String.toList_ofList]
  induction Utf8.encode s.toList with
  | nil => exact .nil
  | cons b bytes ih => exact escaped_encodeByte b ih

theorem decode_encode (s : String) : decode (encode s).toList = Utf8.encode s.toList := by
  rw [encode, String.toList_ofList]
  induction Utf8.encode s.toList with
  | nil => rfl
  | cons b bytes ih => rw [List.flatMap_cons, decode_encodeByte, ih]

/-- Different texts are encoded differently, whatever percent signs they hold. -/
theorem encode_injective : Function.Injective encode := by
  intro s t same
  have bytes : Utf8.encode s.toList = Utf8.encode t.toList := by
    rw [← decode_encode, ← decode_encode, same]
  have read : Utf8.decode (Utf8.encode s.toList) = .ok t.toList := by
    rw [bytes, Utf8.decode_encode]
  rw [Utf8.decode_encode] at read
  exact String.toList_injective (Except.ok.inj read)

example : encode "a%2F é" = "a%252F%20%C3%A9" := by decide

theorem encode_append (s t : String) : encode (s ++ t) = encode s ++ encode t := by
  rw [encode, String.toList_append, Utf8.encode, List.flatMap_append, List.flatMap_append,
    String.ofList_append]
  rfl

end CredoAssistant.Percent

namespace CredoAssistant.Document

/-! ### Uris of places -/

theorem uriOf_eq (place : List String) :
    uriOf place = "file://" ++ Percent.encode (Path.absolute place) := by
  have slash : Percent.encode "/" = "/" := by decide
  rw [uriOf, Path.absolute, Percent.encode_append, slash, ← String.append_assoc]
  rfl

theorem uriOf_injective {place other : List String} (names : ∀ name ∈ place, Path.IsName name)
    (names' : ∀ name ∈ other, Path.IsName name) (same : uriOf place = uriOf other) :
    place = other := by
  rw [uriOf_eq, uriOf_eq, String.append_right_inj] at same
  exact Path.absolute_injective names names' (Percent.encode_injective same)

/-! ### Documents of paths -/

/-- A path and the absolute directory that it is seen from, both without null characters. -/
structure Seen (root path : String) : Prop where
  absolute : root.toList.head? = some '/'
  root : '\x00' ∉ root.toList
  path : '\x00' ∉ path.toList

instance (root path : String) : Decidable (Seen root path) :=
  decidable_of_iff
    (root.toList.head? = some '/' ∧ '\x00' ∉ root.toList ∧ '\x00' ∉ path.toList)
    ⟨fun ⟨absolute, root, path⟩ => ⟨absolute, root, path⟩,
      fun seen => ⟨seen.absolute, seen.root, seen.path⟩⟩

variable {root path : String}

/-- The document of a path is that of the place where the parts of its text lead. -/
theorem ofPath?_of_leads (seen : Seen root path) {place : List String}
    (leads : Path.Leads (Path.split (Path.seenFrom root path)) place) :
    ofPath? [] (.ofText root) path = some ⟨path, uriOf place⟩ := by
  have clean := Path.hasNull_join (Path.hasNull_ofText seen.root) (Path.hasNull_ofText seen.path)
  rw [ofPath?, clean, Path.parts_join, ← Path.leads_iff.mp leads]
  rfl

/-- The text of a place has the document of that place, wherever it is seen from. -/
theorem ofPath?_absolute (root : Path) {place : List String}
    (names : ∀ name ∈ place, Path.IsName name) (clean : '\x00' ∉ (Path.absolute place).toList) :
    ofPath? [] root (Path.absolute place) = some ⟨Path.absolute place, uriOf place⟩ := by
  have front : (Path.ofText (Path.absolute place)).isAbsolute = true := by
    rw [Path.isAbsolute_ofText_iff, Path.absolute, String.toList_append]
    rfl
  have back : Path.resolve [] (Path.ofText (Path.absolute place)).parts = place :=
    (Path.leads_iff.mp (Path.leads_absolute names)).symm
  rw [ofPath?, Path.join, if_pos front, Path.hasNull_ofText clean, back]
  rfl

/-- What the document of a path says about a place: it keeps the path as it is written, the place is
the one to which the path leads, and the uri is the encoded text of the place, from which the same
uri is found again. -/
structure Identifies (root path : String) (d : Document) (place : List String) : Prop where
  written : d.path = path
  rooted : (Path.seenFrom root path).toList.head? = some '/'
  leads : ∀ other,
    (∃ parts, Path.Parts (Path.seenFrom root path) parts ∧ Path.Leads parts other) ↔ other = place
  uri : ∃ body, d.uri = "file://" ++ body ∧ Percent.Escaped body.toList ∧
    Percent.decode body.toList = Utf8.encode (Path.absolute place).toList
  again : ∀ root', ofPath? [] root' (Path.absolute place) = some ⟨Path.absolute place, d.uri⟩

theorem identifies (seen : Seen root path) {place : List String}
    (leads : Path.Leads (Path.split (Path.seenFrom root path)) place) :
    Identifies root path ⟨path, uriOf place⟩ place := by
  have whole : Path.Parts (Path.seenFrom root path) _ := Path.parts_iff.mpr rfl
  have names := leads.names whole
  constructor
  case written => rfl
  case rooted => exact Path.head?_seenFrom seen.absolute path
  case leads =>
    intro other
    constructor
    · rintro ⟨parts, known, there⟩
      rw [Path.leads_iff.mp leads, Path.leads_iff.mp there, Path.parts_iff.mp known]
    · rintro rfl
      exact ⟨_, whole, leads⟩
  case uri =>
    exact ⟨_, uriOf_eq place, Percent.escaped_encode _, Percent.decode_encode _⟩
  case again =>
    intro root'
    refine ofPath?_absolute root' names (Path.null_notMem_absolute fun name inside => ?_)
    exact Path.null_notMem_of_split (Path.null_notMem_seenFrom seen.root seen.path)
      (leads.proper inside).1

/-! ### One identity for one place -/

/-- Two documents have one uri exactly when their paths lead to one place. -/
theorem uri_eq_iff_place_eq {root₁ path₁ root₂ path₂ : String} (first : Seen root₁ path₁)
    (second : Seen root₂ path₂) :
    ∃ d₁ d₂ place₁ place₂,
      ofPath? [] (.ofText root₁) path₁ = some d₁ ∧ Identifies root₁ path₁ d₁ place₁ ∧
      ofPath? [] (.ofText root₂) path₂ = some d₂ ∧ Identifies root₂ path₂ d₂ place₂ ∧
      (d₁.uri = d₂.uri ↔ place₁ = place₂) := by
  have leads₁ := Path.leads_resolve (Path.split (Path.seenFrom root₁ path₁))
  have leads₂ := Path.leads_resolve (Path.split (Path.seenFrom root₂ path₂))
  have names₁ := leads₁.names (Path.parts_iff.mpr rfl)
  have names₂ := leads₂.names (Path.parts_iff.mpr rfl)
  refine ⟨_, _, _, _, ofPath?_of_leads first leads₁, identifies first leads₁,
    ofPath?_of_leads second leads₂, identifies second leads₂, ?_⟩
  exact ⟨uriOf_injective names₁ names₂, fun same => congrArg uriOf same⟩

theorem uri_eq_iff_place_eq_respelled :
    Seen "//proj/./x/.." "lib/../a%2F é.ex" ∧ Seen "/srv" "/../proj//a%2F é.ex" ∧
    ∃ d₁ d₂ place₁ place₂,
      ofPath? [] (.ofText "//proj/./x/..") "lib/../a%2F é.ex" = some d₁ ∧
      Identifies "//proj/./x/.." "lib/../a%2F é.ex" d₁ place₁ ∧
      ofPath? [] (.ofText "/srv") "/../proj//a%2F é.ex" = some d₂ ∧
      Identifies "/srv" "/../proj//a%2F é.ex" d₂ place₂ ∧
      (d₁.uri = d₂.uri ↔ place₁ = place₂) :=
  ⟨by decide, by decide, uri_eq_iff_place_eq (by decide) (by decide)⟩

example : ofPath? [] (.ofText "//proj/./x/..") "lib/../a%2F é.ex" =
    some ⟨"lib/../a%2F é.ex", "file:///proj/a%252F%20%C3%A9.ex"⟩ := by decide

example : ofPath? [] (.ofText "/srv") "/../proj//a%2F é.ex" =
    some ⟨"/../proj//a%2F é.ex", "file:///proj/a%252F%20%C3%A9.ex"⟩ := by decide

end CredoAssistant.Document
