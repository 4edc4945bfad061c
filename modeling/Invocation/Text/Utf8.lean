/-!
# UTF-8 with repair

Bytes are decoded by a machine that is fed one byte at a time, so decoding a
stream in pieces and decoding it whole are the same fold.  Every maximal run of
bytes that starts a character without finishing it, and every byte that starts
none, becomes one replacement character; nothing is rejected.
-/

namespace Invocation.Text.Utf8

/-- The character that stands for bytes that are not UTF-8. -/
def replacement : Char := '\uFFFD'

/-- A character whose first bytes have been read. -/
structure Pending where
  /-- The bits collected so far. -/
  bits : Nat
  /-- How many continuation bytes follow the next one. -/
  further : Nat
  /-- The least value the next byte may have. -/
  least : UInt8
  /-- The greatest value the next byte may have. -/
  greatest : UInt8
  deriving DecidableEq, Repr

/-- What a byte means where a character may start. -/
inductive Start where
  | whole (c : Char)
  | lead (p : Pending)
  | invalid

/-- Reads a first byte.  The ranges exclude overlong forms, surrogates and
values above `0x10FFFF`. -/
def start (b : UInt8) : Start :=
  let n := b.toNat
  if n < 0x80 then .whole (Char.ofNat n)
  else if n < 0xC2 then .invalid
  else if n < 0xE0 then .lead ⟨n - 0xC0, 0, 0x80, 0xBF⟩
  else if n = 0xE0 then .lead ⟨0, 1, 0xA0, 0xBF⟩
  else if n = 0xED then .lead ⟨0xD, 1, 0x80, 0x9F⟩
  else if n < 0xF0 then .lead ⟨n - 0xE0, 1, 0x80, 0xBF⟩
  else if n = 0xF0 then .lead ⟨0, 2, 0x90, 0xBF⟩
  else if n < 0xF4 then .lead ⟨n - 0xF0, 2, 0x80, 0xBF⟩
  else if n = 0xF4 then .lead ⟨4, 2, 0x80, 0x8F⟩
  else .invalid

/-- The decoder between two bytes: the characters read, the latest first, and
the character that is still open. -/
structure Decoder where
  read : List Char := []
  pending : Option Pending := none

/-- Takes a byte where no character is open. -/
def Decoder.begin (read : List Char) (b : UInt8) : Decoder :=
  match start b with
  | .whole c => ⟨c :: read, none⟩
  | .lead p => ⟨read, some p⟩
  | .invalid => ⟨replacement :: read, none⟩

/-- Takes one byte.  A byte that cannot continue the open character closes it
as damaged and is read again as a first byte. -/
def Decoder.feed (d : Decoder) (b : UInt8) : Decoder :=
  match d.pending with
  | none => .begin d.read b
  | some p =>
    if p.least ≤ b ∧ b ≤ p.greatest then
      let bits := p.bits * 64 + (b.toNat - 0x80)
      match p.further with
      | 0 => ⟨Char.ofNat bits :: d.read, none⟩
      | further + 1 => ⟨d.read, some ⟨bits, further, 0x80, 0xBF⟩⟩
    else .begin (replacement :: d.read) b

/-- The characters decoded, a character left open at the end being damaged. -/
def Decoder.finish (d : Decoder) : List Char :=
  match d.pending with
  | none => d.read.reverse
  | some _ => (replacement :: d.read).reverse

/-- The text of a sequence of bytes, repaired where it is not UTF-8. -/
def decode (bytes : List UInt8) : String :=
  String.ofList (bytes.foldl Decoder.feed {}).finish

/-- The bytes of a list of characters. -/
def encodeChars (cs : List Char) : List UInt8 :=
  cs.flatMap String.utf8EncodeChar

/-- The bytes of a text. -/
def encode (s : String) : List UInt8 :=
  encodeChars s.toList

/-- The text of bytes that need no repair. -/
def decode? (bytes : List UInt8) : Option String :=
  let s := decode bytes
  if encode s = bytes then some s else none

/-- How many bytes a list of characters takes. -/
def size (cs : List Char) : Nat :=
  cs.foldl (fun n c => n + c.utf8Size) 0

/-- Feeding two pieces in turn is feeding them joined. -/
theorem foldl_feed_append (d : Decoder) (xs ys : List UInt8) :
    (xs ++ ys).foldl Decoder.feed d =
      ys.foldl Decoder.feed (xs.foldl Decoder.feed d) := by
  simp

end Invocation.Text.Utf8
