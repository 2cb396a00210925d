/-!
# Bytes as text

File names and file contents are bytes. Where they spell text they are read as UTF-8, and
where they have to be shown although they do not, each maximal prefix of a character that
the next byte breaks off, and each byte that starts no character, is shown as U+FFFD.
-/

namespace Prebuild.Text

/-- The bytes of a text. -/
def encode (s : String) : List UInt8 := s.toUTF8.data.toList

/-- The text that the bytes spell, if they are UTF-8. -/
def decode? (bytes : List UInt8) : Option String := String.fromUTF8? ⟨bytes.toArray⟩

/-- A character of which some bytes are still owed: its value so far, how many bytes are
owed, and the range in which the next of them must lie. -/
structure Partial where
  value : Nat
  owed : Nat
  low : UInt8
  high : UInt8

/-- What a byte can be between two characters. -/
inductive Lead where
  | char (c : Char)
  | opens (p : Partial)
  | stray

/-- The ranges of second bytes leave out overlong forms, surrogates and values beyond the
last code point. -/
def Lead.ofByte (b : UInt8) : Lead :=
  if b < 0x80 then .char (Char.ofNat b.toNat)
  else if b < 0xC2 then .stray
  else if b < 0xE0 then .opens ⟨b.toNat - 0xC0, 1, 0x80, 0xBF⟩
  else if b = 0xE0 then .opens ⟨0, 2, 0xA0, 0xBF⟩
  else if b = 0xED then .opens ⟨0xD, 2, 0x80, 0x9F⟩
  else if b < 0xF0 then .opens ⟨b.toNat - 0xE0, 2, 0x80, 0xBF⟩
  else if b = 0xF0 then .opens ⟨0, 3, 0x90, 0xBF⟩
  else if b < 0xF4 then .opens ⟨b.toNat - 0xF0, 3, 0x80, 0xBF⟩
  else if b = 0xF4 then .opens ⟨4, 3, 0x80, 0x8F⟩
  else .stray

/-- What a further byte makes of a character, unless the byte breaks it off. -/
def Partial.next? (p : Partial) (b : UInt8) : Option Lead :=
  if p.low ≤ b ∧ b ≤ p.high then
    let value := p.value * 64 + (b.toNat - 0x80)
    some (if p.owed ≤ 1 then .char (Char.ofNat value) else .opens ⟨value, p.owed - 1, 0x80, 0xBF⟩)
  else none

/-- Stands for bytes that spell no character. -/
def replacement : Char := '\uFFFD'

/-- The characters of a byte sequence, given the character that is already begun. -/
def showChars : Option Partial → List UInt8 → List Char
  | none, [] => []
  | some _, [] => [replacement]
  | begun, b :: bs =>
    let continued := begun.bind (·.next? b)
    let broken := begun.isSome && continued.isNone
    (if broken then [replacement] else []) ++
      match continued.getD (Lead.ofByte b) with
      | .char c => c :: showChars none bs
      | .opens p => showChars (some p) bs
      | .stray => replacement :: showChars none bs

/-- The text shown for bytes, whatever they are. -/
def display (bytes : List UInt8) : String := String.ofList (showChars none bytes)

end Prebuild.Text
