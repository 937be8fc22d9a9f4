/-!
Text as bytes. `encode` and `decode?` are the strict pair; `decodeLossy` reads any bytes and puts
the replacement character where they are not text. Main statement: decoding takes encoded text
back to itself.
-/

namespace Courier

abbrev Bytes := List UInt8

namespace Utf8

def encode (text : String) : Bytes :=
  text.toByteArray.data.toList

def decode? (bytes : Bytes) : Option String :=
  String.fromUTF8? ⟨bytes.toArray⟩

@[simp] theorem decode?_encode (text : String) : decode? (encode text) = some text := by
  have whole : (⟨(encode text).toArray⟩ : ByteArray) = text.toByteArray := by
    simp [encode]
  rw [decode?, whole, String.fromUTF8?, dif_pos text.isValidUTF8]
  rfl

/-- A character that has begun: the bytes it still needs, the least and greatest value of the
next one, and the bits collected. -/
structure Pending where
  owed : Nat
  low : UInt8 := 0x80
  high : UInt8 := 0xBF
  bits : Nat

/-- What a byte does between characters: it is a character, begins one, or belongs to none. -/
inductive Lead where
  | whole (char : Char)
  | opens (pending : Pending)
  | stray

/-- The lead bytes of the standard's table of well-formed sequences. -/
def Lead.ofByte (byte : UInt8) : Lead :=
  let value := byte.toNat
  if value ≤ 0x7F then .whole (Char.ofNat value)
  else if 0xC2 ≤ value ∧ value ≤ 0xDF then .opens { owed := 1, bits := value % 0x20 }
  else if value = 0xE0 then .opens { owed := 2, low := 0xA0, bits := 0 }
  else if value = 0xED then .opens { owed := 2, high := 0x9F, bits := 0xD }
  else if 0xE1 ≤ value ∧ value ≤ 0xEF then .opens { owed := 2, bits := value % 0x10 }
  else if value = 0xF0 then .opens { owed := 3, low := 0x90, bits := 0 }
  else if value = 0xF4 then .opens { owed := 3, high := 0x8F, bits := 4 }
  else if 0xF1 ≤ value ∧ value ≤ 0xF3 then .opens { owed := 3, bits := value % 8 }
  else .stray

/-- Stands for every run of bytes that is no character. -/
def replacement : Char := '\uFFFD'

def lossyChars : Option Pending → Bytes → List Char
  | none, [] => []
  | some _, [] => [replacement]
  | pending, byte :: rest =>
    let fresh : List Char :=
      match Lead.ofByte byte with
      | .whole char => char :: lossyChars none rest
      | .opens next => lossyChars (some next) rest
      | .stray => replacement :: lossyChars none rest
    match pending with
    | none => fresh
    | some { owed, low, high, bits } =>
      if low ≤ byte ∧ byte ≤ high then
        let bits := bits * 0x40 + byte.toNat % 0x40
        if owed ≤ 1 then Char.ofNat bits :: lossyChars none rest
        else lossyChars (some { owed := owed - 1, bits }) rest
      else replacement :: fresh

/-- The text of the bytes. Every longest run of bytes that begins a character and is then broken
off, and every other byte that belongs to no character, reads as one replacement character. -/
def decodeLossy (bytes : Bytes) : String :=
  String.ofList (lossyChars none bytes)

end Utf8

end Courier
