import Courier.Proofs.Json.Reads
/-!
The bytes of a text. A byte below the others is a character by itself, and the only way to write
that character. Main statement: no two texts have the same bytes.
-/

namespace Courier.Utf8

theorem encode_injective : Function.Injective encode := by
  intro left right same
  have read := congrArg decode? same
  rw [decode?_encode, decode?_encode] at read
  exact Option.some.inj read

theorem toNat_ofNat_of_ascii {byte : UInt8} (ascii : byte < 0x80) :
    (Char.ofNat byte.toNat).toNat = byte.toNat := by
  have all : ∀ value : Fin 128, (Char.ofNat value).toNat = value := by decide
  exact all ⟨byte.toNat, UInt8.lt_iff_toNat_lt.mp ascii⟩

theorem encode_toString_of_ascii {byte : UInt8} (ascii : byte < 0x80) :
    encode (Char.ofNat byte.toNat).toString = [byte] := by
  have small : byte.toNat < 0x80 := UInt8.lt_iff_toNat_lt.mp ascii
  have narrow : (Char.ofNat byte.toNat).toNat ≤ 127 := by
    rw [toNat_ofNat_of_ascii ascii]
    omega
  have same : Json.byteOf (Char.ofNat byte.toNat) = byte := by
    apply UInt8.toNat_inj.mp
    rw [Json.toNat_byteOf narrow, toNat_ofNat_of_ascii ascii]
  change encode (String.ofList [Char.ofNat byte.toNat]) = [byte]
  rw [Json.encode_ofList, Json.spell_cons, Json.utf8EncodeChar_of_ascii narrow, same]
  rfl

theorem mem_of_mem_encode {text : String} {byte : UInt8} (ascii : byte < 0x80)
    (member : byte ∈ encode text) : Char.ofNat byte.toNat ∈ text.toList := by
  rw [Json.encode_eq_spell] at member
  obtain ⟨char, within, spelled⟩ := List.mem_flatMap.mp member
  by_cases wide : 127 < char.toNat
  · have high := Json.high_of_mem_utf8EncodeChar wide spelled
    have low : byte.toNat < 0x80 := UInt8.lt_iff_toNat_lt.mp ascii
    omega
  · have narrow : char.toNat ≤ 127 := Nat.not_lt.mp wide
    rw [Json.utf8EncodeChar_of_ascii narrow, List.mem_singleton] at spelled
    rw [spelled, Json.toNat_byteOf narrow, Char.ofNat_toNat]
    exact within

end Courier.Utf8
