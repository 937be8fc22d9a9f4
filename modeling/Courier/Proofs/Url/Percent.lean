import Courier.Proofs.Text.Utf8
import Courier.Url.Percent
/-!
Reading back what was percent encoded. Every written byte is taken off the front of a text by
itself, whatever comes after it. Main statements: where a percent sign never stands for itself, the
bytes of a written text are read back; so are those of a value in a form.
-/

namespace Courier

namespace Percent

theorem digitValue?_digit {value : Nat} (small : value < 16) :
    digitValue? (digit value) = some value := by
  have all : ∀ value : Fin 16, digitValue? (digit value) = some value.val := by decide
  exact all ⟨value, small⟩

theorem decode_escape_append (byte : UInt8) (rest : List Char) :
    decode (escape byte ++ rest) = byte :: decode rest := by
  have bound : byte.toNat < 256 := byte.toNat_lt
  have high := digitValue?_digit (show byte.toNat / 16 < 16 by omega)
  have low := digitValue?_digit (show byte.toNat % 16 < 16 by omega)
  have whole : UInt8.ofNat (16 * (byte.toNat / 16) + byte.toNat % 16) = byte := by
    rw [Nat.div_add_mod, UInt8.ofNat_toNat]
  change decode ('%' :: digit (byte.toNat / 16) :: digit (byte.toNat % 16) :: rest) = _
  simp only [decode, high, low, whole]

theorem decode_cons {char : Char} (plain : char ≠ '%') (rest : List Char) :
    decode (char :: rest) = Utf8.encode char.toString ++ decode rest := by
  rw [decode]
  intro high low later same
  exact absurd same plain

variable {keeps : Char → Bool}

theorem decode_encodeByte_append (escapes : keeps '%' = false) (byte : UInt8)
    (rest : List Char) : decode (encodeByte keeps byte ++ rest) = byte :: decode rest := by
  unfold encodeByte
  split
  · next kept =>
      have plain : Char.ofNat byte.toNat ≠ '%' := by
        intro same
        rw [same, escapes] at kept
        exact absurd kept.2 Bool.false_ne_true
      rw [List.singleton_append, decode_cons plain, Utf8.encode_toString_of_ascii kept.1]
      rfl
  · exact decode_escape_append byte rest

def escapeMarks : List Char := "%0123456789ABCDEF".toList

theorem mem_escapeMarks_of_mem_escape {byte : UInt8} {char : Char} (member : char ∈ escape byte) :
    char ∈ escapeMarks := by
  have digits : ∀ value : Fin 16, digit value.val ∈ escapeMarks := by decide
  have bound : byte.toNat < 256 := byte.toNat_lt
  rcases List.mem_cons.mp member with rfl | written
  · decide
  · rcases List.mem_cons.mp written with rfl | last
    · exact digits ⟨byte.toNat / 16, by omega⟩
    · rw [List.mem_singleton.mp last]
      exact digits ⟨byte.toNat % 16, by omega⟩

theorem mem_encodeByte {byte : UInt8} {char : Char} (member : char ∈ encodeByte keeps byte) :
    (byte < 0x80 ∧ keeps char = true ∧ char = Char.ofNat byte.toNat) ∨ char ∈ escapeMarks := by
  unfold encodeByte at member
  split at member
  · next kept =>
      rw [List.mem_singleton] at member
      rw [member]
      exact .inl ⟨kept.1, kept.2, rfl⟩
  · exact .inr (mem_escapeMarks_of_mem_escape member)

theorem decode_encodeChars (escapes : keeps '%' = false) (bytes : Bytes) :
    decode (encodeChars keeps bytes) = bytes := by
  induction bytes with
  | nil => rfl
  | cons byte rest ih =>
      change decode (encodeByte keeps byte ++ encodeChars keeps rest) = _
      rw [decode_encodeByte_append escapes, ih]

theorem not_mem_encodeChars {char : Char} (unkept : keeps char = false)
    (unmarked : char ∉ escapeMarks) (bytes : Bytes) : char ∉ encodeChars keeps bytes := by
  intro member
  obtain ⟨byte, -, written⟩ := List.mem_flatMap.mp member
  rcases mem_encodeByte written with ⟨-, kept, -⟩ | marked
  · rw [unkept] at kept
    cases kept
  · exact unmarked marked

theorem not_mem_encodeChars_encode {char : Char} {text : String} (absent : char ∉ text.toList)
    (unmarked : char ∉ escapeMarks) : char ∉ encodeChars keeps (Utf8.encode text) := by
  intro member
  obtain ⟨byte, within, written⟩ := List.mem_flatMap.mp member
  rcases mem_encodeByte written with ⟨ascii, -, rfl⟩ | marked
  · exact absent (Utf8.mem_of_mem_encode ascii within)
  · exact unmarked marked

theorem encodeChars_encode_of_kept {text : String}
    (kept : ∀ char ∈ text.toList, char.toNat ≤ 127 ∧ keeps char = true) :
    encodeChars keeps (Utf8.encode text) = text.toList := by
  rw [Json.encode_eq_spell]
  generalize text.toList = chars at kept ⊢
  induction chars with
  | nil => rfl
  | cons char rest ih =>
      obtain ⟨narrow, stands⟩ := kept char List.mem_cons_self
      have same : Char.ofNat (Json.byteOf char).toNat = char := by
        rw [Json.toNat_byteOf narrow, Char.ofNat_toNat]
      have ascii : Json.byteOf char < 0x80 := by
        rw [UInt8.lt_iff_toNat_lt, Json.toNat_byteOf narrow]
        exact Nat.lt_succ_of_le narrow
      have first : encodeByte keeps (Json.byteOf char) = [char] := by
        unfold encodeByte
        rw [same, if_pos ⟨ascii, stands⟩]
      rw [Json.spell_cons, Json.utf8EncodeChar_of_ascii narrow]
      change encodeByte keeps (Json.byteOf char) ++ encodeChars keeps (Json.spell rest) = _
      rw [first, ih fun other member => kept other (List.mem_cons_of_mem char member)]
      rfl

def fromPlus (char : Char) : Char :=
  if char = '+' then ' ' else char

theorem formDecode_eq (written : List Char) : formDecode written = decode (written.map fromPlus) :=
  rfl

theorem decode_formByte_append (byte : UInt8) (rest : List Char) :
    decode ((formByte byte).map fromPlus ++ rest) = byte :: decode rest := by
  unfold formByte
  split
  · next space =>
      rw [space]
      change decode (' ' :: rest) = _
      rw [decode_cons (by decide)]
      rfl
  · have unchanged : (encodeByte inForm byte).map fromPlus = encodeByte inForm byte := by
      have noPlus : '+' ∉ encodeByte inForm byte := by
        intro member
        rcases mem_encodeByte member with ⟨-, kept, -⟩ | marked
        · exact absurd kept (by decide)
        · exact absurd marked (by decide)
      have same : ∀ char ∈ encodeByte inForm byte, fromPlus char = id char := by
        intro char written
        have other : char ≠ '+' := by
          rintro rfl
          exact noPlus written
        exact if_neg other
      rw [List.map_congr_left same, List.map_id]
    rw [unchanged]
    exact decode_encodeByte_append (by decide) byte rest

theorem formDecode_formChars (bytes : Bytes) : formDecode (formChars bytes) = bytes := by
  induction bytes with
  | nil => rfl
  | cons byte rest ih =>
      rw [formDecode_eq] at ih ⊢
      change decode (List.map fromPlus (formByte byte ++ formChars rest)) = _
      rw [List.map_append, decode_formByte_append, ih]

theorem not_mem_formChars {char : Char} (unkept : inForm char = false)
    (unmarked : char ∉ escapeMarks) (noPlus : char ≠ '+') (bytes : Bytes) :
    char ∉ formChars bytes := by
  intro member
  obtain ⟨byte, -, written⟩ := List.mem_flatMap.mp member
  unfold formByte at written
  split at written
  · exact noPlus (List.mem_singleton.mp written)
  · rcases mem_encodeByte written with ⟨-, kept, -⟩ | marked
    · rw [unkept] at kept
      cases kept
    · exact unmarked marked

end Percent

end Courier
