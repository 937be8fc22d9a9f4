import Courier.Digest.Sha2
import Courier.Proofs.Files.Paths
import Mathlib.Data.Bool.AllAny
/-!
Digests as names of files and directories. The text of a digest has two characters for every byte,
none of which means anything in a path. Main statements: a digest can be read back from its text,
and the text is a name.
-/

namespace Courier

theorem digitChar_inj {left right : Nat} (small : left < 16) (little : right < 16)
    (same : Nat.digitChar left = Nat.digitChar right) : left = right := by
  have apart : ∀ first : Fin 16, ∀ second : Fin 16,
      Nat.digitChar first = Nat.digitChar second → first = second := by decide
  exact congrArg Fin.val (apart ⟨left, small⟩ ⟨right, little⟩ same)

theorem hexByte_inj {left right : UInt8} (same : Sha2.hexByte left = Sha2.hexByte right) :
    left = right := by
  unfold Sha2.hexByte at same
  obtain ⟨high, low⟩ : Nat.digitChar (left.toNat / 16) = Nat.digitChar (right.toNat / 16) ∧
      Nat.digitChar (left.toNat % 16) = Nat.digitChar (right.toNat % 16) := by
    simpa using same
  have upper := digitChar_inj (by have := left.toNat_lt; omega) (by have := right.toNat_lt; omega)
    high
  have lower := digitChar_inj (by omega) (by omega) low
  apply UInt8.toNat_inj.mp
  omega

theorem flatMap_hexByte_inj {left right : Bytes}
    (same : left.flatMap Sha2.hexByte = right.flatMap Sha2.hexByte) : left = right := by
  induction left generalizing right with
  | nil =>
      cases right with
      | nil => rfl
      | cons byte rest => cases same
  | cons byte rest ih =>
      cases right with
      | nil => cases same
      | cons other others =>
          rw [List.flatMap_cons, List.flatMap_cons] at same
          obtain ⟨first, later⟩ := List.append_inj same rfl
          rw [hexByte_inj first, ih later]

theorem hexText_inj {left right : Bytes} (same : Sha2.hexText left = Sha2.hexText right) :
    left = right :=
  flatMap_hexByte_inj (String.ofList_injective same)

def hexDigits : List Char := "0123456789abcdef".toList

theorem of_mem_hexDigits {char : Char} (digit : char ∈ hexDigits) :
    char ≠ '/' ∧ char ≠ '\x00' ∧ char ≠ '.' ∧ char.utf8Size = 1 := by
  have plain : ∀ digit ∈ hexDigits, digit ≠ '/' ∧ digit ≠ '\x00' ∧ digit ≠ '.' ∧
      digit.utf8Size = 1 := List.all_iff_forall_prop.mp (by decide)
  exact plain char digit

theorem mem_hexDigits_of_mem_hexByte {byte : UInt8} {char : Char}
    (member : char ∈ Sha2.hexByte byte) : char ∈ hexDigits := by
  have digits : ∀ digit : Fin 16, Nat.digitChar digit ∈ hexDigits := by decide
  have small := byte.toNat_lt
  unfold Sha2.hexByte at member
  rw [List.mem_cons, List.mem_singleton] at member
  rcases member with high | low
  · rw [high]
    exact digits ⟨byte.toNat / 16, by omega⟩
  · rw [low]
    exact digits ⟨byte.toNat % 16, by omega⟩

theorem mem_hexDigits_of_mem_hexText {bytes : Bytes} {char : Char}
    (member : char ∈ (Sha2.hexText bytes).toList) : char ∈ hexDigits := by
  unfold Sha2.hexText at member
  rw [String.toList_ofList] at member
  obtain ⟨byte, -, inside⟩ := List.mem_flatMap.mp member
  exact mem_hexDigits_of_mem_hexByte inside

theorem utf8ByteSize_ofList {chars : List Char} (single : ∀ char ∈ chars, char.utf8Size = 1) :
    (String.ofList chars).utf8ByteSize = chars.length := by
  induction chars with
  | nil => rfl
  | cons char rest ih =>
      rw [String.ofList_cons, String.utf8ByteSize_append, String.utf8ByteSize_singleton,
        List.length_cons, single char List.mem_cons_self,
        ih fun other member => single other (List.mem_cons_of_mem char member)]
      exact Nat.add_comm 1 _

theorem isName_of_getLast? {name : String} {last : Char} {limit : Nat}
    (ends : name.toList.getLast? = some last) (other : last ≠ '.') (whole : '/' ∉ name.toList)
    (clean : '\x00' ∉ name.toList) (short : name.utf8ByteSize ≤ limit) :
    IsName name limit := by
  refine ⟨?_, whole, clean, ?_, ?_, short⟩
  · intro empty
    rw [empty] at ends
    cases ends
  · intro here
    rw [here] at ends
    exact other (Option.some.inj ends).symm
  · intro up
    rw [up] at ends
    exact other (Option.some.inj ends).symm

theorem of_mem_hexText {bytes : Bytes} {char : Char}
    (member : char ∈ (Sha2.hexText bytes).toList) :
    char ≠ '/' ∧ char ≠ '\x00' ∧ char ≠ '.' ∧ char.utf8Size = 1 :=
  of_mem_hexDigits (mem_hexDigits_of_mem_hexText member)

theorem utf8ByteSize_hexText (bytes : Bytes) :
    (Sha2.hexText bytes).utf8ByteSize = 2 * bytes.length := by
  have single : ∀ char ∈ (Sha2.hexText bytes).toList, char.utf8Size = 1 :=
    fun _ member => (of_mem_hexText member).2.2.2
  have size := utf8ByteSize_ofList single
  rw [String.ofList_toList, String.length_toList, Sha2.length_hexText] at size
  exact size

theorem isName_hexText {bytes : Bytes} {limit : Nat} (filled : 0 < bytes.length)
    (short : 2 * bytes.length ≤ limit) : IsName (Sha2.hexText bytes) limit := by
  cases ends : (Sha2.hexText bytes).toList.getLast? with
  | none =>
      have length := Sha2.length_hexText bytes
      rw [← String.length_toList, List.getLast?_eq_none_iff.mp ends, List.length_nil] at length
      omega
  | some last =>
      have other := (of_mem_hexText (List.mem_of_getLast? ends)).2.2.1
      refine isName_of_getLast? ends other (fun slash => (of_mem_hexText slash).1 rfl)
        (fun nul => (of_mem_hexText nul).2.1 rfl) ?_
      rw [utf8ByteSize_hexText]
      exact short

end Courier
