import Courier.Proofs.Json.Reads
/-!
Whole numbers and their digits. Main statement: a number of 64 bits is read back from its digits,
whatever follows them that does not go on with a number.
-/

namespace Courier.Json

theorem isDigitByte_digitChar {value : Nat} (small : value < 10) :
    isDigitByte (byteOf (Nat.digitChar value)) = true ∧
      digitValue (byteOf (Nat.digitChar value)) = value := by
  have all : ∀ digit : Fin 10, isDigitByte (byteOf (Nat.digitChar digit)) = true ∧
      digitValue (byteOf (Nat.digitChar digit)) = digit := by decide
  exact all ⟨value, small⟩

theorem ne_of_isDigitByte {byte other : UInt8} (digit : isDigitByte byte = true)
    (special : isDigitByte other = false) : byte ≠ other := by
  intro same
  rw [same, special] at digit
  cases digit

theorem isBlankByte_of_isDigitByte {byte : UInt8} (digit : isDigitByte byte = true) :
    isBlankByte byte = false := by
  have apart : ∀ other, isDigitByte other = false → (byte == other) = false := by
    intro other special
    exact beq_eq_false_iff_ne.mpr (ne_of_isDigitByte digit special)
  unfold isBlankByte
  rw [apart 0x20 (by decide), apart 0x09 (by decide), apart 0x0A (by decide),
    apart 0x0D (by decide)]
  rfl

def digitBytes (value : Nat) : Bytes :=
  spell (Nat.toDigits 10 value)

theorem spell_digitChar {value : Nat} (small : value < 10) :
    spell [Nat.digitChar value] = [byteOf (Nat.digitChar value)] := by
  have all : ∀ digit : Fin 10, (Nat.digitChar digit).toNat ≤ 127 := by decide
  rw [spell_cons, spell_nil, utf8EncodeChar_of_ascii (all ⟨value, small⟩)]
  rfl

theorem digitBytes_of_lt {value : Nat} (small : value < 10) :
    digitBytes value = [byteOf (Nat.digitChar value)] := by
  unfold digitBytes
  rw [Nat.toDigits_of_lt_base small, spell_digitChar small]

theorem digitBytes_of_le {value : Nat} (large : 10 ≤ value) :
    digitBytes value = digitBytes (value / 10) ++ [byteOf (Nat.digitChar (value % 10))] := by
  unfold digitBytes
  rw [Nat.toDigits_of_base_le (by decide) large, spell_append,
    spell_digitChar (Nat.mod_lt value (by decide))]

def digitsFrom (value : Nat) (digits : Bytes) : Nat :=
  digits.foldl (fun total digit => total * 10 + digitValue digit) value

theorem digitBytes_spec (value : Nat) :
    ∃ first more, digitBytes value = first :: more ∧
      (∀ byte ∈ first :: more, isDigitByte byte = true) ∧
      digitsFrom (digitValue first) more = value ∧
      (first = byteOf '0' → value = 0 ∧ more = []) := by
  -- The last digit is split off by a division, and what is left is smaller.
  induction value using Nat.strongRecOn with
  | ind value ih =>
      by_cases small : value < 10
      · obtain ⟨digit, stands⟩ := isDigitByte_digitChar small
        refine ⟨_, [], digitBytes_of_lt small, ?_, stands, ?_⟩
        · intro byte member
          rw [List.mem_singleton.mp member]
          exact digit
        · intro zero
          rw [zero] at stands
          exact ⟨stands.symm, rfl⟩
      · have large : 10 ≤ value := Nat.not_lt.mp small
        obtain ⟨first, more, same, digits, stands, zero⟩ := ih (value / 10) (by omega)
        obtain ⟨digit, last⟩ := isDigitByte_digitChar (Nat.mod_lt value (by decide : 0 < 10))
        refine ⟨first, more ++ [byteOf (Nat.digitChar (value % 10))], ?_, ?_, ?_, ?_⟩
        · rw [digitBytes_of_le large, same]
          rfl
        · intro byte member
          rw [← List.cons_append] at member
          rcases List.mem_append.mp member with early | late
          · exact digits byte early
          · rw [List.mem_singleton.mp late]
            exact digit
        · unfold digitsFrom at stands ⊢
          rw [List.foldl_append, stands, List.foldl_cons, List.foldl_nil, last]
          omega
        · intro none
          have nothing := (zero none).1
          omega

theorem le_digitsFrom (value : Nat) (digits : Bytes) : value ≤ digitsFrom value digits := by
  induction digits generalizing value with
  | nil => exact Nat.le_refl value
  | cons digit rest ih =>
      have later : value * 10 + digitValue digit ≤ digitsFrom value (digit :: rest) := ih _
      omega

theorem gather_eq (value : Nat) (digits : Bytes) (fits : digitsFrom value digits ≤ wholeLimit) :
    gather value digits = (digitsFrom value digits, digits.length) := by
  induction digits generalizing value with
  | nil => rfl
  | cons digit rest ih =>
      have whole : digitsFrom (value * 10 + digitValue digit) rest ≤ wholeLimit := fits
      have next : value * 10 + digitValue digit ≤ wholeLimit :=
        Nat.le_trans (le_digitsFrom _ rest) whole
      unfold gather
      rw [if_pos next, ih _ whole]
      rfl

def AllDigits (bytes : Bytes) : Prop :=
  ∀ byte ∈ bytes, isDigitByte byte = true

theorem AllDigits.tail {first : UInt8} {more : Bytes} (digits : AllDigits (first :: more)) :
    AllDigits more :=
  fun byte member => digits byte (List.mem_cons_of_mem first member)

def NoDigit (rest : Bytes) : Prop :=
  ∀ byte more, rest = byte :: more → isDigitByte byte = false

theorem Ends.noDigit {rest : Bytes} (ends : Ends rest) : NoDigit rest :=
  fun byte more same => (ends byte more same).1

theorem noDigit_cons {byte : UInt8} (other : isDigitByte byte = false) (rest : Bytes) :
    NoDigit (byte :: rest) := by
  rintro _ _ ⟨⟩
  exact other

theorem frontDigits_of_noDigit {digits rest : Bytes} (all : AllDigits digits)
    (stops : NoDigit rest) :
    frontDigits (digits ++ rest) = digits ∧ afterDigits (digits ++ rest) = rest := by
  unfold frontDigits afterDigits
  rw [List.takeWhile_append_of_pos all, List.dropWhile_append_of_pos all]
  cases rest with
  | nil => exact ⟨List.append_nil digits, rfl⟩
  | cons byte more =>
      have other : ¬isDigitByte byte = true := by
        rw [stops byte more rfl]
        exact Bool.false_ne_true
      rw [List.takeWhile_cons_of_neg other, List.dropWhile_cons_of_neg other, List.append_nil]
      exact ⟨rfl, rfl⟩

theorem parts_numberAfter {whole rest : Bytes} (negative : Bool) (value : Nat) (ends : Ends rest)
    (within : rest.length < whole.length) :
    parts (numberAfter negative value 0 rest within) =
      (wholeOf negative value).map fun number => (number, rest) := by
  have plain : numberAfter negative value 0 rest within =
      (wholeOf negative value).map fun number => ⟨number, rest, within⟩ := by
    unfold numberAfter
    cases rest with
    | nil => rfl
    | cons byte more =>
        obtain ⟨-, noPoint, small, great⟩ := ends byte more rfl
        dsimp only
        rw [if_neg noPoint, if_neg (by simp [small, great])]
        rfl
  rw [plain]
  cases wholeOf negative value with
  | ok number => rfl
  | error fault => rfl

theorem parts_numberDigits (negative : Bool) {value : Nat} (fits : value ≤ wholeLimit)
    {rest : Bytes} (ends : Ends rest) :
    parts (numberDigits negative (digitBytes value ++ rest)) =
      (wholeOf negative value).map fun number => (number, rest) := by
  obtain ⟨first, more, same, digits, stands, zero⟩ := digitBytes_spec value
  rw [same, List.cons_append]
  unfold numberDigits
  dsimp only
  by_cases nothing : first = byteOf '0'
  · obtain ⟨rfl, rfl⟩ := zero nothing
    rw [if_pos nothing, List.nil_append]
    cases rest with
    | nil => exact parts_numberAfter negative 0 ends _
    | cons byte later =>
        dsimp only
        rw [if_neg (by simp [(ends byte later rfl).1])]
        exact parts_numberAfter negative 0 ends _
  · obtain ⟨front, after⟩ := frontDigits_of_noDigit
      (AllDigits.tail digits) ends.noDigit
    rw [if_neg nothing, if_pos (digits first List.mem_cons_self)]
    have gathers := gather_eq (digitValue first) more (by rw [stands]; exact fits)
    simp only [front, after, gathers, stands, Nat.sub_self]
    exact parts_numberAfter negative value ends _

theorem spell_writeInteger (value : Nat) : spell (writeInteger value) = digitBytes value := by
  have written : writeInteger value = Nat.toDigits 10 value := by
    change (Nat.repr value).toList = _
    rw [Nat.repr_eq_ofList_toDigits, String.toList_ofList]
  rw [written]
  rfl

theorem spell_writeInteger_negSucc (value : Nat) :
    spell (writeInteger (.negSucc value)) = byteOf '-' :: digitBytes (value + 1) := by
  have written : writeInteger (.negSucc value) = '-' :: Nat.toDigits 10 (value + 1) := by
    change ("-" ++ Nat.repr (value + 1)).toList = _
    rw [Nat.repr_eq_ofList_toDigits, ← String.ofList_append, String.toList_ofList]
    rfl
  rw [written, spell_cons, utf8EncodeChar_of_ascii (by decide)]
  rfl

theorem wholeOf_false (value : Nat) : wholeOf false value = .ok (.whole value) := rfl

theorem wholeOf_negSucc {value : Nat} (low : -0x8000000000000000 ≤ Int.negSucc value) :
    wholeOf true (value + 1) = .ok (.whole (.negSucc value)) := by
  unfold wholeOf
  rw [if_pos rfl, if_pos (by omega)]
  rfl

theorem understands_wholeNumber {α : Type} {wanted : String} {accept : Int → Option α}
    {value : Int} {accepted : α} (low : -0x8000000000000000 ≤ value)
    (high : value ≤ wholeLimit) (accepts : accept value = some accepted) :
    Understands (wholeNumber wanted accept) (.integer value) accepted := by
  intro bytes written blanks rest blank ends
  cases written with
  | integer =>
      unfold wholeNumber
      cases value with
      | ofNat value =>
          obtain ⟨first, more, same, digits, -, -⟩ := digitBytes_spec value
          have digit := digits first List.mem_cons_self
          have reads := parts_numberDigits false (Int.ofNat_le.mp high) ends
          rw [same, List.cons_append, wholeOf_false] at reads
          obtain ⟨shorter, found⟩ := eq_ok_of_parts reads
          have spelled : spell (writeInteger (.ofNat value)) = first :: more :=
            (spell_writeInteger value).trans same
          have accepts : accept (value : Int) = some accepted := accepts
          rw [spelled, parts_atValue, List.cons_append,
            skipBlanks_blanks blank (isBlankByte_of_isDigitByte digit)]
          dsimp only
          rw [if_neg (ne_of_isDigitByte digit (by decide)), if_pos digit, found]
          simp only [bind, Except.bind, accepts]
          rfl
      | negSucc value =>
          have minus : isBlankByte (byteOf '-') = false := by decide
          have fits : value + 1 ≤ wholeLimit := by
            unfold wholeLimit
            omega
          have reads := parts_numberDigits true fits ends
          rw [wholeOf_negSucc low] at reads
          obtain ⟨shorter, found⟩ := eq_ok_of_parts reads
          rw [spell_writeInteger_negSucc, parts_atValue, List.cons_append,
            skipBlanks_blanks blank minus]
          dsimp only
          rw [if_pos rfl, found]
          simp only [bind, Except.bind, Except.map, Rest.widen, accepts]
          rfl

theorem understands_unsigned64 (value : UInt64) :
    Understands unsigned64 (.integer value.toNat) value := by
  have fits : value.toNat ≤ wholeLimit := Nat.le_of_lt_succ value.toNat_lt
  refine understands_wholeNumber (by omega) (Int.ofNat_le.mpr fits) ?_
  have accepted : (0 : Int) ≤ value.toNat ∧ (value.toNat : Int).toNat ≤ wholeLimit :=
    ⟨Int.natCast_nonneg _, fits⟩
  rw [if_pos accepted, Int.toNat_natCast, UInt64.ofNat_toNat]

theorem understands_signed64 (value : Int64) :
    Understands signed64 (.integer value.toInt) value := by
  have low := Int64.le_toInt value
  have high := Int64.toInt_lt value
  refine understands_wholeNumber low (by unfold wholeLimit; omega) ?_
  rw [if_pos ⟨Int64.minValue_le_toInt value, Int64.toInt_le value⟩, Int64.ofInt_toInt]

theorem ends_cons {byte : UInt8} (digit : isDigitByte byte = false) (point : byte ≠ byteOf '.')
    (small : byte ≠ byteOf 'e') (great : byte ≠ byteOf 'E') (rest : Bytes) :
    Ends (byte :: rest) := by
  intro other more same
  obtain ⟨rfl, -⟩ := List.cons.inj same
  exact ⟨digit, point, small, great⟩

theorem ends_blanks {blanks : Bytes} (blank : Blanks blanks) {rest : Bytes} (ends : Ends rest) :
    Ends (blanks ++ rest) := by
  cases blanks with
  | nil => exact ends
  | cons byte more =>
      have isBlank := blank byte List.mem_cons_self
      have apart : ∀ other, isBlankByte other = false → byte ≠ other := by
        intro other solid same
        rw [same, solid] at isBlank
        cases isBlank
      refine ends_cons ?_ (apart _ (by decide)) (apart _ (by decide)) (apart _ (by decide)) _
      cases digit : isDigitByte byte with
      | false => rfl
      | true =>
          rw [isBlankByte_of_isDigitByte digit] at isBlank
          cases isBlank

theorem ends_of_listed {closing : Char} (closes : ∀ rest, Ends (byteOf closing :: rest))
    {element : α → Bytes → Prop} {values : List α} {bytes : Bytes}
    (listed : Listed closing element false values bytes) (rest : Bytes) : Ends (bytes ++ rest) := by
  cases listed with
  | done blank =>
      rw [List.append_assoc]
      exact ends_blanks blank (closes rest)
  | next blankBefore blankAfter written others =>
      unfold lead
      rw [if_neg Bool.false_ne_true]
      simp only [List.append_assoc, List.cons_append]
      exact ends_blanks blankBefore (ends_cons (by decide) (by decide) (by decide) (by decide) _)

theorem ends_bracket (rest : Bytes) : Ends (byteOf ']' :: rest) :=
  ends_cons (by decide) (by decide) (by decide) (by decide) rest

theorem ends_brace (rest : Bytes) : Ends (byteOf '}' :: rest) :=
  ends_cons (by decide) (by decide) (by decide) (by decide) rest

end Courier.Json
