import Courier.Config.Read
import Courier.Proofs.Ini.Written
import Courier.Text.Cut
/-!
Values of the settings that are read as they were written. Main statements: a number of seconds, the
name of an archive and an endpoint that was accepted are accepted again as they are, and they stand
for themselves in a line.
-/

namespace Courier

open IniLine

namespace Text

theorem dropFront?_append (front rest : List Char) :
    dropFront? front (front ++ rest) = some rest := by
  induction front with
  | nil => rfl
  | cons char front ih =>
      rw [List.cons_append, dropFront?, if_pos rfl]
      exact ih

theorem isSome_after?_iff {front text : String} :
    (after? front text).isSome ↔ ∃ rest, text.toList = front.toList ++ rest := by
  unfold after?
  rw [Option.isSome_map]
  constructor
  · intro found
    obtain ⟨rest, dropped⟩ := Option.isSome_iff_exists.mp found
    exact ⟨rest, eq_append_of_dropFront? dropped⟩
  · rintro ⟨rest, same⟩
    rw [same, dropFront?_append]
    rfl

theorem dropBack_append (test : Char → Bool) (front rest : List Char) :
    dropBack test (front ++ rest) =
      if dropBack test rest = [] then dropBack test front
      else front ++ dropBack test rest := by
  unfold dropBack
  rw [List.reverse_append, List.dropWhile_append]
  cases left : rest.reverse.dropWhile test with
  | nil => rfl
  | cons char more => simp

theorem dropBack_dropBack (test : Char → Bool) (chars : List Char) :
    dropBack test (dropBack test chars) = dropBack test chars := by
  unfold dropBack
  rw [List.reverse_reverse, dropWhile_eq_self (head?_dropWhile _)]

end Text

namespace Settings

theorem toList_toString (value : Nat) : (toString value).toList = Nat.toDigits 10 value := by
  change (Nat.repr value).toList = _
  rw [Nat.repr_eq_ofList_toDigits, String.toList_ofList]

theorem toString_ne_empty (value : Nat) : toString value ≠ "" := by
  intro empty
  have letters := toList_toString value
  rw [empty] at letters
  exact Nat.toDigits_ne_nil letters.symm

theorem isDigit_of_mem_toString {value : Nat} {char : Char}
    (member : char ∈ (toString value).toList) : char.isDigit = true := by
  rw [toList_toString] at member
  exact Nat.isDigit_of_mem_toDigits (by decide) (by decide) member

theorem wholeNumber?_toString (value : UInt64) :
    wholeNumber? (toString value.toNat) = some value := by
  have accepted : ¬((toString value.toNat).toList.isEmpty = true ∨
      (!(toString value.toNat).toList.all Char.isDigit) = true) := by
    have digits : (toString value.toNat).toList.all Char.isDigit = true :=
      List.all_eq_true.mpr fun char => isDigit_of_mem_toString
    rw [digits]
    simp
  have counted : (toString value.toNat).toList.foldl
      (fun value digit => 10 * value + (digit.toNat - 0x30)) 0 = value.toNat := by
    rw [toList_toString]
    exact Nat.ofDigitChars_ten_toDigits
  unfold wholeNumber?
  extract_lets digits total
  have unsigned : digits = (toString value.toNat).toList := by
    unfold digits
    split
    · next rest same =>
        have sign : Char.isDigit '+' = true :=
          isDigit_of_mem_toString (by rw [same]; exact List.mem_cons_self)
        cases sign
    · rfl
  have same : total = value.toNat := by
    unfold total
    rw [unsigned, counted]
  rw [← unsigned] at accepted
  rw [if_neg accepted, same, if_pos value.toNat_lt_size, UInt64.ofNat_toNat]

theorem timeout_toString {seconds : UInt64} (positive : 0 < seconds) (sectionName : String) :
    timeout sectionName (toString seconds.toNat) = .ok seconds := by
  unfold timeout
  rw [wholeNumber?_toString]
  exact if_pos positive

theorem ne_of_isDigit {char : Char} (digit : char.isDigit = true) (other : Char)
    (special : other.isDigit = false) : char ≠ other := by
  intro same
  rw [same, special] at digit
  cases digit

theorem isPlain_toString (value : Nat) : IsPlain (toString value) := by
  refine ⟨fun char member => ?_, fun char first => ?_⟩
  · have apart := ne_of_isDigit (isDigit_of_mem_toString member)
    exact ⟨apart '\\' (by decide), apart '\n' (by decide), apart '\r' (by decide)⟩
  · have apart := ne_of_isDigit (isDigit_of_mem_toString (List.mem_of_mem_head? first))
    exact ⟨apart '"' (by decide), apart '\'' (by decide)⟩

theorem isVerbatim_toString (value : Nat) : IsVerbatim (toString value) := by
  refine ⟨isPlain_toString value, Text.trim_eq_self fun char ends => ?_⟩
  have member : char ∈ (toString value).toList := by
    rcases ends with first | last
    · exact List.mem_of_mem_head? first
    · exact List.mem_of_mem_getLast? last
  have digit := isDigit_of_mem_toString member
  simp only [Char.isDigit, Bool.and_eq_true, decide_eq_true_eq, ge_iff_le,
    UInt32.le_iff_toNat_le] at digit
  obtain ⟨low, high⟩ := digit
  change 0x30 ≤ char.toNat at low
  change char.toNat ≤ 0x39 at high
  simp only [Text.isBlank, Bool.or_eq_false_iff, Bool.and_eq_false_iff, decide_eq_false_iff_not,
    beq_eq_false_iff_ne]
  omega

theorem isVerbatim_name (kind : ArchiveKind) : IsVerbatim kind.name := by
  cases kind with
  | document => decide
  | repository => decide

theorem archive_name (kind : ArchiveKind) : archive kind.name = .ok kind := by
  have same : Text.lower (Text.trim kind.name) = kind.name := by
    cases kind with
    | document => decide +kernel
    | repository => decide +kernel
  unfold archive ArchiveKind.parse
  rw [same]
  cases kind with
  | document => rfl
  | repository => rfl

theorem after?_trimRightChar {scheme bare text : String}
    (bared : Text.dropBack (· == '/') scheme.toList = bare.toList)
    (begins : (Text.after? scheme text).isSome) :
    Text.trimRightChar '/' text = bare ∨
      (Text.after? scheme (Text.trimRightChar '/' text)).isSome := by
  obtain ⟨rest, same⟩ := Text.isSome_after?_iff.mp begins
  have cut := Text.dropBack_append (· == '/') scheme.toList rest
  rw [← same] at cut
  by_cases empty : Text.dropBack (· == '/') rest = []
  · rw [if_pos empty, bared] at cut
    left
    rw [Text.trimRightChar, cut, String.ofList_toList]
  · rw [if_neg empty] at cut
    right
    refine Text.isSome_after?_iff.mpr ⟨Text.dropBack (· == '/') rest, ?_⟩
    rw [Text.trimRightChar, String.toList_ofList, cut]

/-- An endpoint that was accepted is accepted as it is, unless nothing is left behind its scheme. -/
theorem endpoint_of_endpoint {text address : String} (accepted : endpoint text = .ok address)
    (further : address ≠ "http:" ∧ address ≠ "https:") : endpoint address = .ok address := by
  unfold endpoint at accepted
  split at accepted
  · next begins =>
      obtain rfl := Except.ok.inj accepted
      have still : (Text.after? "http://" (Text.trimRightChar '/' text)).isSome ∨
          (Text.after? "https://" (Text.trimRightChar '/' text)).isSome := by
        rcases begins with plain | secure
        · exact .inl ((after?_trimRightChar (by decide) plain).resolve_left further.1)
        · exact .inr ((after?_trimRightChar (by decide) secure).resolve_left further.2)
      have trimmed : Text.trimRightChar '/' (Text.trimRightChar '/' text) =
          Text.trimRightChar '/' text := by
        unfold Text.trimRightChar
        rw [String.toList_ofList, Text.dropBack_dropBack]
      unfold endpoint
      rw [if_pos still, trimmed]
  · cases accepted

end Settings

end Courier
