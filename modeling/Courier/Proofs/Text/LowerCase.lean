import Courier.Text.Blank
import Courier.Text.LetterCase
/-!
Text in lower case. No small letter is itself a capital, by the table of capitals, and none is a
blank. Main statements: lower case of lower case changes nothing, and trimmed text is trimmed in
lower case too.
-/

namespace Courier.Text

instance (char : Char) : Decidable (IsSmall char) :=
  inferInstanceAs (Decidable (_ ∧ _))

/-- A small letter that can stand for `char`: it stays as it is, and it is shown if `char` is. -/
def IsSmallOf (char small : Char) : Prop :=
  IsSmall small ∧ (isBlank char = false → isBlank small = false)

def CapitalRun.smallLetters (run : CapitalRun) : List Char :=
  (List.range ((run.last - run.first) / run.step + 1)).map fun place =>
    Char.ofNat (((run.first + run.step * place : Nat) : Int) + run.shift).toNat

theorem isSmall_smallLetters {run : CapitalRun} (listed : run ∈ capitalRuns) {small : Char}
    (member : small ∈ run.smallLetters) : IsSmall small ∧ isBlank small = false := by
  have all : capitalRuns.all (fun run => run.smallLetters.all fun small =>
      decide (IsSmall small) && !isBlank small) = true := by
    decide +kernel
  have here := List.all_eq_true.mp (Array.all_eq_true_iff_forall_mem.mp all run listed) small member
  simpa using here

theorem IsSmall.of_shown {char small : Char} (stays : IsSmall small)
    (shown : isBlank small = false) : IsSmallOf char small :=
  ⟨stays, fun _ => shown⟩

theorem isSmallOf_ascii {char : Char} (ascii : char.toNat < 0x80) :
    IsSmallOf char char.toLower := by
  have all : ∀ value : Fin 0x80, IsSmall (Char.ofNat value).toLower ∧
      (isBlank (Char.ofNat value) = false → isBlank (Char.ofNat value).toLower = false) := by
    decide +kernel
  have here := all ⟨char.toNat, ascii⟩
  rwa [Char.ofNat_toNat] at here

theorem isSmallOf_run {char : Char} {run : CapitalRun}
    (found : CapitalRun.find? char = some run) :
    IsSmallOf char (Char.ofNat ((char.toNat : Int) + run.shift).toNat) := by
  obtain ⟨searched, steps⟩ := Option.filter_eq_some_iff.mp found
  obtain ⟨member, low, high⟩ := Ranges.mem_of_search searched
  have aligned : (char.toNat - run.first) % run.step = 0 := by simpa using steps
  have whole := Nat.div_add_mod (char.toNat - run.first) run.step
  have listed : Char.ofNat ((char.toNat : Int) + run.shift).toNat ∈ run.smallLetters := by
    refine List.mem_map.mpr ⟨(char.toNat - run.first) / run.step, List.mem_range.mpr ?_, ?_⟩
    · have le : (char.toNat - run.first) / run.step ≤ (run.last - run.first) / run.step :=
        Nat.div_le_div_right (by omega)
      omega
    · have same : run.first + run.step * ((char.toNat - run.first) / run.step) = char.toNat := by
        omega
      rw [same]
  obtain ⟨small, shown⟩ := isSmall_smallLetters member listed
  exact small.of_shown shown

theorem isSmallOf_lowerChar {char small : Char} (member : small ∈ lowerChar char) :
    IsSmallOf char small := by
  unfold lowerChar at member
  split at member
  · next ascii =>
      rw [List.mem_singleton.mp member]
      exact isSmallOf_ascii ascii
  · split at member
    · next dotted =>
        have letter : IsSmall 'i' := by decide +kernel
        have dot : IsSmall '\u0307' := by decide +kernel
        rcases List.mem_cons.mp member with rfl | mark
        · exact letter.of_shown (by decide)
        · rw [List.mem_singleton.mp mark]
          exact dot.of_shown (by decide)
    · split at member
      · next run found =>
          rw [List.mem_singleton.mp member]
          exact isSmallOf_run found
      · next large other _ none =>
          rw [List.mem_singleton.mp member]
          refine ⟨⟨?_, ?_⟩, fun shown => shown⟩
          · intro sigma
            rw [sigma] at none
            revert none
            decide +kernel
          · unfold lowerChar
            rw [if_neg large, if_neg other, none]

theorem lowerChar_ne_nil (char : Char) : lowerChar char ≠ [] := by
  unfold lowerChar
  split
  · exact List.cons_ne_nil _ _
  · split
    · exact List.cons_ne_nil _ _
    · split
      · exact List.cons_ne_nil _ _
      · exact List.cons_ne_nil _ _

theorem lowerFrom_cons (before : List Char) (char : Char) (rest : List Char) :
    ∃ letters, letters ≠ [] ∧ (∀ small ∈ letters, IsSmallOf char small) ∧
      lowerFrom before (char :: rest) = letters ++ lowerFrom (char :: before) rest := by
  by_cases sigma : char = 'Σ'
  · subst sigma
    have inner : IsSmall 'σ' := by decide +kernel
    have last : IsSmall 'ς' := by decide +kernel
    by_cases final : startsCased before && !startsCased rest
    · refine ⟨['ς'], List.cons_ne_nil _ _, fun letter member => ?_, ?_⟩
      · rw [List.mem_singleton.mp member]
        exact last.of_shown (by decide)
      · simp only [lowerFrom, if_pos final]
        rfl
    · refine ⟨['σ'], List.cons_ne_nil _ _, fun letter member => ?_, ?_⟩
      · rw [List.mem_singleton.mp member]
        exact inner.of_shown (by decide)
      · simp only [lowerFrom, if_neg final]
        rfl
  · refine ⟨lowerChar char, lowerChar_ne_nil char, fun _ => isSmallOf_lowerChar, ?_⟩
    simp only [lowerFrom, if_neg sigma]

theorem eq_nil_of_lowerFrom {before text : List Char} (empty : lowerFrom before text = []) :
    text = [] := by
  cases text with
  | nil => rfl
  | cons char rest =>
      obtain ⟨letters, filled, -, same⟩ := lowerFrom_cons before char rest
      rw [same] at empty
      exact absurd (List.append_eq_nil_iff.mp empty).1 filled

theorem isSmall_lowerFrom (before text : List Char) :
    ∀ small ∈ lowerFrom before text, IsSmall small := by
  induction text generalizing before with
  | nil =>
      intro small member
      cases member
  | cons char rest ih =>
      obtain ⟨letters, -, small, same⟩ := lowerFrom_cons before char rest
      rw [same]
      intro letter member
      rcases List.mem_append.mp member with here | later
      · exact (small letter here).1
      · exact ih (char :: before) letter later

theorem lower_lower (text : String) : lower (lower text) = lower text := by
  refine lower_of_isSmall _ fun char member => ?_
  rw [lower, String.toList_ofList] at member
  exact isSmall_lowerFrom [] text.toList char member

theorem head?_lowerFrom {before text : List Char} {small : Char}
    (first : (lowerFrom before text).head? = some small) :
    ∃ char, text.head? = some char ∧ IsSmallOf char small := by
  cases text with
  | nil => cases first
  | cons char rest =>
      obtain ⟨letters, filled, ofChar, same⟩ := lowerFrom_cons before char rest
      obtain ⟨letter, more, rfl⟩ := List.exists_cons_of_ne_nil filled
      rw [same] at first
      obtain rfl : letter = small := by simpa using first
      exact ⟨char, rfl, ofChar letter List.mem_cons_self⟩

theorem getLast?_lowerFrom {before text : List Char} {small : Char}
    (last : (lowerFrom before text).getLast? = some small) :
    ∃ char, text.getLast? = some char ∧ IsSmallOf char small := by
  induction text generalizing before with
  | nil => cases last
  | cons char rest ih =>
      obtain ⟨letters, filled, ofChar, same⟩ := lowerFrom_cons before char rest
      rw [same, List.getLast?_append] at last
      cases more : (lowerFrom (char :: before) rest).getLast? with
      | some later =>
          rw [more] at last
          obtain rfl : later = small := by simpa using last
          obtain ⟨other, ends, ofOther⟩ := ih more
          exact ⟨other, by rw [List.getLast?_cons, ends]; rfl, ofOther⟩
      | none =>
          rw [more] at last
          obtain rfl : rest = [] := eq_nil_of_lowerFrom (List.getLast?_eq_none_iff.mp more)
          have member : small ∈ letters := List.mem_of_getLast? (by simpa using last)
          exact ⟨char, rfl, ofChar small member⟩

theorem trim_lower {text : String} (trimmed : trim text = text) :
    trim (lower text) = lower text := by
  refine trim_eq_self fun char ends => ?_
  rw [lower, String.toList_ofList] at ends
  rcases ends with first | last
  · obtain ⟨origin, found, ofOrigin⟩ := head?_lowerFrom first
    exact ofOrigin.2 (isBlank_of_trim trimmed origin (.inl found))
  · obtain ⟨origin, found, ofOrigin⟩ := getLast?_lowerFrom last
    exact ofOrigin.2 (isBlank_of_trim trimmed origin (.inr found))

theorem lower_ne_empty {text : String} (filled : text ≠ "") : lower text ≠ "" := by
  intro empty
  have none : lowerFrom [] text.toList = [] := by
    have spelled := congrArg String.toList empty
    rwa [lower, String.toList_ofList] at spelled
  exact filled (String.toList_eq_nil_iff.mp (eq_nil_of_lowerFrom none))

end Courier.Text
