import Courier.Text.Blank
/-!
Cutting a text in two at the first occurrence of another. Main statement: the parts and what stood
between them make up the whole.
-/

namespace Courier.Text

/-- What stands before and after the first occurrence of `separator`, if there is one. -/
def cut? (separator : List Char) : List Char → Option (List Char × List Char)
  | [] => if separator.isEmpty then some ([], []) else none
  | char :: rest =>
    match dropFront? separator (char :: rest) with
    | some after => some ([], after)
    | none => (cut? separator rest).map fun (before, after) => (char :: before, after)

/-- The last character of a list that satisfies the test ends the first part; it belongs to
neither. -/
def cutLast? (test : Char → Bool) (chars : List Char) : Option (List Char × List Char) :=
  let back := chars.reverse
  match back.dropWhile (!test ·) with
  | [] => none
  | _ :: front => some (front.reverse, (back.takeWhile (!test ·)).reverse)

theorem eq_append_of_dropFront? {front chars rest : List Char}
    (found : dropFront? front chars = some rest) : chars = front ++ rest := by
  induction front generalizing chars with
  | nil => simpa [dropFront?] using found
  | cons expected front ih =>
    cases chars with
    | nil => simp [dropFront?] at found
    | cons char more =>
      by_cases same : expected = char
      · simp only [dropFront?, if_pos same] at found
        simp [same, ih found]
      · simp [dropFront?, same] at found

theorem eq_append_of_cut? {separator chars before after : List Char}
    (found : cut? separator chars = some (before, after)) :
    chars = before ++ separator ++ after := by
  induction chars generalizing before with
  | nil =>
    by_cases none : separator.isEmpty
    · simp_all [cut?]
    · simp [cut?, none] at found
  | cons char rest ih =>
    simp only [cut?] at found
    split at found
    · next dropped =>
      obtain ⟨rfl, rfl⟩ := by simpa using found
      simpa using eq_append_of_dropFront? dropped
    · obtain ⟨⟨front, back⟩, inner, same⟩ := Option.map_eq_some_iff.1 found
      obtain ⟨rfl, rfl⟩ := by simpa using same
      simp [ih inner]

end Courier.Text
