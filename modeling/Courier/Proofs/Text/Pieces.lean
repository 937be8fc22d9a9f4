import Courier.Text.Blank
/-!
The pieces of a text between separators. No separator is in a piece, and there is always at least
one. Main statements: the pieces with the separator between them are the text again, and parts
without a separator are the pieces of what they are joined to.
-/

namespace Courier.Text

variable {test : Char → Bool}

theorem pieces_cons (char : Char) (rest : List Char) :
    pieces test (char :: rest) =
      if test char then [] :: pieces test rest
      else match pieces test rest with
        | [] => [[char]]
        | first :: others => (char :: first) :: others := rfl

theorem pieces_ne_nil (chars : List Char) : pieces test chars ≠ [] := by
  cases chars with
  | nil => exact List.cons_ne_nil _ _
  | cons char rest =>
      rw [pieces_cons]
      split
      · exact List.cons_ne_nil _ _
      · split
        · exact List.cons_ne_nil _ _
        · exact List.cons_ne_nil _ _

theorem pieces_append_cons {separator : Char} (separates : test separator = true)
    (front rest : List Char) :
    pieces test (front ++ separator :: rest) = pieces test front ++ pieces test rest := by
  induction front with
  | nil =>
      rw [List.nil_append, pieces_cons, if_pos separates]
      rfl
  | cons char front ih =>
      rw [List.cons_append, pieces_cons, pieces_cons, ih]
      cases cut : pieces test front with
      | nil => exact absurd cut (pieces_ne_nil front)
      | cons first others =>
          split
          · rfl
          · rfl

theorem pieces_eq_singleton {chars : List Char} (whole : ∀ char ∈ chars, test char = false) :
    pieces test chars = [chars] := by
  induction chars with
  | nil => rfl
  | cons char rest ih =>
      rw [pieces_cons, ih fun other member => whole other (List.mem_cons_of_mem char member),
        if_neg (by simp [whole char List.mem_cons_self])]

theorem intercalate_pieces (separator : Char) (chars : List Char) :
    List.intercalate [separator] (pieces (· == separator) chars) = chars := by
  induction chars with
  | nil => rfl
  | cons char rest ih =>
      rw [pieces_cons]
      cases cut : pieces (· == separator) rest with
      | nil => exact absurd cut (pieces_ne_nil rest)
      | cons first others =>
          rw [cut] at ih
          by_cases same : char = separator
          · subst same
            simp [List.intercalate_cons_cons, ih]
          · cases others with
            | nil => simpa [same] using ih
            | cons second others =>
                simp only [List.intercalate_cons_cons] at ih
                simp [same, List.intercalate_cons_cons, ih]

theorem of_mem_pieces {chars piece : List Char} (member : piece ∈ pieces test chars) :
    ∀ char ∈ piece, test char = false ∧ char ∈ chars := by
  induction chars generalizing piece with
  | nil =>
      rw [List.mem_singleton.mp member]
      intro char none
      cases none
  | cons char rest ih =>
      have goesOn : ∀ {other : List Char}, other ∈ pieces test rest →
          ∀ inner ∈ other, test inner = false ∧ inner ∈ char :: rest :=
        fun later inner inside =>
          (ih later inner inside).imp_right (List.mem_cons_of_mem char)
      rw [pieces_cons] at member
      split at member
      · rcases List.mem_cons.mp member with rfl | later
        · intro other none
          cases none
        · exact goesOn later
      · next whole =>
          cases cut : pieces test rest with
          | nil => exact absurd cut (pieces_ne_nil rest)
          | cons first others =>
              rw [cut] at member goesOn
              rcases List.mem_cons.mp member with rfl | later
              · intro other inside
                rcases List.mem_cons.mp inside with rfl | further
                · exact ⟨by simpa using whole, List.mem_cons_self⟩
                · exact goesOn List.mem_cons_self other further
              · exact goesOn (List.mem_cons_of_mem first later)

theorem test_of_mem_pieces {chars piece : List Char} (member : piece ∈ pieces test chars) :
    ∀ char ∈ piece, test char = false :=
  fun char inside => (of_mem_pieces member char inside).1

theorem mem_of_mem_pieces {chars piece : List Char} (member : piece ∈ pieces test chars) :
    ∀ char ∈ piece, char ∈ chars :=
  fun char inside => (of_mem_pieces member char inside).2

theorem pieces_intercalate {separator : Char} {parts : List (List Char)} (filled : parts ≠ [])
    (whole : ∀ part ∈ parts, ∀ char ∈ part, (char == separator) = false) :
    pieces (· == separator) (List.intercalate [separator] parts) = parts := by
  induction parts with
  | nil => exact absurd rfl filled
  | cons first rest ih =>
      have single := pieces_eq_singleton (whole first List.mem_cons_self)
      cases rest with
      | nil => simpa [List.intercalate] using single
      | cons second others =>
          have goesOn := ih (List.cons_ne_nil second others)
            fun part member => whole part (List.mem_cons_of_mem first member)
          rw [List.intercalate_cons_cons, List.append_assoc, List.singleton_append,
            pieces_append_cons (by simp), single, goesOn]
          rfl

theorem intercalate_append (separator : Char) {front rest : List (List Char)} (filled : front ≠ [])
    (goesOn : rest ≠ []) :
    List.intercalate [separator] (front ++ rest) =
      List.intercalate [separator] front ++ separator :: List.intercalate [separator] rest := by
  obtain ⟨next, others, rfl⟩ := List.exists_cons_of_ne_nil goesOn
  induction front with
  | nil => exact absurd rfl filled
  | cons first more ih =>
      cases more with
      | nil => simp [List.intercalate]
      | cons second later =>
          have whole := ih (List.cons_ne_nil second later)
          rw [List.cons_append] at whole
          simp [List.intercalate_cons_cons, whole]

end Courier.Text
