/-!
Blanks as the character standard lists them, and what is cut off at the ends of a text and of its
lines. Main statements: what trimming leaves fails the test at its ends, and a text whose ends fail
the test is left alone.
-/

namespace Courier.Text

/-- The characters that the standard calls white space. -/
def isBlank (char : Char) : Bool :=
  let value := char.toNat
  (0x09 ≤ value && value ≤ 0x0D) || value == 0x20 || value == 0x85 || value == 0xA0 ||
    value == 0x1680 || (0x2000 ≤ value && value ≤ 0x200A) || value == 0x2028 ||
    value == 0x2029 || value == 0x202F || value == 0x205F || value == 0x3000

/-- The characters from the first to the last one that fails the test. -/
def dropEnds (test : Char → Bool) (chars : List Char) : List Char :=
  ((chars.dropWhile test).reverse.dropWhile test).reverse

def dropBack (test : Char → Bool) (chars : List Char) : List Char :=
  (chars.reverse.dropWhile test).reverse

def trim (text : String) : String :=
  String.ofList (dropEnds isBlank text.toList)

def trimChar (char : Char) (text : String) : String :=
  String.ofList (dropEnds (· == char) text.toList)

def trimRightChar (char : Char) (text : String) : String :=
  String.ofList (dropBack (· == char) text.toList)

/-- The rest of `chars` after `front`, if they begin so. -/
def dropFront? : List Char → List Char → Option (List Char)
  | [], chars => some chars
  | _ :: _, [] => none
  | expected :: front, char :: rest => if expected = char then dropFront? front rest else none

def after? (front text : String) : Option String :=
  (dropFront? front.toList text.toList).map String.ofList

/-- The pieces between the characters that satisfy the test; there is one more than of those. -/
def pieces (test : Char → Bool) : List Char → List (List Char)
  | [] => [[]]
  | char :: rest =>
    if test char then [] :: pieces test rest
    else match pieces test rest with
      | [] => [[char]]
      | first :: others => (char :: first) :: others

def dropReturn (line : List Char) : List Char :=
  match line.getLast? with
  | some '\r' => line.dropLast
  | _ => line

/-- The lines of a text. A line feed ends a line, so a text that ends with one has no further
line after it; a carriage return before a line feed is not part of the line. -/
def lines (text : String) : List String :=
  let rows := pieces (· == '\n') text.toList
  let ended := rows.dropLast.map dropReturn
  let last := rows.getLast?.toList.filter fun row => !row.isEmpty
  (ended ++ last).map String.ofList

theorem dropWhile_eq_self {test : Char → Bool} {chars : List Char}
    (starts : ∀ char, chars.head? = some char → test char = false) :
    chars.dropWhile test = chars := by
  cases chars with
  | nil => rfl
  | cons char rest => simp [List.dropWhile, starts char rfl]

theorem head?_dropWhile {test : Char → Bool} (chars : List Char) :
    ∀ char, (chars.dropWhile test).head? = some char → test char = false := by
  induction chars with
  | nil => simp
  | cons char rest ih =>
    intro other found
    by_cases fails : test char
    · simp [List.dropWhile, fails] at found
      exact ih other found
    · simp [List.dropWhile, fails] at found
      subst found
      simpa using fails

theorem getLast?_dropEnds {test : Char → Bool} (chars : List Char) :
    ∀ char, (dropEnds test chars).getLast? = some char → test char = false := by
  intro char found
  rw [dropEnds, List.getLast?_reverse] at found
  exact head?_dropWhile _ char found

theorem dropEnds_isPrefix (test : Char → Bool) (chars : List Char) :
    dropEnds test chars <+: chars.dropWhile test := by
  rw [dropEnds, ← List.reverse_suffix, List.reverse_reverse]
  exact List.dropWhile_suffix test

theorem head?_dropEnds {test : Char → Bool} (chars : List Char) :
    ∀ char, (dropEnds test chars).head? = some char → test char = false := by
  intro char found
  obtain ⟨back, whole⟩ := dropEnds_isPrefix test chars
  apply head?_dropWhile chars
  rw [← whole, List.head?_append, found]
  rfl

/-- A text that begins and ends with characters that fail the test is left alone. -/
theorem dropEnds_eq_self {test : Char → Bool} {chars : List Char}
    (starts : ∀ char, chars.head? = some char → test char = false)
    (ends : ∀ char, chars.getLast? = some char → test char = false) :
    dropEnds test chars = chars := by
  rw [dropEnds, dropWhile_eq_self starts, dropWhile_eq_self, List.reverse_reverse]
  intro char found
  exact ends char (by rw [List.head?_reverse] at found; exact found)

/-- A trimmed text has no blank at its ends. -/
theorem isBlank_of_trim {text : String} (trimmed : trim text = text) (char : Char)
    (ends : text.toList.head? = some char ∨ text.toList.getLast? = some char) :
    isBlank char = false := by
  have same : text.toList = dropEnds isBlank text.toList := by
    have spelled := congrArg String.toList trimmed
    rw [trim, String.toList_ofList] at spelled
    exact spelled.symm
  rw [same] at ends
  rcases ends with first | last
  · exact head?_dropEnds text.toList char first
  · exact getLast?_dropEnds text.toList char last

theorem trim_eq_self {text : String}
    (ends : ∀ char, text.toList.head? = some char ∨ text.toList.getLast? = some char →
      isBlank char = false) : trim text = text := by
  rw [trim, dropEnds_eq_self (fun char first => ends char (.inl first))
    (fun char last => ends char (.inr last)), String.ofList_toList]

theorem trim_trim (text : String) : trim (trim text) = trim text := by
  refine trim_eq_self fun char found => ?_
  rw [trim, String.toList_ofList] at found
  rcases found with first | last
  · exact head?_dropEnds text.toList char first
  · exact getLast?_dropEnds text.toList char last

end Courier.Text
