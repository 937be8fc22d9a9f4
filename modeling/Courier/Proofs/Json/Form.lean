import Courier.Proofs.Json.Numbers
/-!
The forms of texts. A form is a text without the blanks between its parts: numbers and strings are
kept as they are spelled, and members in the order in which they come. A text has one form, and a
form has a text for every choice of blanks.
-/

namespace Courier.Json

/-- What stands in a text, but for blanks. A string is given by what stands between its quotes. -/
inductive Form where
  | null
  | boolean (value : Bool)
  | number (digits : Bytes)
  | string (inside : Bytes)
  | array (items : List Form)
  | object (members : List (Bytes × Form))

/-- What may stand between the quotes of a string. -/
inductive Quoted : Bytes → Prop
  | done : Quoted []
  | plain {byte : UInt8} {rest : Bytes} (stands : IsPlain byte) (more : Quoted rest) :
      Quoted (byte :: rest)
  | letter {letter : UInt8} {rest : Bytes} (stands : letter ∈ escapeLetters)
      (more : Quoted rest) : Quoted (byteOf '\\' :: letter :: rest)
  | unit {a b c d : UInt8} {rest : Bytes}
      (digits : ∀ digit ∈ [a, b, c, d], (hexValue? digit).isSome) (more : Quoted rest) :
      Quoted (byteOf '\\' :: byteOf 'u' :: a :: b :: c :: d :: rest)

/-- The digits before the point: a zero, or digits of which the first is none. -/
inductive Whole : Bytes → Prop
  | zero : Whole [byteOf '0']
  | count {first : UInt8} {more : Bytes} (nonzero : first ≠ byteOf '0')
      (digits : AllDigits (first :: more)) : Whole (first :: more)

inductive Fraction : Bytes → Prop
  | none : Fraction []
  | digits {first : UInt8} {more : Bytes} (digits : AllDigits (first :: more)) :
      Fraction (byteOf '.' :: first :: more)

inductive Exponent : Bytes → Prop
  | none : Exponent []
  | digits {mark : UInt8} {sign : Bytes} {first : UInt8} {more : Bytes}
      (marks : mark = byteOf 'e' ∨ mark = byteOf 'E')
      (signs : sign = [] ∨ sign = [byteOf '+'] ∨ sign = [byteOf '-'])
      (digits : AllDigits (first :: more)) : Exponent (mark :: (sign ++ first :: more))

/-- A number without its sign. -/
inductive Unsigned : Bytes → Prop
  | mk {whole fraction exponent : Bytes} (wholes : Whole whole) (fractions : Fraction fraction)
      (exponents : Exponent exponent) : Unsigned (whole ++ (fraction ++ exponent))

inductive Numeral : Bytes → Prop
  | positive {digits : Bytes} (unsigned : Unsigned digits) : Numeral digits
  | negative {digits : Bytes} (unsigned : Unsigned digits) : Numeral (byteOf '-' :: digits)

mutual

/-- The texts of a form, which begin with no blank. -/
inductive Laid : Form → Bytes → Prop
  | nullWord : Laid .null (spell ['n', 'u', 'l', 'l'])
  | trueWord : Laid (.boolean true) (spell ['t', 'r', 'u', 'e'])
  | falseWord : Laid (.boolean false) (spell ['f', 'a', 'l', 's', 'e'])
  | number {digits : Bytes} (numeral : Numeral digits) : Laid (.number digits) digits
  | string {inside : Bytes} (quoted : Quoted inside) :
      Laid (.string inside) (byteOf '"' :: (inside ++ [byteOf '"']))
  | array {items : List Form} {bytes : Bytes} (listed : Listed ']' Laid true items bytes) :
      Laid (.array items) (byteOf '[' :: bytes)
  | object {members : List (Bytes × Form)} {bytes : Bytes}
      (listed : Listed '}' LaidMember true members bytes) :
      Laid (.object members) (byteOf '{' :: bytes)

inductive LaidMember : Bytes × Form → Bytes → Prop
  | mk {inside : Bytes} {value : Form} {gap space bytes : Bytes} (quoted : Quoted inside)
      (blankGap : Blanks gap) (blankSpace : Blanks space) (laid : Laid value bytes) :
      LaidMember (inside, value) (byteOf '"' ::
        (inside ++ byteOf '"' :: (gap ++ byteOf ':' :: (space ++ bytes))))

end

def Form.Spreads (form : Form) (text : Bytes) : Prop :=
  ∃ before bytes after, Blanks before ∧ Laid form bytes ∧ Blanks after ∧
    text = before ++ (bytes ++ after)

def BeginsNumber (byte : UInt8) : Prop :=
  byte = byteOf '-' ∨ isDigitByte byte = true

theorem BeginsNumber.ne {byte other : UInt8} (begins : BeginsNumber byte)
    (noMinus : other ≠ byteOf '-') (noDigit : isDigitByte other = false) : byte ≠ other := by
  rintro rfl
  rcases begins with minus | digit
  · exact noMinus minus
  · rw [noDigit] at digit
    cases digit

theorem BeginsNumber.solid {byte : UInt8} (begins : BeginsNumber byte) :
    isBlankByte byte = false := by
  rcases begins with rfl | digit
  · rfl
  · exact isBlankByte_of_isDigitByte digit

theorem Whole.begins {whole : Bytes} (wholes : Whole whole) :
    ∃ first more, whole = first :: more ∧ isDigitByte first = true := by
  cases wholes with
  | zero => exact ⟨_, _, rfl, rfl⟩
  | count nonzero digits => exact ⟨_, _, rfl, digits _ List.mem_cons_self⟩

theorem Unsigned.begins {digits : Bytes} (unsigned : Unsigned digits) :
    ∃ first more, digits = first :: more ∧ isDigitByte first = true := by
  cases unsigned with
  | mk wholes fractions exponents =>
      obtain ⟨first, more, rfl, digit⟩ := wholes.begins
      exact ⟨first, _, rfl, digit⟩

theorem Numeral.begins {digits : Bytes} (numeral : Numeral digits) :
    ∃ first more, digits = first :: more ∧ BeginsNumber first := by
  cases numeral with
  | positive unsigned =>
      obtain ⟨first, more, rfl, digit⟩ := unsigned.begins
      exact ⟨first, more, rfl, .inr digit⟩
  | negative unsigned => exact ⟨_, _, rfl, .inl rfl⟩

theorem Laid.head {form : Form} {bytes : Bytes} (laid : Laid form bytes) :
    ∃ first more, bytes = first :: more ∧ isBlankByte first = false ∧ first ≠ byteOf ']' ∧
      (first = byteOf 'n' → form = .null) := by
  cases laid with
  | nullWord => exact ⟨_, _, rfl, by decide, by decide, fun _ => rfl⟩
  | trueWord =>
      exact ⟨byteOf 't', _, rfl, by decide, by decide, fun same => absurd same (by decide)⟩
  | falseWord =>
      exact ⟨byteOf 'f', _, rfl, by decide, by decide, fun same => absurd same (by decide)⟩
  | number numeral =>
      obtain ⟨first, more, rfl, begins⟩ := numeral.begins
      exact ⟨first, more, rfl, begins.solid, begins.ne (by decide) (by decide),
        fun same => absurd same (begins.ne (by decide) (by decide))⟩
  | string quoted =>
      exact ⟨_, _, rfl, by decide, by decide, fun same => absurd same (by decide)⟩
  | array listed =>
      exact ⟨_, _, rfl, by decide, by decide, fun same => absurd same (by decide)⟩
  | object listed =>
      exact ⟨_, _, rfl, by decide, by decide, fun same => absurd same (by decide)⟩

theorem Laid.skipBlanks {form : Form} {bytes : Bytes} (laid : Laid form bytes) {blanks : Bytes}
    (blank : Blanks blanks) (rest : Bytes) :
    Json.skipBlanks (blanks ++ (bytes ++ rest)) = bytes ++ rest := by
  obtain ⟨first, more, rfl, solid, -, -⟩ := laid.head
  exact skipBlanks_blanks blank solid (more ++ rest)

def escaped (text : String) : Bytes :=
  spell (text.toList.flatMap escapeChar)

mutual

def form : Json → Form
  | .null => .null
  | .boolean value => .boolean value
  | .integer value => .number (spell (writeInteger value))
  | .string text => .string (escaped text)
  | .array items => .array (formItems items)
  | .object members => .object (formMembers members)

def formItems : List Json → List Form
  | [] => []
  | item :: rest => form item :: formItems rest

def formMembers : List (String × Json) → List (Bytes × Form)
  | [] => []
  | (name, value) :: rest => (escaped name, form value) :: formMembers rest

end

theorem formItems_eq (items : List Json) : formItems items = items.map form := by
  induction items with
  | nil => rfl
  | cons item rest ih => rw [formItems, ih, List.map_cons]

theorem formMembers_eq (members : List (String × Json)) :
    formMembers members = members.map fun member => (escaped member.1, form member.2) := by
  induction members with
  | nil => rfl
  | cons member rest ih => rw [formMembers, ih, List.map_cons]

theorem quoted_append {bytes rest : Bytes} (plain : ∀ byte ∈ bytes, IsPlain byte)
    (more : Quoted rest) : Quoted (bytes ++ rest) := by
  induction bytes with
  | nil => exact more
  | cons byte bytes ih =>
      exact .plain (plain byte List.mem_cons_self)
        (ih fun other member => plain other (List.mem_cons_of_mem byte member))

theorem Escape.quoted {char : Char} {bytes rest : Bytes} (escape : Escape char bytes)
    (more : Quoted rest) : Quoted (bytes ++ rest) := by
  cases escape with
  | letter escapes => exact .letter escapes more
  | control control =>
      have high := hexValue?_digitChar (Nat.div_lt_of_lt_mul (show char.toNat < 16 * 16 by omega))
      have low := hexValue?_digitChar (Nat.mod_lt char.toNat (show 0 < 16 by decide))
      refine .unit (fun digit member => ?_) more
      simp only [List.mem_cons, List.not_mem_nil, or_false] at member
      rcases member with rfl | rfl | rfl | rfl
      · rfl
      · rfl
      · rw [high]
        rfl
      · rw [low]
        rfl
  | plain stands => exact quoted_append stands more

theorem quoted_escaped (text : String) : Quoted (escaped text) := by
  unfold escaped
  induction text.toList with
  | nil => exact .done
  | cons char chars ih =>
      rw [List.flatMap_cons, spell_append]
      exact (escape_escapeChar char).quoted ih

theorem unsigned_digitBytes (value : Nat) : Unsigned (digitBytes value) := by
  obtain ⟨first, more, same, digits, -, zero⟩ := digitBytes_spec value
  have whole : Whole (first :: more) := by
    by_cases isZero : first = byteOf '0'
    · obtain ⟨-, rfl⟩ := zero isZero
      subst isZero
      exact .zero
    · exact .count isZero digits
  have unsigned : Unsigned ((first :: more) ++ ([] ++ [])) := .mk whole .none .none
  rw [same]
  rwa [List.append_nil, List.append_nil] at unsigned

theorem numeral_writeInteger (value : Int) : Numeral (spell (writeInteger value)) := by
  cases value with
  | ofNat value =>
      have spelled : spell (writeInteger (.ofNat value)) = digitBytes value :=
        spell_writeInteger value
      rw [spelled]
      exact .positive (unsigned_digitBytes value)
  | negSucc value =>
      rw [spell_writeInteger_negSucc]
      exact .negative (unsigned_digitBytes (value + 1))

theorem Listed.map {α β : Type} {closing : Char} {element : α → Bytes → Prop}
    {other : β → Bytes → Prop} {f : α → β} {first : Bool} {values : List α} {bytes : Bytes}
    (listed : Listed closing element first values bytes)
    (each : ∀ value ∈ values, ∀ bytes, element value bytes → other (f value) bytes) :
    Listed closing other first (values.map f) bytes := by
  induction listed with
  | done blank => exact .done blank
  | next blankBefore blankAfter written others ih =>
      exact .next blankBefore blankAfter (each _ List.mem_cons_self _ written)
        (ih fun value member => each value (List.mem_cons_of_mem _ member))

theorem Written.laid {tree : Json} {bytes : Bytes} (written : Written tree bytes) :
    Laid tree.form bytes := by
  match tree, written with
  | _, .nullWord => exact .nullWord
  | _, .trueWord => exact .trueWord
  | _, .falseWord => exact .falseWord
  | _, .integer value => exact .number (numeral_writeInteger value)
  | _, .string text =>
      have spelled := spell_writeString text []
      rw [List.append_nil] at spelled
      rw [spelled]
      exact .string (quoted_escaped text)
  | .array items, .array listed =>
      rw [form, formItems_eq]
      exact .array (listed.map fun item member bytes written => written.laid)
  | .object members, .object listed =>
      rw [form, formMembers_eq]
      refine .object (listed.map fun entry member bytes written => ?_)
      cases written with
      | @mk name value gap space text blankGap blankSpace written =>
          have smaller : sizeOf value < sizeOf members := sizeOf_value_lt member
          rw [spell_writeString]
          exact .mk (quoted_escaped name) blankGap blankSpace written.laid
termination_by sizeOf tree

theorem Written.spreads {tree : Json} {text : Bytes} (written : Written tree text) :
    tree.form.Spreads text :=
  ⟨[], text, [], blanks_nil, written.laid, blanks_nil, (List.append_nil text).symm⟩

end Courier.Json
