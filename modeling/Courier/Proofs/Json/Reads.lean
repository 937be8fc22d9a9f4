import Courier.Json.Decode
import Courier.Proofs.Json.Written
/-!
Readers on the texts of trees. What a reader takes off the front of a text does not depend on the
blanks before it, nor on what follows, as long as that does not go on with a number. Main statement:
a string is read back from its text, whatever characters it holds.
-/

namespace Courier.Json

variable {α β : Type}

def parts {text : Bytes} (outcome : Except Fault (Rest text α)) : Except Fault (α × Bytes) :=
  outcome.map fun read => (read.value, read.rest)

@[simp] theorem parts_ok {text : Bytes} (read : Rest text α) :
    parts (.ok read) = .ok (read.value, read.rest) := rfl

@[simp] theorem parts_map {text : Bytes} (f : α → β) (outcome : Except Fault (Rest text α)) :
    parts (outcome.map (Rest.map f)) = (parts outcome).map (Prod.map f id) := by
  cases outcome with
  | ok read => rfl
  | error fault => rfl

@[simp] theorem parts_widen {near far : Bytes} (outcome : Except Fault (Rest near α))
    (within : near.length ≤ far.length) :
    parts (outcome.map fun read => read.widen within) = parts outcome := by
  cases outcome with
  | ok read => rfl
  | error fault => rfl

theorem eq_ok_of_parts {text rest : Bytes} {outcome : Except Fault (Rest text α)} {value : α}
    (comes : parts outcome = .ok (value, rest)) :
    ∃ shorter, outcome = .ok ⟨value, rest, shorter⟩ := by
  cases outcome with
  | error fault => cases comes
  | ok read =>
      cases comes
      exact ⟨read.shorter, rfl⟩

/-- What may follow a value: nothing that a number would go on with. -/
def Ends (rest : Bytes) : Prop :=
  ∀ byte more, rest = byte :: more → isDigitByte byte = false ∧ byte ≠ byteOf '.' ∧
    byte ≠ byteOf 'e' ∧ byte ≠ byteOf 'E'

theorem ends_nil : Ends [] := by
  intro byte more same
  cases same

/-- The reader takes the value off the front of the text, with the blanks before it. -/
def Reads (reader : Reader α) (text : Bytes) (value : α) : Prop :=
  ∀ blanks rest, Blanks blanks → Ends rest →
    parts (reader (blanks ++ (text ++ rest))) = .ok (value, rest)

/-- The reader gets the value from every text of the tree. -/
def Understands (reader : Reader α) (tree : Json) (value : α) : Prop :=
  ∀ bytes, Written tree bytes → Reads reader bytes value

theorem Reads.map {reader : Reader α} {text : Bytes} {value : α} (reads : Reads reader text value)
    (f : α → β) : Reads (reader.map f) text (f value) := by
  intro blanks rest blank ends
  unfold Reader.map
  rw [parts_map, reads blanks rest blank ends]
  rfl

theorem Understands.map {reader : Reader α} {tree : Json} {value : α}
    (understands : Understands reader tree value) (f : α → β) :
    Understands (reader.map f) tree (f value) :=
  fun bytes written => (understands bytes written).map f

theorem parse_of_reads {reader : Reader α} {text : Bytes} {value : α}
    (reads : Reads reader text value) : parse reader text = .ok value := by
  have comes := reads [] [] blanks_nil ends_nil
  rw [List.nil_append, List.append_nil] at comes
  obtain ⟨shorter, same⟩ := eq_ok_of_parts comes
  unfold parse
  rw [same]
  rfl

theorem skipBlanks_append {blanks : Bytes} (blank : Blanks blanks) (text : Bytes) :
    skipBlanks (blanks ++ text) = skipBlanks text :=
  List.dropWhile_append_of_pos blank

theorem skipBlanks_cons {byte : UInt8} (solid : isBlankByte byte = false) (rest : Bytes) :
    skipBlanks (byte :: rest) = byte :: rest :=
  List.dropWhile_cons_of_neg (by simp [solid])

theorem skipBlanks_blanks {blanks : Bytes} {byte : UInt8} (blank : Blanks blanks)
    (solid : isBlankByte byte = false) (rest : Bytes) :
    skipBlanks (blanks ++ byte :: rest) = byte :: rest := by
  rw [skipBlanks_append blank, skipBlanks_cons solid]

theorem parts_atValue (reader : Reader α) (text : Bytes) :
    parts (atValue reader text) = parts (reader (skipBlanks text)) :=
  parts_widen _ _

theorem parts_map_widen {near far : Bytes} (f : α → β) (outcome : Except Fault (Rest near α))
    (within : near.length ≤ far.length) :
    parts (outcome.map fun read => (read.map f).widen within) =
      (parts outcome).map (Prod.map f id) := by
  cases outcome with
  | ok read => rfl
  | error fault => rfl

theorem ahead_of_cons {γ : Type} {left : α → Bytes} {text : α} {rest : Bytes} {byte : UInt8}
    (found : left text = byte :: rest) (atEnd : left text = [] → γ)
    (ahead : ∀ byte rest, left text = byte :: rest → γ) :
    (match found : left text with
      | [] => atEnd found
      | byte :: rest => ahead byte rest found) = ahead byte rest found := by
  split
  · next empty =>
      rw [found] at empty
      cases empty
  · next other more same =>
      obtain ⟨rfl, rfl⟩ := List.cons.inj (found.symm.trans same)
      rfl

theorem parts_colon {text rest : Bytes} (found : skipBlanks text = byteOf ':' :: rest) :
    parts (colon text) = .ok ((), rest) := by
  unfold colon
  exact congrArg parts (ahead_of_cons found _ _)

theorem reads_afterColon {reader : Reader α} {space bytes : Bytes} {value : α}
    (reads : Reads reader bytes value) (blank : Blanks space) :
    Reads (afterColon reader) (byteOf ':' :: (space ++ bytes)) value := by
  intro blanks rest blankBefore ends
  have solid : isBlankByte (byteOf ':') = false := by decide
  have mark := parts_colon (skipBlanks_blanks blankBefore solid (space ++ bytes ++ rest))
  obtain ⟨shorter, found⟩ := eq_ok_of_parts mark
  unfold afterColon
  rw [List.cons_append, found]
  dsimp only
  rw [parts_widen, List.append_assoc]
  exact reads space rest blank ends

/-! ### The bytes of a string -/

variable {whole : Bytes} {escape : Reader Bytes} {read : Bytes}

theorem parts_stringBytes_quote (text : Bytes)
    (within : (byteOf '"' :: text).length < whole.length) :
    parts (stringBytes escape read (byteOf '"' :: text) within) = .ok (read.reverse, text) := by
  rw [stringBytes]
  rfl

def IsPlain (byte : UInt8) : Prop :=
  byte ≠ byteOf '"' ∧ byte ≠ byteOf '\\' ∧ ¬byte < 0x20

theorem stringBytes_plain {bytes : Bytes} (plain : ∀ byte ∈ bytes, IsPlain byte) (read : Bytes)
    (text : Bytes) (within : (bytes ++ text).length < whole.length) :
    ∃ inside, stringBytes escape read (bytes ++ text) within =
      stringBytes escape (bytes.reverse ++ read) text inside := by
  induction bytes generalizing read with
  | nil => exact ⟨within, rfl⟩
  | cons byte bytes ih =>
      obtain ⟨noQuote, noSlash, noControl⟩ := plain byte List.mem_cons_self
      obtain ⟨inside, same⟩ := ih (fun other member => plain other (List.mem_cons_of_mem _ member))
        (byte :: read) (Nat.lt_of_succ_lt within)
      refine ⟨inside, ?_⟩
      rw [List.reverse_cons, List.append_assoc, List.singleton_append, ← same]
      simp only [List.cons_append]
      rw [stringBytes, if_neg noQuote, if_neg noSlash, if_neg noControl]

theorem stringBytes_escape {text bytes rest : Bytes}
    (escapes : parts (escape text) = .ok (bytes, rest))
    (within : (byteOf '\\' :: text).length < whole.length) :
    ∃ inside, stringBytes escape read (byteOf '\\' :: text) within =
      stringBytes escape (bytes.reverse ++ read) rest inside := by
  obtain ⟨shorter, same⟩ := eq_ok_of_parts escapes
  refine ⟨Nat.lt_trans shorter (Nat.lt_of_succ_lt within), ?_⟩
  rw [stringBytes, if_neg (by decide), if_pos rfl, same]

theorem isPlain_of_high {byte : UInt8} (high : 128 ≤ byte.toNat) : IsPlain byte := by
  have apart : ∀ small : UInt8, small.toNat < 128 → byte ≠ small := by
    intro small low same
    rw [same] at high
    omega
  refine ⟨apart _ (by decide), apart _ (by decide), ?_⟩
  intro control
  have low : byte.toNat < 32 := UInt8.lt_iff_toNat_lt.mp control
  omega

theorem high_of_mem_utf8EncodeChar {char : Char} (wide : 127 < char.toNat) {byte : UInt8}
    (member : byte ∈ String.utf8EncodeChar char) : 128 ≤ byte.toNat := by
  unfold String.utf8EncodeChar at member
  have narrow : ¬char.val.toNat ≤ 127 := Nat.not_le.mpr wide
  dsimp only at member
  rw [if_neg narrow] at member
  have high : ∀ value, 128 ≤ value → value < 256 → 128 ≤ (UInt8.ofNat value).toNat := by
    intro value low small
    rw [UInt8.toNat_ofNat']
    omega
  split at member
  · simp only [List.mem_cons, List.not_mem_nil, or_false] at member
    rcases member with rfl | rfl
    · exact high _ (by omega) (by omega)
    · exact high _ (by omega) (by omega)
  · split at member
    · simp only [List.mem_cons, List.not_mem_nil, or_false] at member
      rcases member with rfl | rfl | rfl
      · exact high _ (by omega) (by omega)
      · exact high _ (by omega) (by omega)
      · exact high _ (by omega) (by omega)
    · simp only [List.mem_cons, List.not_mem_nil, or_false] at member
      rcases member with rfl | rfl | rfl | rfl
      · exact high _ (by omega) (by omega)
      · exact high _ (by omega) (by omega)
      · exact high _ (by omega) (by omega)
      · exact high _ (by omega) (by omega)

theorem toNat_byteOf {char : Char} (ascii : char.toNat ≤ 127) :
    (byteOf char).toNat = char.toNat := by
  change (UInt8.ofNat char.toNat).toNat = char.toNat
  rw [UInt8.toNat_ofNat']
  omega

theorem byteOf_inj {left right : Char} (ascii : left.toNat ≤ 127) (other : right.toNat ≤ 127)
    (same : byteOf left = byteOf right) : left = right := by
  apply Char.toNat_inj.mp
  rw [← toNat_byteOf ascii, ← toNat_byteOf other, same]

theorem isPlain_of_mem_utf8EncodeChar {char : Char} (noQuote : char ≠ '"') (noSlash : char ≠ '\\')
    (noControl : ¬char.toNat < 0x20) {byte : UInt8} (member : byte ∈ String.utf8EncodeChar char) :
    IsPlain byte := by
  by_cases wide : 127 < char.toNat
  · exact isPlain_of_high (high_of_mem_utf8EncodeChar wide member)
  · have narrow : char.toNat ≤ 127 := Nat.not_lt.mp wide
    rw [utf8EncodeChar_of_ascii narrow, List.mem_singleton] at member
    rw [member]
    refine ⟨fun same => noQuote (byteOf_inj narrow (by decide) same),
      fun same => noSlash (byteOf_inj narrow (by decide) same), ?_⟩
    intro control
    have low : (byteOf char).toNat < 32 := UInt8.lt_iff_toNat_lt.mp control
    rw [toNat_byteOf narrow] at low
    exact noControl low

def escapeLetters : Bytes :=
  ['"', '\\', '/', 'b', 'f', 'n', 'r', 't'].map byteOf

theorem escapedByte?_of_mem {letter : UInt8} (stands : letter ∈ escapeLetters) :
    letter ≠ byteOf 'u' ∧ ∃ byte, escapedByte? letter = some byte := by
  have all : ∀ letter ∈ escapeLetters,
      letter ≠ byteOf 'u' ∧ (escapedByte? letter).isSome = true := by decide +kernel
  obtain ⟨other, isByte⟩ := all letter stands
  exact ⟨other, Option.isSome_iff_exists.mp isByte⟩

theorem parts_unescape_letter {letter byte : UInt8} (plain : letter ≠ byteOf 'u')
    (stands : escapedByte? letter = some byte) (text : Bytes) :
    parts (unescape (letter :: text)) = .ok ([byte], text) := by
  unfold unescape
  dsimp only
  rw [if_neg plain]
  split
  · next found =>
      rw [stands] at found
      cases found
      rfl
  · next missing =>
      rw [stands] at missing
      cases missing

theorem hexValue?_digitChar {value : Nat} (small : value < 16) :
    hexValue? (byteOf (Nat.digitChar value)) = some value := by
  have all : ∀ digit : Fin 16, hexValue? (byteOf (Nat.digitChar digit)) = some digit := by decide
  exact all ⟨value, small⟩

theorem parts_unescape_control {char : Char} (control : char.toNat < 0x20) (text : Bytes) :
    parts (unescape (byteOf 'u' :: byteOf '0' :: byteOf '0' ::
      byteOf (Nat.digitChar (char.toNat / 16)) :: byteOf (Nat.digitChar (char.toNat % 16)) ::
      text)) = .ok (String.utf8EncodeChar char, text) := by
  have high : char.toNat / 16 < 16 := by omega
  have low : char.toNat % 16 < 16 := by omega
  have quad : parts (hexQuad (byteOf '0' :: byteOf '0' ::
      byteOf (Nat.digitChar (char.toNat / 16)) :: byteOf (Nat.digitChar (char.toNat % 16)) ::
      text)) = .ok (char.toNat, text) := by
    have zero : hexValue? (byteOf '0') = some 0 := by decide
    unfold hexQuad
    simp only [zero, hexValue?_digitChar high, hexValue?_digitChar low, parts_ok]
    congr 2
    omega
  obtain ⟨shorter, same⟩ := eq_ok_of_parts quad
  unfold unescape
  dsimp only
  rw [if_pos rfl, parts_widen]
  unfold unicodeEscape
  rw [same]
  simp only [bind, Except.bind]
  rw [if_neg (by omega), if_neg (by omega)]
  simp only [pure, Except.pure, Rest.map, parts_ok, Char.ofNat_toNat]

/-- How a character is written in a string: by a letter, by the digits of its code, or plainly. -/
inductive Escape (char : Char) : Bytes → Prop
  | letter {letter byte : UInt8} (escapes : letter ∈ escapeLetters)
      (stands : escapedByte? letter = some byte) (encodes : String.utf8EncodeChar char = [byte]) :
      Escape char [byteOf '\\', letter]
  | control (control : char.toNat < 0x20) :
      Escape char [byteOf '\\', byteOf 'u', byteOf '0', byteOf '0',
        byteOf (Nat.digitChar (char.toNat / 16)), byteOf (Nat.digitChar (char.toNat % 16))]
  | plain (stands : ∀ byte ∈ String.utf8EncodeChar char, IsPlain byte) :
      Escape char (String.utf8EncodeChar char)

theorem escape_of_letter {char letter : Char} (ascii : char.toNat ≤ 127)
    (asciiLetter : letter.toNat ≤ 127) (escapes : byteOf letter ∈ escapeLetters)
    (stands : escapedByte? (byteOf letter) = some (byteOf char))
    (escaped : escapeChar char = ['\\', letter]) : Escape char (spell (escapeChar char)) := by
  have spelled : spell (escapeChar char) = [byteOf '\\', byteOf letter] := by
    rw [escaped, spell_cons, spell_cons, utf8EncodeChar_of_ascii asciiLetter,
      utf8EncodeChar_of_ascii (by decide)]
    rfl
  rw [spelled]
  exact .letter escapes stands (utf8EncodeChar_of_ascii ascii)

theorem escape_of_control {char : Char} (control : char.toNat < 0x20)
    (escaped : escapeChar char = ['\\', 'u', '0', '0', Nat.digitChar (char.toNat / 16),
      Nat.digitChar (char.toNat % 16)]) : Escape char (spell (escapeChar char)) := by
  have ascii : ∀ value, value < 16 → (Nat.digitChar value).toNat ≤ 127 := by
    intro value small
    have all : ∀ digit : Fin 16, (Nat.digitChar digit).toNat ≤ 127 := by decide
    exact all ⟨value, small⟩
  have spelled : spell (escapeChar char) = [byteOf '\\', byteOf 'u', byteOf '0', byteOf '0',
      byteOf (Nat.digitChar (char.toNat / 16)), byteOf (Nat.digitChar (char.toNat % 16))] := by
    rw [escaped]
    simp only [spell_cons, spell_nil]
    rw [utf8EncodeChar_of_ascii (ascii (char.toNat / 16) (by omega)),
      utf8EncodeChar_of_ascii (ascii (char.toNat % 16) (by omega))]
    rfl
  rw [spelled]
  exact .control control

theorem escape_escapeChar (char : Char) : Escape char (spell (escapeChar char)) := by
  by_cases quote : char = '"'
  · subst quote
    exact escape_of_letter (by decide) (by decide) (by decide) (by decide) rfl
  by_cases slash : char = '\\'
  · subst slash
    exact escape_of_letter (by decide) (by decide) (by decide) (by decide) rfl
  by_cases line : char = '\n'
  · subst line
    exact escape_of_letter (by decide) (by decide) (by decide) (by decide) rfl
  by_cases carriage : char = '\r'
  · subst carriage
    exact escape_of_letter (by decide) (by decide) (by decide) (by decide) rfl
  by_cases tab : char = '\t'
  · subst tab
    exact escape_of_letter (by decide) (by decide) (by decide) (by decide) rfl
  by_cases backspace : char = '\x08'
  · subst backspace
    exact escape_of_letter (by decide) (by decide) (by decide) (by decide) rfl
  by_cases feed : char = '\x0c'
  · subst feed
    exact escape_of_letter (by decide) (by decide) (by decide) (by decide) rfl
  have others : escapeChar char = if char.toNat < 0x20 then
      ['\\', 'u', '0', '0', Nat.digitChar (char.toNat / 16), Nat.digitChar (char.toNat % 16)]
      else [char] := by
    unfold escapeChar
    rw [if_neg quote, if_neg slash, if_neg line, if_neg carriage, if_neg tab, if_neg backspace,
      if_neg feed]
  by_cases control : char.toNat < 0x20
  · rw [if_pos control] at others
    exact escape_of_control control others
  · rw [if_neg control] at others
    rw [others, spell_cons, spell_nil, List.append_nil]
    exact .plain fun _ => isPlain_of_mem_utf8EncodeChar quote slash control

theorem stringBytes_char {char : Char} {bytes : Bytes} (escape : Escape char bytes)
    (read text : Bytes) (within : (bytes ++ text).length < whole.length) :
    ∃ inside, stringBytes unescape read (bytes ++ text) within =
      stringBytes unescape ((String.utf8EncodeChar char).reverse ++ read) text inside := by
  cases escape with
  | letter escapes stands encodes =>
      rw [encodes]
      exact stringBytes_escape (parts_unescape_letter (escapedByte?_of_mem escapes).1 stands text)
        within
  | control control => exact stringBytes_escape (parts_unescape_control control text) within
  | plain stands => exact stringBytes_plain stands read text within

theorem parts_stringBytes (chars : List Char) (read rest : Bytes)
    (within : (spell (chars.flatMap escapeChar) ++ byteOf '"' :: rest).length < whole.length) :
    parts (stringBytes unescape read (spell (chars.flatMap escapeChar) ++ byteOf '"' :: rest)
      within) = .ok (read.reverse ++ spell chars, rest) := by
  induction chars generalizing read with
  | nil =>
      rw [spell_nil, List.append_nil]
      exact parts_stringBytes_quote rest within
  | cons char chars ih =>
      have cut : spell ((char :: chars).flatMap escapeChar) ++ byteOf '"' :: rest =
          spell (escapeChar char) ++ (spell (chars.flatMap escapeChar) ++ byteOf '"' :: rest) := by
        rw [List.flatMap_cons, spell_append, List.append_assoc]
      revert within
      rw [cut]
      intro within
      obtain ⟨inside, same⟩ := stringBytes_char (escape_escapeChar char) read _ within
      rw [same, ih]
      simp

theorem spell_writeString (value : String) (rest : Bytes) :
    spell (writeString value) ++ rest =
      byteOf '"' :: (spell (value.toList.flatMap escapeChar) ++ byteOf '"' :: rest) := by
  have quote : String.utf8EncodeChar '"' = [byteOf '"'] := utf8EncodeChar_of_ascii (by decide)
  simp [writeString, quote]

theorem parts_stringAfterQuote (quote : UInt8) (value : String) (rest : Bytes) :
    parts (stringAfterQuote quote
      (spell (value.toList.flatMap escapeChar) ++ byteOf '"' :: rest)) = .ok (value, rest) := by
  have within := length_lt_cons quote
    (spell (value.toList.flatMap escapeChar) ++ byteOf '"' :: rest)
  obtain ⟨shorter, same⟩ := eq_ok_of_parts (parts_stringBytes value.toList [] rest within)
  unfold stringAfterQuote
  rw [same]
  simp only [bind, Except.bind, List.reverse_nil, List.nil_append, ← encode_eq_spell,
    Utf8.decode?_encode]
  rfl

theorem understands_text (value : String) : Understands text (.string value) value := by
  intro bytes written blanks rest blank ends
  have solid : isBlankByte (byteOf '"') = false := by decide
  cases written with
  | string =>
      unfold text
      rw [parts_atValue, spell_writeString, skipBlanks_blanks blank solid]
      dsimp only
      rw [if_pos rfl]
      exact parts_stringAfterQuote _ value rest

end Courier.Json
