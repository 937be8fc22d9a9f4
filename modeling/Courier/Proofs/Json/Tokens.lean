import Courier.Proofs.Json.Form
/-!
Reading strings and numbers as they are spelled. What a string or a number is read as, or that it
cannot be read, does not depend on what follows it. Main statements: a string is read as the
characters that it spells, a number with a fraction or an exponent as no whole number, and every
string and number is passed over.
-/

namespace Courier.Json

variable {α β : Type}

/-- The value that was read and the rest of the text, whatever the fault is if there is none. -/
def parts? {text : Bytes} (outcome : Except Fault (Rest text α)) : Option (α × Bytes) :=
  (parts outcome).toOption

@[simp] theorem parts?_ok {text : Bytes} (read : Rest text α) :
    parts? (.ok read) = some (read.value, read.rest) := rfl

@[simp] theorem parts?_error {text : Bytes} (fault : Fault) :
    parts? (.error fault : Except Fault (Rest text α)) = none := rfl

@[simp] theorem parts?_map {text : Bytes} (f : α → β) (outcome : Except Fault (Rest text α)) :
    parts? (outcome.map (Rest.map f)) = (parts? outcome).map (Prod.map f id) := by
  cases outcome with
  | ok read => rfl
  | error fault => rfl

@[simp] theorem parts?_widen {near far : Bytes} (outcome : Except Fault (Rest near α))
    (within : near.length ≤ far.length) :
    parts? (outcome.map fun read => read.widen within) = parts? outcome := by
  cases outcome with
  | ok read => rfl
  | error fault => rfl

theorem parts?_map_widen {near far : Bytes} (f : α → β) (outcome : Except Fault (Rest near α))
    (within : near.length ≤ far.length) :
    parts? (outcome.map fun read => (read.map f).widen within) =
      (parts? outcome).map (Prod.map f id) := by
  cases outcome with
  | ok read => rfl
  | error fault => rfl

theorem parts?_atValue (reader : Reader α) (text : Bytes) :
    parts? (atValue reader text) = parts? (reader (skipBlanks text)) :=
  parts?_widen _ _

theorem parts?_of_parts {text rest : Bytes} {outcome : Except Fault (Rest text α)} {value : α}
    (comes : parts outcome = .ok (value, rest)) : parts? outcome = some (value, rest) := by
  unfold parts?
  rw [comes]
  rfl

theorem eq_ok_of_parts? {text rest : Bytes} {outcome : Except Fault (Rest text α)} {value : α}
    (comes : parts? outcome = some (value, rest)) :
    ∃ shorter, outcome = .ok ⟨value, rest, shorter⟩ := by
  cases outcome with
  | error fault => cases comes
  | ok read =>
      cases comes
      exact ⟨read.shorter, rfl⟩

theorem eq_error_of_parts? {text : Bytes} {outcome : Except Fault (Rest text α)}
    (comes : parts? outcome = none) : ∃ fault, outcome = .error fault := by
  cases outcome with
  | error fault => exact ⟨fault, rfl⟩
  | ok read => cases comes

theorem parts_hexQuad {a b c d : UInt8}
    (digits : ∀ digit ∈ [a, b, c, d], (hexValue? digit).isSome) :
    ∃ value, ∀ text, parts (hexQuad (a :: b :: c :: d :: text)) = .ok (value, text) := by
  have digit : ∀ digit ∈ [a, b, c, d], ∃ value, hexValue? digit = some value :=
    fun digit member => Option.isSome_iff_exists.mp (digits digit member)
  obtain ⟨first, isFirst⟩ := digit a (by simp)
  obtain ⟨second, isSecond⟩ := digit b (by simp)
  obtain ⟨third, isThird⟩ := digit c (by simp)
  obtain ⟨fourth, isFourth⟩ := digit d (by simp)
  refine ⟨((first * 16 + second) * 16 + third) * 16 + fourth, fun text => ?_⟩
  unfold hexQuad
  simp only [isFirst, isSecond, isThird, isFourth]
  rfl

/-- What was read off the front of a string that goes on behind it, whatever follows the string. -/
def Takes (reader : Reader α) (inside : Bytes) (result : Option (α × Bytes)) : Prop :=
  (∀ rest, parts? (reader (inside ++ byteOf '"' :: rest)) =
    result.map fun read => (read.1, read.2 ++ byteOf '"' :: rest)) ∧
  ∀ read, result = some read → Quoted read.2 ∧ read.2.length < inside.length

theorem Takes.of_error {reader : Reader α} {inside : Bytes}
    (fails : ∀ rest, parts? (reader (inside ++ byteOf '"' :: rest)) = none) :
    Takes reader inside none :=
  ⟨fails, fun _ impossible => nomatch impossible⟩

theorem takes_trailingUnit (lead : Nat) {inside : Bytes} (quoted : Quoted inside) :
    ∃ result, Takes (trailingUnit lead) inside result := by
  cases quoted with
  | done => exact ⟨none, .of_error fun _ => rfl⟩
  | plain stands more =>
      refine ⟨none, .of_error fun rest => ?_⟩
      rw [List.cons_append]
      unfold trailingUnit
      dsimp only
      rw [if_pos stands.2.1]
      rfl
  | letter stands more =>
      refine ⟨none, .of_error fun rest => ?_⟩
      rw [List.cons_append, List.cons_append]
      unfold trailingUnit
      dsimp only
      rw [if_neg (by decide), if_pos (escapedByte?_of_mem stands).1]
      rfl
  | @unit a b c d left digits more =>
      obtain ⟨trail, quad⟩ := parts_hexQuad digits
      have reads : ∀ rest, parts? (trailingUnit lead
          (byteOf '\\' :: byteOf 'u' :: a :: b :: c :: d :: left ++ byteOf '"' :: rest)) =
          if 0xDC00 ≤ trail ∧ trail ≤ 0xDFFF then
            some ((lead - 0xD800) * 0x400 + (trail - 0xDC00) + 0x10000, left ++ byteOf '"' :: rest)
          else none := by
        intro rest
        obtain ⟨shorter, found⟩ := eq_ok_of_parts (quad (left ++ byteOf '"' :: rest))
        simp only [List.cons_append]
        unfold trailingUnit
        dsimp only
        rw [if_neg (by decide), if_neg (by decide), found]
        simp only [bind, Except.bind]
        split
        · rfl
        · rfl
      by_cases isTrail : 0xDC00 ≤ trail ∧ trail ≤ 0xDFFF
      · refine ⟨some (_, left), fun rest => (reads rest).trans (if_pos isTrail), ?_⟩
        rintro _ ⟨⟩
        exact ⟨more, by simp only [List.length_cons]; omega⟩
      · exact ⟨none, .of_error fun rest => (reads rest).trans (if_neg isTrail)⟩

theorem takes_unescape {tail : Bytes} (quoted : Quoted (byteOf '\\' :: tail)) :
    ∃ result, Takes unescape tail result := by
  cases quoted with
  | plain stands more => exact absurd rfl stands.2.1
  | @letter letter inside stands more =>
      obtain ⟨other, byte, escaped⟩ := escapedByte?_of_mem stands
      refine ⟨some ([byte], inside), fun rest => ?_, ?_⟩
      · exact parts?_of_parts (parts_unescape_letter other escaped _)
      · rintro _ ⟨⟩
        exact ⟨more, Nat.lt_succ_self _⟩
  | @unit a b c d inside digits more =>
      obtain ⟨unit, quad⟩ := parts_hexQuad digits
      have escapes : ∀ text, parts? (unescape (byteOf 'u' :: a :: b :: c :: d :: text)) =
          if 0xDC00 ≤ unit ∧ unit ≤ 0xDFFF then none
          else if 0xD800 ≤ unit ∧ unit ≤ 0xDBFF then
            (parts? (trailingUnit unit text)).map
              (Prod.map (fun value => String.utf8EncodeChar (Char.ofNat value)) id)
          else some (String.utf8EncodeChar (Char.ofNat unit), text) := by
        intro text
        obtain ⟨shorter, found⟩ := eq_ok_of_parts (quad text)
        unfold unescape
        dsimp only
        rw [if_pos rfl, parts?_widen]
        unfold unicodeEscape
        rw [found]
        simp only [bind, Except.bind]
        split
        · rfl
        · split
          · cases trailingUnit unit text with
            | ok read => rfl
            | error fault => rfl
          · rfl
      by_cases isTrail : 0xDC00 ≤ unit ∧ unit ≤ 0xDFFF
      · exact ⟨none, .of_error fun rest => (escapes _).trans (if_pos isTrail)⟩
      by_cases isLead : 0xD800 ≤ unit ∧ unit ≤ 0xDBFF
      · obtain ⟨result, takes, shortens⟩ := takes_trailingUnit unit more
        refine ⟨result.map (Prod.map (fun value => String.utf8EncodeChar (Char.ofNat value)) id),
          fun rest => ?_, ?_⟩
        · have reads := takes rest
          refine (escapes (inside ++ byteOf '"' :: rest)).trans ?_
          rw [if_neg isTrail, if_pos isLead, reads]
          cases result with
          | none => rfl
          | some read => rfl
        · intro read taken
          cases result with
          | none => cases taken
          | some pair =>
              cases taken
              obtain ⟨quoted, shorter⟩ := shortens pair rfl
              exact ⟨quoted, by simp only [List.length_cons, Prod.map, id]; omega⟩
      · refine ⟨some (String.utf8EncodeChar (Char.ofNat unit), inside), fun rest => ?_, ?_⟩
        · refine (escapes (inside ++ byteOf '"' :: rest)).trans ?_
          rw [if_neg isTrail, if_neg isLead]
          rfl
        · rintro _ ⟨⟩
          exact ⟨more, by simp only [List.length_cons]; omega⟩

/-! ### Strings -/

/-- The bytes up to the closing quote are read in one way, whatever follows the string. -/
def Settled (read inside : Bytes) : Prop :=
  ∃ result : Option Bytes, ∀ (whole rest : Bytes)
    (within : (inside ++ byteOf '"' :: rest).length < whole.length),
    parts? (stringBytes unescape read (inside ++ byteOf '"' :: rest) within) =
      result.map fun bytes => (bytes, rest)

theorem settled_escape {tail : Bytes} (quoted : Quoted (byteOf '\\' :: tail))
    (settled : ∀ left, Quoted left → left.length < tail.length → ∀ read, Settled read left)
    (read : Bytes) : Settled read (byteOf '\\' :: tail) := by
  obtain ⟨result, takes, shortens⟩ := takes_unescape quoted
  cases result with
  | none =>
      refine ⟨none, fun whole rest within => ?_⟩
      obtain ⟨fault, fails⟩ := eq_error_of_parts? (takes rest)
      simp only [List.cons_append]
      rw [stringBytes, if_neg (by decide), if_pos rfl, fails]
      rfl
  | some taken =>
      obtain ⟨more, shorter⟩ := shortens taken rfl
      obtain ⟨result, reads⟩ := settled taken.2 more shorter (taken.1.reverse ++ read)
      refine ⟨result, fun whole rest within => ?_⟩
      obtain ⟨bound, found⟩ := eq_ok_of_parts? (takes rest)
      simp only [List.cons_append]
      rw [stringBytes, if_neg (by decide), if_pos rfl, found]
      exact reads whole rest _

theorem settled {inside : Bytes} (quoted : Quoted inside) (read : Bytes) : Settled read inside := by
  -- An escape takes several bytes at once, so the induction is on how many there are.
  induction size : inside.length using Nat.strongRecOn generalizing inside read with
  | ind length ih =>
      subst size
      have escapes : ∀ tail, inside = byteOf '\\' :: tail → Settled read inside := by
        rintro tail rfl
        exact settled_escape quoted (fun left more shorter read =>
          ih left.length (Nat.lt_succ_of_lt shorter) more read rfl) read
      cases quoted with
      | done =>
          exact ⟨some read.reverse, fun whole rest within =>
            parts?_of_parts (parts_stringBytes_quote rest within)⟩
      | @plain byte left stands more =>
          obtain ⟨result, reads⟩ := ih left.length (Nat.lt_succ_self _) more (byte :: read) rfl
          refine ⟨result, fun whole rest within => ?_⟩
          obtain ⟨noQuote, noSlash, noControl⟩ := stands
          simp only [List.cons_append]
          rw [stringBytes, if_neg noQuote, if_neg noSlash, if_neg noControl]
          exact reads whole rest _
      | letter stands more => exact escapes _ rfl
      | unit digits more => exact escapes _ rfl

/-- The characters that a string spells; nothing if it spells half of a surrogate pair, or bytes
that are no characters. -/
def spelled? (inside : Bytes) : Option String :=
  (parts? (stringAfterQuote (byteOf '"') (inside ++ [byteOf '"']))).map Prod.fst

theorem parts?_stringAfterQuote {inside : Bytes} (quoted : Quoted inside) (quote : UInt8)
    (rest : Bytes) :
    parts? (stringAfterQuote quote (inside ++ byteOf '"' :: rest)) =
      (spelled? inside).map fun text => (text, rest) := by
  obtain ⟨result, reads⟩ := settled quoted []
  have decodes : ∀ (quote : UInt8) (rest : Bytes),
      parts? (stringAfterQuote quote (inside ++ byteOf '"' :: rest)) =
        (result.bind Utf8.decode?).map fun text => (text, rest) := by
    intro quote rest
    have comes := reads (quote :: (inside ++ byteOf '"' :: rest)) rest (length_lt_cons _ _)
    unfold stringAfterQuote
    cases result with
    | none =>
        obtain ⟨fault, fails⟩ := eq_error_of_parts? comes
        rw [fails]
        rfl
    | some bytes =>
        obtain ⟨shorter, found⟩ := eq_ok_of_parts? comes
        rw [found]
        simp only [bind, Except.bind, Option.bind]
        cases Utf8.decode? bytes with
        | none => rfl
        | some text => rfl
  unfold spelled?
  rw [decodes, decodes]
  cases result.bind Utf8.decode? with
  | none => rfl
  | some text => rfl

theorem spelled?_escaped (text : String) : spelled? (escaped text) = some text := by
  obtain ⟨shorter, reads⟩ := eq_ok_of_parts (parts_stringAfterQuote (byteOf '"') text [])
  unfold spelled? escaped
  rw [reads]
  rfl

theorem parts?_stringBytes_skipEscape {inside : Bytes} (quoted : Quoted inside) (read : Bytes) :
    ∃ bytes, ∀ (whole rest : Bytes)
      (within : (inside ++ byteOf '"' :: rest).length < whole.length),
      parts? (stringBytes skipEscape read (inside ++ byteOf '"' :: rest) within) =
        some (bytes, rest) := by
  induction quoted generalizing read with
  | done =>
      exact ⟨read.reverse, fun whole rest within =>
        parts?_of_parts (parts_stringBytes_quote rest within)⟩
  | @plain byte left stands more ih =>
      obtain ⟨bytes, reads⟩ := ih (byte :: read)
      refine ⟨bytes, fun whole rest within => ?_⟩
      obtain ⟨noQuote, noSlash, noControl⟩ := stands
      simp only [List.cons_append]
      rw [stringBytes, if_neg noQuote, if_neg noSlash, if_neg noControl]
      exact reads whole rest _
  | @letter letter left stands more ih =>
      obtain ⟨bytes, reads⟩ := ih read
      obtain ⟨other, byte, escaped⟩ := escapedByte?_of_mem stands
      refine ⟨bytes, fun whole rest within => ?_⟩
      have skips : parts (skipEscape (letter :: (left ++ byteOf '"' :: rest))) =
          .ok ([], left ++ byteOf '"' :: rest) := by
        unfold skipEscape
        dsimp only
        rw [if_neg other, if_pos (by rw [escaped]; rfl)]
        rfl
      obtain ⟨inside, same⟩ := stringBytes_escape skips within
      simp only [List.cons_append]
      rw [same]
      exact reads whole rest _
  | @unit a b c d left digits more ih =>
      obtain ⟨bytes, reads⟩ := ih read
      obtain ⟨unit, quad⟩ := parts_hexQuad digits
      refine ⟨bytes, fun whole rest within => ?_⟩
      have skips : parts (skipEscape (byteOf 'u' :: a :: b :: c :: d ::
          (left ++ byteOf '"' :: rest))) = .ok ([], left ++ byteOf '"' :: rest) := by
        unfold skipEscape
        dsimp only
        rw [if_pos rfl, parts_map_widen, quad]
        rfl
      obtain ⟨inside, same⟩ := stringBytes_escape skips within
      simp only [List.cons_append]
      rw [same]
      exact reads whole rest _

theorem parts?_skipStringAfterQuote {inside : Bytes} (quoted : Quoted inside) (quote : UInt8)
    (rest : Bytes) :
    parts? (skipStringAfterQuote quote (inside ++ byteOf '"' :: rest)) = some ((), rest) := by
  obtain ⟨bytes, reads⟩ := parts?_stringBytes_skipEscape quoted []
  unfold skipStringAfterQuote
  have comes := reads (quote :: (inside ++ byteOf '"' :: rest)) rest (length_lt_cons _ _)
  obtain ⟨shorter, found⟩ := eq_ok_of_parts? comes
  rw [found]
  rfl

theorem Exponent.noDigit {exponent rest : Bytes} (exponents : Exponent exponent)
    (ends : Ends rest) : NoDigit (exponent ++ rest) := by
  cases exponents with
  | none => exact ends.noDigit
  | digits marks signs digits =>
      rcases marks with rfl | rfl
      · exact noDigit_cons (by decide) _
      · exact noDigit_cons (by decide) _

theorem Fraction.noDigit {fraction rest : Bytes} (fractions : Fraction fraction)
    (stops : NoDigit rest) : NoDigit (fraction ++ rest) := by
  cases fractions with
  | none => exact stops
  | digits digits => exact noDigit_cons (by decide) _

theorem splitSign_signed {sign : Bytes}
    (signs : sign = [] ∨ sign = [byteOf '+'] ∨ sign = [byteOf '-']) {first : UInt8}
    (digit : isDigitByte first = true) (more : Bytes) :
    (splitSign (sign ++ first :: more)).2 = first :: more := by
  rcases signs with rfl | rfl | rfl
  · unfold splitSign
    dsimp only [List.nil_append]
    rw [if_neg (ne_of_isDigitByte digit (by decide)),
      if_neg (ne_of_isDigitByte digit (by decide))]
  · rfl
  · rfl

theorem parts?_skipExponentAfter {exponent rest text : Bytes} (exponents : Exponent exponent)
    (ends : Ends rest) (spelled : text = exponent ++ rest) {whole : Bytes}
    (within : text.length < whole.length) :
    parts? (skipExponentAfter text within) = some ((), rest) := by
  subst spelled
  cases exponents with
  | none =>
      unfold skipExponentAfter
      cases rest with
      | nil => rfl
      | cons byte more =>
          obtain ⟨-, -, small, great⟩ := ends byte more rfl
          dsimp only [List.nil_append]
          rw [if_neg (not_or.mpr ⟨small, great⟩)]
          rfl
  | @digits mark sign first more marks signs digits =>
      have digit := digits first List.mem_cons_self
      have split := splitSign_signed signs digit (more ++ rest)
      have skips : parts? (skipExponent ((sign ++ first :: more) ++ rest)) = some ((), rest) := by
        rw [List.append_assoc, List.cons_append]
        unfold skipExponent
        refine (congrArg parts? (ahead_of_cons split _ _)).trans ?_
        rw [if_pos digit]
        exact congrArg (fun rest => some ((), rest))
          (frontDigits_of_noDigit digits.tail ends.noDigit).2
      unfold skipExponentAfter
      dsimp only [List.cons_append]
      rw [if_pos marks, parts?_widen]
      exact skips

theorem Exponent.noPoint {exponent rest : Bytes} (exponents : Exponent exponent)
    (ends : Ends rest) {byte : UInt8} {more : Bytes} (front : exponent ++ rest = byte :: more) :
    byte ≠ byteOf '.' := by
  cases exponents with
  | none => exact (ends byte more front).2.1
  | digits marks signs digits =>
      obtain ⟨rfl, -⟩ := List.cons.inj front
      rcases marks with rfl | rfl
      · decide
      · decide

theorem skipNumberAfter_of_noPoint {text whole : Bytes}
    (noPoint : ∀ {byte more}, text = byte :: more → byte ≠ byteOf '.')
    (within : text.length < whole.length) :
    skipNumberAfter text within = skipExponentAfter text within := by
  unfold skipNumberAfter
  cases text with
  | nil => rfl
  | cons byte more => exact if_neg (noPoint rfl)

theorem parts?_skipNumberAfter {fraction exponent rest text : Bytes}
    (fractions : Fraction fraction) (exponents : Exponent exponent) (ends : Ends rest)
    (spelled : text = fraction ++ (exponent ++ rest)) {whole : Bytes}
    (within : text.length < whole.length) :
    parts? (skipNumberAfter text within) = some ((), rest) := by
  subst spelled
  cases fractions with
  | none =>
      have skips := skipNumberAfter_of_noPoint (exponents.noPoint ends) within
      exact (congrArg parts? skips).trans (parts?_skipExponentAfter exponents ends rfl within)
  | @digits first more digits =>
      obtain ⟨front, after⟩ := frontDigits_of_noDigit digits (exponents.noDigit ends)
      unfold skipNumberAfter
      dsimp only [List.cons_append]
      rw [if_pos rfl, if_neg (by rw [← List.cons_append, front]; exact Bool.false_ne_true)]
      exact parts?_skipExponentAfter exponents ends after _

theorem parts?_skipNumberDigits {digits rest : Bytes} (unsigned : Unsigned digits)
    (ends : Ends rest) : parts? (skipNumberDigits (digits ++ rest)) = some ((), rest) := by
  cases unsigned with
  | @mk whole fraction exponent wholes fractions exponents =>
      have stops := fractions.noDigit (exponents.noDigit ends)
      have spelled : whole ++ (fraction ++ exponent) ++ rest =
          whole ++ (fraction ++ (exponent ++ rest)) := by
        simp only [List.append_assoc]
      rw [spelled]
      cases wholes with
      | zero =>
          unfold skipNumberDigits
          dsimp only [List.cons_append, List.nil_append]
          rw [if_pos rfl]
          generalize front : fraction ++ (exponent ++ rest) = text at stops
          cases text with
          | nil =>
              obtain ⟨-, more⟩ := List.append_eq_nil_iff.mp front
              obtain ⟨-, rfl⟩ := List.append_eq_nil_iff.mp more
              rfl
          | cons byte more =>
              dsimp only
              rw [if_neg (by rw [stops byte more rfl]; exact Bool.false_ne_true)]
              exact parts?_skipNumberAfter fractions exponents ends front.symm _
      | @count first more nonzero digits =>
          obtain ⟨-, after⟩ := frontDigits_of_noDigit digits.tail stops
          unfold skipNumberDigits
          dsimp only [List.cons_append]
          rw [if_neg nonzero, if_pos (digits first List.mem_cons_self)]
          exact parts?_skipNumberAfter fractions exponents ends after _

/-! ### Whole numbers -/

/-- A reading that comes to no whole number, if it comes to any. -/
def NoWhole {text : Bytes} (outcome : Except Fault (Rest text Number)) : Prop :=
  ∀ read, outcome = .ok read → ∀ value, read.value ≠ .whole value

theorem NoWhole.widen {near far : Bytes} {outcome : Except Fault (Rest near Number)}
    (real : NoWhole outcome) (within : near.length ≤ far.length) :
    NoWhole (outcome.map fun read => read.widen within) := by
  rintro read comes value whole
  cases outcome with
  | error fault => cases comes
  | ok inner =>
      cases comes
      exact real inner rfl value whole

theorem realOf_ne_whole {negative : Bool} {significand : Nat} {power : Int} {number : Number}
    (reads : realOf negative significand power = .ok number) (value : Int) :
    number ≠ .whole value := by
  unfold realOf at reads
  split at reads
  · cases reads
    exact Number.noConfusion
  · cases reads

theorem noWhole_realOf (negative : Bool) (significand : Nat) (power : Int) {whole text : Bytes}
    (within : text.length < whole.length) :
    NoWhole ((realOf negative significand power).map fun number =>
      (⟨number, text, within⟩ : Rest whole Number)) := by
  intro read comes
  cases reads : realOf negative significand power with
  | error fault =>
      rw [reads] at comes
      cases comes
  | ok number =>
      rw [reads] at comes
      cases comes
      exact realOf_ne_whole reads

theorem noWhole_exponentPart (negative : Bool) (significand : Nat) (power : Int) (text : Bytes) :
    NoWhole (exponentPart negative significand power text) := by
  intro read comes
  unfold exponentPart at comes
  dsimp only at comes
  split at comes
  · cases comes
  · simp only [bind, Except.bind] at comes
    split at comes
    · cases comes
    · split at comes
      · split at comes
        · cases comes
        · split at comes
          · cases comes
          · next reads =>
              cases comes
              exact realOf_ne_whole reads
      · split at comes
        · cases comes
        · next reads =>
            cases comes
            exact realOf_ne_whole reads

theorem noWhole_exponentAfter (negative : Bool) (significand : Nat) (power : Int)
    {whole text : Bytes} (within : text.length < whole.length) :
    NoWhole (exponentAfter negative significand power text within) := by
  unfold exponentAfter
  cases text with
  | nil => exact noWhole_realOf negative significand power within
  | cons byte rest =>
      dsimp only
      split
      · exact (noWhole_exponentPart negative significand power rest).widen _
      · exact noWhole_realOf negative significand power within

theorem noWhole_fractionAfter (negative : Bool) (significand : Nat) (power : Int)
    {whole text : Bytes} (within : text.length < whole.length) :
    NoWhole (fractionAfter negative significand power text within) := by
  unfold fractionAfter
  split
  · split
    · rintro _ ⟨⟩
    · rintro _ ⟨⟩
  · exact noWhole_exponentAfter negative _ _ _

def Number.whole? : Number → Option Int
  | .whole value => some value
  | .real _ => none

def wholes? {text : Bytes} (outcome : Except Fault (Rest text Number)) : Option (Int × Bytes) :=
  (parts? outcome).bind fun read => read.1.whole?.map fun value => (value, read.2)

theorem NoWhole.wholes? {text : Bytes} {outcome : Except Fault (Rest text Number)}
    (real : NoWhole outcome) : wholes? outcome = none := by
  cases outcome with
  | error fault => rfl
  | ok read =>
      have other := real read rfl
      unfold Json.wholes?
      rw [parts?_ok, Option.bind_some]
      cases number : read.value with
      | whole value => exact absurd number (other value)
      | real bits => rfl

theorem wholes?_map {whole rest : Bytes} (outcome : Except Fault Number)
    (within : rest.length < whole.length) :
    wholes? (outcome.map fun number => (⟨number, rest, within⟩ : Rest whole Number)) =
      (outcome.toOption.bind Number.whole?).map fun value => (value, rest) := by
  cases outcome with
  | error fault => rfl
  | ok number => rfl

theorem wholes?_numberAfter (negative : Bool) (significand dropped : Nat)
    {fraction exponent : Bytes} (fractions : Fraction fraction) (exponents : Exponent exponent) :
    ∃ result : Option Int, ∀ (rest text whole : Bytes) (within : text.length < whole.length),
      Ends rest → text = fraction ++ (exponent ++ rest) →
      wholes? (numberAfter negative significand dropped text within) =
        result.map fun value => (value, rest) := by
  cases fractions with
  | digits digits =>
      refine ⟨none, ?_⟩
      rintro rest _ whole within - rfl
      unfold numberAfter
      dsimp only [List.cons_append]
      rw [if_pos rfl]
      exact (noWhole_fractionAfter negative significand dropped _).wholes?
  | none =>
      cases exponents with
      | @digits mark sign first more marks signs digits =>
          refine ⟨none, ?_⟩
          rintro rest _ whole within - rfl
          have noPoint : mark ≠ byteOf '.' := by
            rcases marks with rfl | rfl
            · decide
            · decide
          unfold numberAfter
          dsimp only [List.nil_append, List.cons_append]
          rw [if_neg noPoint, if_pos marks]
          exact (noWhole_exponentAfter negative significand dropped _).wholes?
      | none =>
          let plain : Except Fault Number :=
            if dropped = 0 then wholeOf negative significand
            else realOf negative significand dropped
          refine ⟨plain.toOption.bind Number.whole?, ?_⟩
          intro rest text whole within ends same
          obtain rfl : text = rest := same
          refine Eq.trans ?_ (wholes?_map plain within)
          unfold numberAfter
          cases text with
          | nil => rfl
          | cons byte more =>
              obtain ⟨-, noPoint, small, great⟩ := ends byte more rfl
              dsimp only
              rw [if_neg noPoint, if_neg (not_or.mpr ⟨small, great⟩)]

theorem wholes?_numberDigits (negative : Bool) {digits : Bytes} (unsigned : Unsigned digits) :
    ∃ result : Option Int, ∀ rest, Ends rest →
      wholes? (numberDigits negative (digits ++ rest)) =
        result.map fun value => (value, rest) := by
  cases unsigned with
  | @mk whole fraction exponent wholes fractions exponents =>
      have spelled : ∀ rest, whole ++ (fraction ++ exponent) ++ rest =
          whole ++ (fraction ++ (exponent ++ rest)) := by
        intro rest
        simp only [List.append_assoc]
      cases wholes with
      | zero =>
          obtain ⟨result, reads⟩ := wholes?_numberAfter negative 0 0 fractions exponents
          refine ⟨result, fun rest ends => ?_⟩
          have stops := fractions.noDigit (exponents.noDigit ends)
          rw [spelled]
          unfold numberDigits
          dsimp only [List.cons_append, List.nil_append]
          rw [if_pos rfl]
          generalize front : fraction ++ (exponent ++ rest) = text at stops
          cases text with
          | nil => exact reads rest [] _ _ ends front.symm
          | cons byte more =>
              dsimp only
              rw [if_neg (by rw [stops byte more rfl]; exact Bool.false_ne_true)]
              exact reads rest (byte :: more) _ _ ends front.symm
      | @count first more nonzero digits =>
          obtain ⟨result, reads⟩ := wholes?_numberAfter negative (gather (digitValue first) more).1
            (more.length - (gather (digitValue first) more).2) fractions exponents
          refine ⟨result, fun rest ends => ?_⟩
          have stops := fractions.noDigit (exponents.noDigit ends)
          obtain ⟨front, after⟩ := frontDigits_of_noDigit digits.tail stops
          rw [spelled]
          unfold numberDigits
          dsimp only [List.cons_append]
          rw [if_neg nonzero, if_pos (digits first List.mem_cons_self)]
          simp only [front]
          exact reads rest _ _ _ ends after

def takeWhole (wanted : String) (accept : Int → Option α) {whole : Bytes}
    (number : Rest whole Number) : Except Fault (Rest whole α) :=
  match number.value with
  | .real bits => throw (.wrongType (.real bits) wanted)
  | .whole value =>
    match accept value with
    | some accepted => return number.map fun _ => accepted
    | none => throw (.wrongValue (.integer value) wanted)

theorem parts?_takeWhole (wanted : String) (accept : Int → Option α) {whole : Bytes}
    (number : Except Fault (Rest whole Number)) :
    parts? (number >>= takeWhole wanted accept) =
      (wholes? number).bind fun read => (accept read.1).map fun value => (value, read.2) := by
  cases number with
  | error fault => rfl
  | ok read =>
      obtain ⟨number, left, shorter⟩ := read
      cases number with
      | real bits => rfl
      | whole value =>
          simp only [bind, Except.bind, wholes?, parts?_ok, Option.bind, Number.whole?, Option.map,
            takeWhole]
          cases accept value with
          | none => rfl
          | some accepted => rfl

theorem wholeNumber_local (wanted : String) (accept : Int → Option α) {digits : Bytes}
    (numeral : Numeral digits) :
    ∃ result : Option α, ∀ blanks rest, Blanks blanks → Ends rest →
      parts? (wholeNumber wanted accept (blanks ++ (digits ++ rest))) =
        result.map fun value => (value, rest) := by
  have widens : ∀ {near far : Bytes} (outcome : Except Fault (Rest near Number))
      (within : near.length ≤ far.length),
      wholes? (outcome.map fun read => read.widen within) = wholes? outcome := by
    intro near far outcome within
    unfold wholes?
    rw [parts?_widen]
  cases numeral with
  | @positive digits unsigned =>
      obtain ⟨result, reads⟩ := wholes?_numberDigits false unsigned
      refine ⟨result.bind accept, fun blanks rest blank ends => ?_⟩
      have comes := reads rest ends
      obtain ⟨first, more, rfl, digit⟩ := unsigned.begins
      unfold wholeNumber
      rw [parts?_atValue, List.cons_append,
        skipBlanks_blanks blank (isBlankByte_of_isDigitByte digit)]
      dsimp only
      rw [if_neg (ne_of_isDigitByte digit (by decide)), if_pos digit]
      refine (parts?_takeWhole wanted accept _).trans ?_
      rw [← List.cons_append, comes]
      cases result with
      | none => rfl
      | some value => rfl
  | @negative digits unsigned =>
      obtain ⟨result, reads⟩ := wholes?_numberDigits true unsigned
      refine ⟨result.bind accept, fun blanks rest blank ends => ?_⟩
      have minus : isBlankByte (byteOf '-') = false := by decide
      unfold wholeNumber
      rw [parts?_atValue, List.cons_append, skipBlanks_blanks blank minus]
      dsimp only
      rw [if_pos rfl]
      refine (parts?_takeWhole wanted accept _).trans ?_
      rw [widens, reads rest ends]
      cases result with
      | none => rfl
      | some value => rfl

end Courier.Json
