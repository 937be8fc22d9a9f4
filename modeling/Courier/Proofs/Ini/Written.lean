import Courier.Ini.Read
import Mathlib.Data.List.Forall2
/-!
Written settings, read again. A line in which nothing means more than it says takes the reader to
the start of the next line, and all that the reader keeps of it is the section or the entry that it
spells. A backslash in a value is not kept: the reader takes it for the beginning of an escape. Main
statement: lines are read as the sections and entries that they mean, in their order.
-/

namespace Courier

namespace IniLine

def isWordChar (char : Char) : Bool :=
  (0x61 ≤ char.toNat && char.toNat ≤ 0x7A) || char == '_'

/-- A name of sections and keys: small letters and bars below the line. -/
structure IsWord (text : String) : Prop where
  filled : text ≠ ""
  letters : ∀ char ∈ text.toList, isWordChar char = true

/-- A value without escapes, line breaks and a quote in front. -/
structure IsPlain (text : String) : Prop where
  whole : ∀ char ∈ text.toList, char ≠ '\\' ∧ char ≠ '\n' ∧ char ≠ '\r'
  unquoted : ∀ char, text.toList.head? = some char → char ≠ '"' ∧ char ≠ '\''

/-- A value that is read as it is written: plain, and without blanks around it. -/
structure IsVerbatim (text : String) : Prop extends IsPlain text where
  trimmed : Text.trim text = text

-- The characters of a text are tested one by one; to decide about all characters there are is far
-- too much.
instance (text : String) : Decidable (IsWord text) :=
  decidable_of_iff (text ≠ "" ∧ text.toList.all isWordChar = true)
    ⟨fun ⟨filled, letters⟩ => ⟨filled, List.all_eq_true.mp letters⟩,
      fun word => ⟨word.filled, List.all_eq_true.mpr word.letters⟩⟩

instance (text : String) : Decidable (IsPlain text) :=
  decidable_of_iff
    (text.toList.all (fun char => char ≠ '\\' ∧ char ≠ '\n' ∧ char ≠ '\r') = true ∧
      text.toList.head?.all (fun char => char ≠ '"' ∧ char ≠ '\'') = true)
    (by
      rw [List.all_eq_true, Option.all_eq_true]
      simp only [decide_eq_true_eq]
      exact ⟨fun ⟨whole, unquoted⟩ => ⟨whole, unquoted⟩,
        fun plain => ⟨plain.whole, plain.unquoted⟩⟩)

instance (text : String) : Decidable (IsVerbatim text) :=
  decidable_of_iff (IsPlain text ∧ Text.trim text = text)
    ⟨fun ⟨plain, trimmed⟩ => ⟨plain, trimmed⟩,
      fun verbatim => ⟨verbatim.toIsPlain, verbatim.trimmed⟩⟩

def Legible : IniLine → Prop
  | .blank => True
  | .comment text => '\n' ∉ text.toList
  | .heading name => IsWord name
  | .entry key value => IsWord key ∧ IsVerbatim value

instance (line : IniLine) : Decidable line.Legible :=
  match line with
  | .blank => isTrue trivial
  | .comment text => inferInstanceAs (Decidable ('\n' ∉ text.toList))
  | .heading name => inferInstanceAs (Decidable (IsWord name))
  | .entry key value => inferInstanceAs (Decidable (IsWord key ∧ IsVerbatim value))

def value? : IniLine → Option String
  | .entry _ value => some value
  | _ => none

def bare : IniLine → IniLine
  | .entry key _ => .entry key ""
  | line => line

theorem legible_of_bare {line : IniLine} (framed : line.bare.Legible)
    (filled : ∀ value ∈ line.value?, IsVerbatim value) : line.Legible := by
  cases line with
  | blank => exact framed
  | comment text => exact framed
  | heading name => exact framed
  | entry key value => exact ⟨framed.1, filled value rfl⟩

theorem toList_join_cons (line : IniLine) (rest : List IniLine) :
    (join (line :: rest)).toList = (line.text.toList ++ ['\n']) ++ (join rest).toList := by
  simp only [join, List.map_cons, String.join_cons, String.toList_append]
  rfl

theorem ne_of_isWordChar {char : Char} (word : isWordChar char = true) (other : Char)
    (special : isWordChar other = false) : char ≠ other := by
  intro same
  rw [same, special] at word
  cases word

theorem isBlank_of_isWordChar {char : Char} (word : isWordChar char = true) :
    Text.isBlank char = false := by
  have range : 0x5F ≤ char.toNat ∧ char.toNat ≤ 0x7A := by
    simp only [isWordChar, Bool.or_eq_true, Bool.and_eq_true, decide_eq_true_eq,
      beq_iff_eq] at word
    rcases word with letter | bar
    · omega
    · subst bar
      decide
  simp only [Text.isBlank, Bool.or_eq_false_iff, Bool.and_eq_false_iff, decide_eq_false_iff_not,
    beq_eq_false_iff_ne]
  omega

theorem IsWord.trim {text : String} (word : IsWord text) :
    Text.dropEnds Text.isBlank text.toList = text.toList := by
  refine Text.dropEnds_eq_self (fun char first => ?_) (fun char last => ?_)
  · exact isBlank_of_isWordChar (word.letters char (List.mem_of_mem_head? first))
  · exact isBlank_of_isWordChar (word.letters char (List.mem_of_mem_getLast? last))

end IniLine

namespace Ini.Reading

open IniLine

def within (phase : Phase) (reading : Reading) : Reading :=
  { reading with phase, atLineStart := false }

theorem step_of_advance {reading : Reading} {char : Char} (same : char ≠ '\n') (next : Reading)
    (advances : reading.advance char = .ok next) :
    reading.step char = .ok (next.within next.phase) := by
  unfold step
  rw [advances]
  simp [Except.map, within, same]

variable (reading : Reading)

theorem step_text {kind : IniText} {value : Option (List Char)} {char : Char}
    (unended : isStop kind char = false) (whole : char ≠ '\\') (same : char ≠ '\n')
    (read : List Char) :
    (reading.within (.text kind value read .none)).step char =
      .ok (reading.within (.text kind value (char :: read) .none)) := by
  refine step_of_advance same (reading.within (.text kind value (char :: read) .none)) ?_
  simp [advance, within, textStep, plainStep, unended, whole, enter]

theorem foldlM_text {kind : IniText} {value : Option (List Char)} {chars : List Char}
    (unended : ∀ char ∈ chars, isStop kind char = false)
    (whole : ∀ char ∈ chars, char ≠ '\\' ∧ char ≠ '\n') (read : List Char) :
    chars.foldlM step (reading.within (.text kind value read .none)) =
      .ok (reading.within (.text kind value (chars.reverse ++ read) .none)) := by
  induction chars generalizing read with
  | nil => rfl
  | cons char rest ih =>
      obtain ⟨noEscape, same⟩ := whole char List.mem_cons_self
      rw [List.foldlM_cons, step_text reading (unended char List.mem_cons_self) noEscape same]
      have goesOn := ih (fun other member => unended other (List.mem_cons_of_mem char member))
        (fun other member => whole other (List.mem_cons_of_mem char member)) (char :: read)
      rw [List.reverse_cons, List.append_assoc]
      exact goesOn

theorem foldlM_comment (chars : List Char) (same : '\n' ∉ chars) :
    chars.foldlM step (reading.within .comment) = .ok (reading.within .comment) := by
  induction chars with
  | nil => rfl
  | cons char rest ih =>
      have apart : char ≠ '\n' := by
        intro equal
        exact same (equal ▸ List.mem_cons_self)
      have stays : (reading.within .comment).step char = .ok (reading.within .comment) := by
        refine step_of_advance apart (reading.within .comment) ?_
        simp [advance, within, apart]
      rw [List.foldlM_cons, stays]
      exact ih fun member => same (List.mem_cons_of_mem char member)

/-! ### From line to line -/

/-- Everything that was read has its place, and a line begins. -/
structure BetweenLines : Prop where
  unnamed : reading.key = ""
  start : reading.atLineStart = true
  phase : reading.phase = .ready ∨ ∃ broke, reading.phase = .gap broke

def take (reading : Reading) : IniLine → Reading
  | .blank => reading
  | .comment _ => reading
  | .heading name => reading.addSection name
  | .entry key value => { reading with entries := (key, value) :: reading.entries }

theorem take_enter (phase : Phase) (line : IniLine) :
    (reading.enter phase).take line = (reading.take line).enter phase := by
  cases line with
  | blank => rfl
  | comment text => rfl
  | heading name => rfl
  | entry key value => rfl

theorem ini_foldl_take_enter (phase : Phase) (lines : List IniLine) :
    (lines.foldl take (reading.enter phase)).ini = (lines.foldl take reading).ini := by
  induction lines generalizing reading with
  | nil => rfl
  | cons line rest ih =>
      rw [List.foldl_cons, take_enter, List.foldl_cons]
      exact ih (reading.take line)

variable {reading}

theorem BetweenLines.take_enter (between : reading.BetweenLines) (line : IniLine) (broke : Bool) :
    ((reading.take line).enter (.gap broke)).BetweenLines := by
  refine ⟨?_, ?_, .inr ⟨broke, rfl⟩⟩
  · cases line with
    | blank => exact between.unnamed
    | comment text => exact between.unnamed
    | heading name => exact between.unnamed
    | entry key value => exact between.unnamed
  · cases line with
    | blank => exact between.start
    | comment text => exact between.start
    | heading name => exact between.start
    | entry key value => exact between.start

theorem BetweenLines.advance_eq (between : reading.BetweenLines) {char : Char}
    (shown : Text.isBlank char = false) : reading.advance char = reading.begin char := by
  have apart : ∀ blank, Text.isBlank blank = true → char ≠ blank := by
    intro blank isBlank same
    rw [same, isBlank] at shown
    cases shown
  unfold advance
  rcases between.phase with ready | ⟨broke, gap⟩
  · rw [ready]
  · rw [gap]
    simp [gapStep, shown, apart ' ' (by decide), apart '\t' (by decide), apart '\n' (by decide),
      apart '\r' (by decide)]

theorem foldlM_append_ok {next : Reading} {front rest : List Char}
    (reads : front.foldlM step reading = .ok next) :
    (front ++ rest).foldlM step reading = rest.foldlM step next := by
  rw [List.foldlM_append, reads]
  rfl

theorem BetweenLines.read_blank (between : reading.BetweenLines) :
    ∃ broke, ['\n'].foldlM step reading = .ok (reading.enter (.gap broke)) := by
  obtain ⟨finished, name, entries, key, start, phase⟩ := reading
  obtain ⟨rfl, rfl, ready | ⟨broke, gap⟩⟩ := between
  · subst ready
    exact ⟨false, rfl⟩
  · subst gap
    refine ⟨true, ?_⟩
    simp [step, advance, gapStep, enter]
    rfl

theorem BetweenLines.read_comment (between : reading.BetweenLines) {text : String}
    (sameLine : '\n' ∉ text.toList) :
    ((IniLine.comment text).text.toList ++ ['\n']).foldlM step reading =
      .ok (reading.enter (.gap false)) := by
  have opens : reading.step ';' = .ok (reading.within .comment) := by
    refine step_of_advance (by decide) (reading.enter .comment) ?_
    rw [between.advance_eq (by decide)]
    simp [begin, between.start]
  have goesOn : (';' :: ' ' :: text.toList).foldlM step reading =
      .ok (reading.within .comment) := by
    rw [List.foldlM_cons, opens]
    exact foldlM_comment reading (' ' :: text.toList) (by simpa using sameLine)
  have spelled : (IniLine.comment text).text.toList = ';' :: ' ' :: text.toList := by
    simp [IniLine.text, String.toList_append]
  rw [spelled, foldlM_append_ok goesOn]
  obtain ⟨finished, name, entries, key, start, phase⟩ := reading
  obtain ⟨rfl, rfl, -⟩ := between
  rfl

theorem BetweenLines.read_heading (between : reading.BetweenLines) {name : String}
    (word : IsWord name) :
    ((IniLine.heading name).text.toList ++ ['\n']).foldlM step reading =
      .ok ((reading.addSection name).enter (.gap true)) := by
  have opens : reading.step '[' =
      .ok (reading.within (.text .sectionName none [] .none)) := by
    refine step_of_advance (by decide) (reading.enter (.text .sectionName none [] .none)) ?_
    rw [between.advance_eq (by decide)]
    simp [begin]
  have goesOn : ('[' :: name.toList).foldlM step reading =
      .ok (reading.within (.text .sectionName none name.toList.reverse .none)) := by
    rw [List.foldlM_cons, opens]
    refine (foldlM_text reading (fun char member => ?_) (fun char member => ?_) []).trans ?_
    · simpa [isStop, IniText.stops] using ne_of_isWordChar (word.letters char member) ']' (by decide)
    · have apart := ne_of_isWordChar (word.letters char member)
      exact ⟨apart '\\' (by decide), apart '\n' (by decide)⟩
    · rw [List.append_nil]
  have closes : [']', '\n'].foldlM step
      (reading.within (.text .sectionName none name.toList.reverse .none)) =
      .ok ((reading.addSection name).enter (.gap true)) := by
    have named : trimmed name.toList.reverse = name := by
      rw [trimmed, List.reverse_reverse, word.trim, String.ofList_toList]
    obtain ⟨finished, name', entries, key, start, phase⟩ := reading
    obtain ⟨rfl, rfl, -⟩ := between
    simp [step, advance, within, textStep, plainStep, isStop, IniText.stops, finishText, named]
    rfl
  have spelled : (IniLine.heading name).text.toList = '[' :: name.toList ++ [']'] := by
    simp [IniLine.text, String.toList_append]
  rw [spelled, List.append_assoc, foldlM_append_ok goesOn]
  exact closes

theorem trimmed_cons_blank {char : Char} (blank : Text.isBlank char = true) (read : List Char) :
    trimmed (char :: read) = trimmed read := by
  unfold trimmed Text.dropEnds
  rw [List.reverse_cons, List.dropWhile_append]
  by_cases empty : (List.dropWhile Text.isBlank read.reverse).isEmpty
  · rw [if_pos empty, List.isEmpty_iff.mp empty, List.dropWhile_cons_of_pos blank]
    rfl
  · rw [if_neg empty, List.reverse_append, List.reverse_singleton, List.singleton_append,
      List.dropWhile_cons_of_pos blank]

theorem BetweenLines.read_key (between : reading.BetweenLines) {key : String}
    (word : IsWord key) :
    (key.toList ++ [' ', '=', ' ']).foldlM step reading =
      .ok ({ reading with key }.within .beforeValue) := by
  obtain ⟨first, rest, spelled⟩ : ∃ first rest, key.toList = first :: rest :=
    List.exists_cons_of_ne_nil fun empty => word.filled (String.toList_eq_nil_iff.mp empty)
  have inWord : ∀ char ∈ first :: rest, isWordChar char = true := spelled ▸ word.letters
  have unended : ∀ char ∈ first :: rest, isStop (.key false) char = false := by
    intro char member
    have apart := ne_of_isWordChar (inWord char member)
    simp [isStop, IniText.stops, apart '=' (by decide), apart ':' (by decide)]
  have opens : reading.step first =
      .ok (reading.within (.text (.key false) none [first] .none)) := by
    have apart := ne_of_isWordChar (inWord first List.mem_cons_self)
    refine step_of_advance (apart '\n' (by decide))
      (reading.enter (.text (.key false) none [first] .none)) ?_
    rw [between.advance_eq (isBlank_of_isWordChar (inWord first List.mem_cons_self))]
    simp [begin, plainStep, unended first List.mem_cons_self, apart ';' (by decide),
      apart '#' (by decide), apart '[' (by decide), apart '=' (by decide), apart ':' (by decide),
      apart ' ' (by decide), apart '\t' (by decide), apart '\n' (by decide),
      apart '\r' (by decide), apart '\\' (by decide)]
  have goesOn : key.toList.foldlM step reading =
      .ok (reading.within (.text (.key false) none key.toList.reverse .none)) := by
    rw [spelled, List.foldlM_cons, opens]
    refine (foldlM_text reading (fun char member => ?_) (fun char member => ?_) [first]).trans ?_
    · exact unended char (List.mem_cons_of_mem first member)
    · have apart := ne_of_isWordChar (inWord char (List.mem_cons_of_mem first member))
      exact ⟨apart '\\' (by decide), apart '\n' (by decide)⟩
    · rw [List.reverse_cons]
  have named : trimmed (' ' :: key.toList.reverse) = key := by
    rw [trimmed_cons_blank (by decide), trimmed, List.reverse_reverse, word.trim,
      String.ofList_toList]
  have assigns : (reading.within (.text (.key false) none (' ' :: key.toList.reverse) .none)).step
      '=' = .ok ({ reading with key }.within .beforeValue) := by
    refine step_of_advance (by decide : '=' ≠ '\n')
      ({ reading with key }.within .beforeValue) ?_
    have filled : key.isEmpty = false := by simpa using word.filled
    simp [advance, within, textStep, plainStep, isStop, IniText.stops, finishText, assign, named,
      filled, enter]
  have space : (reading.within (.text (.key false) none key.toList.reverse .none)).step ' ' =
      .ok (reading.within (.text (.key false) none (' ' :: key.toList.reverse) .none)) :=
    step_text reading (by decide) (by decide) (by decide) key.toList.reverse
  have waits : ({ reading with key }.within .beforeValue).step ' ' =
      .ok ({ reading with key }.within .beforeValue) := rfl
  rw [foldlM_append_ok goesOn]
  simp only [List.foldlM, space, assigns, waits, bind, Except.bind]
  rfl

section Value

variable (keyed : Reading)

theorem foldlM_value {chars : List Char}
    (whole : ∀ char ∈ chars, char ≠ '\\' ∧ char ≠ '\n' ∧ char ≠ '\r') (read : List Char) :
    chars.foldlM step (keyed.within (.text .line none read .none)) =
      .ok (keyed.within (.text .line none (chars.reverse ++ read) .none)) := by
  refine foldlM_text keyed (fun char member => ?_) (fun char member => ?_) read
  · simp [isStop, IniText.stops, whole char member]
  · exact ⟨(whole char member).1, (whole char member).2.1⟩

theorem step_beforeValue {first : Char} (shown : Text.isBlank first = false)
    (plain : first ≠ '\\' ∧ first ≠ '\n' ∧ first ≠ '\r') (unquoted : first ≠ '"' ∧ first ≠ '\'') :
    (keyed.within .beforeValue).step first =
      .ok (keyed.within (.text .line none [first] .none)) := by
  refine step_of_advance plain.2.1 (keyed.within (.text .line none [first] .none)) ?_
  simp [advance, within, shown, unquoted, plainStep, isStop, IniText.stops, plain, enter]

theorem foldlM_verbatim {value : String} (verbatim : IsVerbatim value) (filled : value ≠ "") :
    value.toList.foldlM step (keyed.within .beforeValue) =
      .ok (keyed.within (.text .line none value.toList.reverse .none)) := by
  cases spelled : value.toList with
  | nil => exact absurd (String.toList_eq_nil_iff.mp spelled) filled
  | cons first rest =>
      have whole := verbatim.whole
      rw [spelled] at whole
      have shown : Text.isBlank first = false :=
        Text.isBlank_of_trim verbatim.trimmed first (.inl (by rw [spelled]; rfl))
      rw [List.foldlM_cons, step_beforeValue keyed shown (whole first List.mem_cons_self)
        (verbatim.unquoted first (by rw [spelled]; rfl)), List.reverse_cons]
      exact foldlM_value keyed (fun char member => whole char (List.mem_cons_of_mem first member)) _

theorem foldlM_escape {char : Char} (number : char ≠ 'x') (sameLine : char ≠ '\n')
    (read : List Char) :
    ['\\', char].foldlM step (keyed.within (.text .line none read .none)) =
      .ok (keyed.within (.text .line none (escaped char ++ read) .none)) := by
  have opens : (keyed.within (.text .line none read .none)).step '\\' =
      .ok (keyed.within (.text .line none read .begun)) := rfl
  have resolves : (keyed.within (.text .line none read .begun)).step char =
      .ok (keyed.within (.text .line none (escaped char ++ read) .none)) := by
    refine step_of_advance sameLine
      (keyed.within (.text .line none (escaped char ++ read) .none)) ?_
    simp [advance, within, textStep, escapeStep, number, enter]
  simp only [List.foldlM, opens, resolves, bind, Except.bind]
  rfl

end Value

theorem BetweenLines.end_value (between : reading.BetweenLines) (key : String) {read : List Char}
    {value : String} (same : trimmed read = value) :
    ['\n'].foldlM step ({ reading with key }.within (.text .line none read .none)) =
      .ok ((reading.take (.entry key value)).enter (.gap true)) := by
  obtain ⟨finished, name, entries, key', start, phase⟩ := reading
  obtain ⟨rfl, rfl, -⟩ := between
  simp [step, advance, within, textStep, plainStep, isStop, IniText.stops, finishText, addLine,
    same]
  rfl

theorem BetweenLines.read_value (between : reading.BetweenLines) (key : String) {value : String}
    (verbatim : IsVerbatim value) :
    (value.toList ++ ['\n']).foldlM step ({ reading with key }.within .beforeValue) =
      .ok ((reading.take (.entry key value)).enter (.gap true)) := by
  by_cases empty : value = ""
  · subst empty
    exact between.end_value key rfl
  · rw [foldlM_append_ok (foldlM_verbatim _ verbatim empty)]
    refine between.end_value key ?_
    rw [trimmed, List.reverse_reverse]
    exact verbatim.trimmed

theorem BetweenLines.read_escape (between : reading.BetweenLines) (key : String)
    {front back : String} {char : Char} (before : IsVerbatim front) (after : IsVerbatim back)
    (filled : front ≠ "" ∧ back ≠ "") (number : char ≠ 'x') (sameLine : char ≠ '\n') :
    (front.toList ++ ['\\', char] ++ back.toList ++ ['\n']).foldlM step
      ({ reading with key }.within .beforeValue) =
      .ok ((reading.take (.entry key (front ++ String.ofList (escaped char) ++ back))).enter
        (.gap true)) := by
  rw [List.append_assoc, List.append_assoc, foldlM_append_ok (foldlM_verbatim _ before filled.1),
    foldlM_append_ok (foldlM_escape _ number sameLine _),
    foldlM_append_ok (foldlM_value _ after.whole _)]
  refine between.end_value key ?_
  have single : (escaped char).reverse = escaped char := by
    unfold escaped
    split <;> rfl
  have whole : Text.dropEnds Text.isBlank (front.toList ++ (escaped char ++ back.toList)) =
      front.toList ++ (escaped char ++ back.toList) := by
    refine Text.dropEnds_eq_self (fun first found => ?_) (fun last found => ?_)
    · obtain ⟨char, more, spelled⟩ := List.exists_cons_of_ne_nil
        fun none => filled.1 (String.toList_eq_nil_iff.mp none)
      rw [spelled] at found
      exact Text.isBlank_of_trim before.trimmed first (.inl (spelled ▸ found))
    · have ends : back.toList.getLast? = some last := by
        rw [← List.append_assoc, List.getLast?_append] at found
        cases behind : back.toList.getLast? with
        | none =>
            have empty := List.getLast?_eq_none_iff.mp behind
            exact absurd (String.toList_eq_nil_iff.mp empty) filled.2
        | some other =>
            rw [behind] at found
            exact found
      exact Text.isBlank_of_trim after.trimmed last (.inr ends)
  rw [trimmed]
  simp only [List.reverse_append, List.reverse_reverse, single, List.append_assoc, whole]
  rw [String.ofList_append, String.ofList_append, String.ofList_toList, String.ofList_toList,
    ← String.append_assoc]

theorem BetweenLines.read_entry (between : reading.BetweenLines) {key value : String}
    (word : IsWord key) (verbatim : IsVerbatim value) :
    ((IniLine.entry key value).text.toList ++ ['\n']).foldlM step reading =
      .ok ((reading.take (.entry key value)).enter (.gap true)) := by
  have spelled : (IniLine.entry key value).text.toList =
      (key.toList ++ [' ', '=', ' ']) ++ value.toList := by
    simp [IniLine.text, String.toList_append]
  rw [spelled, List.append_assoc, foldlM_append_ok (between.read_key word)]
  exact between.read_value key verbatim

end Ini.Reading

namespace IniLine

open Ini.Reading

/-- Wherever a line begins, the reader keeps of `line` what `meant` spells. -/
def ReadsAs (line meant : IniLine) : Prop :=
  ∀ reading : Ini.Reading, reading.BetweenLines →
    ∃ broke, (line.text.toList ++ ['\n']).foldlM step reading =
      .ok ((reading.take meant).enter (.gap broke))

theorem Legible.readsAs {line : IniLine} (legible : line.Legible) : line.ReadsAs line := by
  intro reading between
  cases line with
  | blank => exact between.read_blank
  | comment text => exact ⟨false, between.read_comment legible⟩
  | heading name => exact ⟨true, between.read_heading legible⟩
  | entry key value => exact ⟨true, between.read_entry legible.1 legible.2⟩

theorem readsAs_escape {key front back : String} {char : Char} (word : IsWord key)
    (before : IsVerbatim front) (after : IsVerbatim back) (filled : front ≠ "" ∧ back ≠ "")
    (number : char ≠ 'x') (sameLine : char ≠ '\n') :
    (IniLine.entry key (front ++ "\\" ++ char.toString ++ back)).ReadsAs
      (.entry key (front ++ String.ofList (escaped char) ++ back)) := by
  intro reading between
  have spelled : (IniLine.entry key (front ++ "\\" ++ char.toString ++ back)).text.toList =
      (key.toList ++ [' ', '=', ' ']) ++ (front.toList ++ ['\\', char] ++ back.toList) := by
    simp [IniLine.text, String.toList_append]
  refine ⟨true, ?_⟩
  rw [spelled, List.append_assoc, foldlM_append_ok (between.read_key word)]
  exact between.read_escape key before after filled number sameLine

theorem readsAs_of_legible {lines : List IniLine} (legible : ∀ line ∈ lines, line.Legible) :
    List.Forall₂ ReadsAs lines lines := by
  induction lines with
  | nil => exact .nil
  | cons line rest ih =>
      exact .cons (legible line List.mem_cons_self).readsAs
        (ih fun other member => legible other (List.mem_cons_of_mem line member))

/-- Lines that are legible but for one are read as those with the line that this one is read as. -/
theorem readsAs_replace (front back : List IniLine) {line meant : IniLine}
    (legible : ∀ other ∈ front ++ meant :: back, other.Legible) (reads : line.ReadsAs meant) :
    List.Forall₂ ReadsAs (front ++ line :: back) (front ++ meant :: back) := by
  rw [List.forall_mem_append, List.forall_mem_cons] at legible
  exact List.rel_append (readsAs_of_legible legible.1)
    (.cons reads (readsAs_of_legible legible.2.2))

end IniLine

namespace Ini.Reading

theorem BetweenLines.read_lines {reading : Reading} (between : reading.BetweenLines)
    {lines meant : List IniLine} (read : List.Forall₂ IniLine.ReadsAs lines meant) :
    ∃ last : Reading, last.BetweenLines ∧
      (IniLine.join lines).toList.foldlM step reading = .ok last ∧
      last.ini = (meant.foldl take reading).ini := by
  -- Each line leaves the reader between two lines, where the next one is read.
  induction read generalizing reading with
  | nil => exact ⟨reading, between, rfl, rfl⟩
  | @cons line first rest others begins _ ih =>
      obtain ⟨broke, reads⟩ := begins reading between
      obtain ⟨last, ended, goesOn, same⟩ := ih (between.take_enter first broke)
      refine ⟨last, ended, ?_, ?_⟩
      · rw [IniLine.toList_join_cons, foldlM_append_ok reads]
        exact goesOn
      · rw [same, List.foldl_cons]
        exact ini_foldl_take_enter (reading.take first) (.gap broke) others

end Ini.Reading

/-- What is written is read as the sections and entries that its lines mean. -/
theorem Ini.read_join {lines meant : List IniLine}
    (read : List.Forall₂ IniLine.ReadsAs lines meant) :
    Ini.read (IniLine.join lines) = .ok (meant.foldl Reading.take {}).ini := by
  have begins : Reading.BetweenLines {} := ⟨rfl, rfl, .inl rfl⟩
  obtain ⟨last, ended, reads, same⟩ := begins.read_lines read
  have closes : last.close = .ok last := by
    unfold Reading.close
    rcases ended.phase with ready | ⟨broke, gap⟩
    · rw [ready]
    · rw [gap]
  unfold Ini.read
  simp only [reads, bind, Except.bind, closes, same]
  rfl

end Courier
