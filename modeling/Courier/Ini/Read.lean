import Courier.Ini.Basic
import Courier.Text.Blank
/-!
Reading settings, character by character. `Reading` is what has been read so far and what is being
read; `Reading.step` takes it past one character, and a text is read by taking all its steps. A text
that is read in two parts is read as a whole: the state after the first part is all that matters.
-/

namespace Courier.Ini

inductive Escape where
  | none
  | begun
  /-- After `\x`: the digits so far, and whether a backslash was the last of them. -/
  | digits (read : List Char) (broken : Bool)
  deriving DecidableEq, Repr, Inhabited

inductive Phase where
  | ready
  /-- Blanks after something, and whether the last one broke the line. -/
  | gap (broke : Bool)
  | indent
  | comment
  | beforeValue
  /-- A value after so much of it was quoted, latest first. -/
  | afterQuote (value : List Char)
  /-- A text, latest first; `value` is what was read of the value that it belongs to, if part of it
  was quoted. -/
  | text (kind : IniText) (value : Option (List Char)) (read : List Char) (escape : Escape)
  deriving DecidableEq, Repr, Inhabited

structure Reading where
  /-- The sections before the one that is being read, latest first. -/
  finished : List IniSection := []
  name : Option String := none
  entries : List (String × String) := []
  /-- The key that waits for its value; empty if there is none. -/
  key : String := ""
  atLineStart : Bool := true
  phase : Phase := .ready
  deriving DecidableEq, Repr, Inhabited

namespace Reading

def enter (phase : Phase) (reading : Reading) : Reading :=
  { reading with phase }

def trimmed (read : List Char) : String :=
  String.ofList (Text.dropEnds Text.isBlank read.reverse)

def part (reading : Reading) : IniSection :=
  { name := reading.name, entries := reading.entries.reverse }

def addSection (name : String) (reading : Reading) : Reading :=
  { reading with
    finished := reading.part :: reading.finished
    name := some name
    entries := [] }

def addValue (value : String) (reading : Reading) : Reading :=
  { reading with entries := (reading.key, value) :: reading.entries, key := "" }

/-- A value whose line is at its end. What follows a quoted part keeps its leading blanks. -/
def addLine (value : Option (List Char)) (read : List Char) (reading : Reading) : Reading :=
  reading.addValue (match value with
    | none => trimmed read
    | some value => String.ofList (read.dropWhile Text.isBlank ++ value).reverse)

def assign (reading : Reading) : Except IniFault Reading :=
  if reading.key.isEmpty then .error .missingKey else .ok (reading.enter .beforeValue)

def isStop (kind : IniText) (char : Char) : Bool :=
  kind.stops.contains (some char)

def finishText (kind : IniText) (value : Option (List Char)) (read : List Char) (char : Char)
    (reading : Reading) : Except IniFault Reading :=
  match kind with
  | .sectionName => .ok ((reading.addSection (trimmed read)).enter (.gap false))
  | .key _ => { reading with key := trimmed read }.assign
  | .quoted _ => .ok (reading.enter (.afterQuote (read ++ value.getD [])))
  | .line => .ok ((reading.addLine value read).enter (.gap (char == '\n' || char == '\r')))

/-- The character after a backslash, where it stands for one; a line break stands for none. -/
def escaped (char : Char) : List Char :=
  match char with
  | '0' => ['\x00']
  | 'a' => ['\x07']
  | 'b' => ['\x08']
  | 't' => ['\t']
  | 'r' => ['\r']
  | 'n' => ['\n']
  | '\n' => []
  | other => [other]

def hexValue? (char : Char) : Option Nat :=
  if char.isDigit then some (char.toNat - 0x30)
  else if 'a' ≤ char ∧ char ≤ 'f' then some (char.toNat - 0x57)
  else if 'A' ≤ char ∧ char ≤ 'F' then some (char.toNat - 0x37)
  else none

/-- The character of a number in base sixteen. A plus sign may stand in front. -/
def numbered? (digits : List Char) : Option Char := do
  let unsigned := match digits with
    | '+' :: rest => rest
    | _ => digits
  if unsigned.isEmpty then none
  let value ← unsigned.foldlM (fun value digit => (hexValue? digit).map (16 * value + ·)) 0
  if h : value.isValidChar then some (Char.ofNatAux value h) else none

def digitCount : Nat := 4

def addDigit (read digits : List Char) : Except IniFault (List Char × Escape) :=
  if digits.length < digitCount then .ok (read, .digits digits false)
  else match numbered? digits with
    | some char => .ok (char :: read, .none)
    | none => .error .unknownCharacter

def escapeStep (read : List Char) (char : Char) : Escape → Except IniFault (List Char × Escape)
  | .none => .ok (char :: read, .none)
  | .begun => .ok (if char = 'x' then (read, .digits [] false) else (escaped char ++ read, .none))
  | .digits digits false =>
    if char = '\\' then .ok (read, .digits digits true) else addDigit read (digits ++ [char])
  | .digits digits true =>
    if char = '\n' then addDigit read (digits ++ ['\\']) else .error (.brokenDigits (some char))

def plainStep (kind : IniText) (value : Option (List Char)) (read : List Char) (char : Char)
    (reading : Reading) : Except IniFault Reading :=
  if isStop kind char then reading.finishText kind value read char
  else if char = '\\' then .ok (reading.enter (.text kind value read .begun))
  else .ok (reading.enter (.text kind value (char :: read) .none))

/-! ### Items -/

def begin (char : Char) (reading : Reading) : Except IniFault Reading :=
  if char = ';' ∨ char = '#' then
    if reading.atLineStart then .ok (reading.enter .comment) else .error .inlineComment
  else if char = '[' then .ok (reading.enter (.text .sectionName none [] .none))
  else if char = '=' ∨ char = ':' then reading.assign
  else if char = ' ' ∨ char = '\t' then .ok (reading.enter .indent)
  else if char = '\n' ∨ char = '\r' then .ok (reading.enter (.gap false))
  else reading.plainStep (.key false) none [] char

/-- A character in a gap; `broke` says whether the one before it broke the line. -/
def gapStep (broke : Bool) (char : Char) (reading : Reading) : Except IniFault Reading :=
  if broke ∧ (char = ' ' ∨ char = '\t') then reading.begin char
  else if char = '\n' ∨ char = '\r' then .ok (reading.enter (.gap true))
  else if Text.isBlank char then .ok (reading.enter (.gap false))
  else reading.begin char

/-- A character of a text. At a faulty backslash sequence an indented key is dropped, and the
character begins something else. -/
def textStep (kind : IniText) (value : Option (List Char)) (read : List Char) (escape : Escape)
    (char : Char) (reading : Reading) : Except IniFault Reading :=
  if escape = .none then reading.plainStep kind value read char
  else match escapeStep read char escape with
    | .ok (read, escape) => .ok (reading.enter (.text kind value read escape))
    | .error fault => if kind = .key true then reading.gapStep false char else .error fault

/-- The reading after a character, as far as its place in the line does not matter. -/
def advance (char : Char) (reading : Reading) : Except IniFault Reading :=
  match reading.phase with
  | .ready => reading.begin char
  | .gap broke => reading.gapStep broke char
  | .indent =>
    if char = ' ' ∨ char = '\t' then .ok reading
    else if char = '[' then .ok (reading.enter (.text .sectionName none [] .none))
    else if char = '\n' ∨ char = '\r' then .ok (reading.enter .ready)
    else reading.plainStep (.key true) none [] char
  | .comment => .ok (if char = '\n' then reading.enter (.gap false) else reading)
  | .beforeValue =>
    if Text.isBlank char ∧ char ≠ '\n' ∧ char ≠ '\r' then .ok reading
    else if char = '"' ∨ char = '\'' then
      .ok (reading.enter (.text (.quoted char) none [] .none))
    else reading.plainStep .line none [] char
  | .afterQuote value =>
    if char = '"' ∨ char = '\'' then
      .ok (reading.enter (.text (.quoted char) (some value) [] .none))
    else reading.plainStep .line (some value) [] char
  | .text kind value read escape => reading.textStep kind value read escape char

def step (reading : Reading) (char : Char) : Except IniFault Reading :=
  (reading.advance char).map fun next => { next with atLineStart := char == '\n' }

def close (reading : Reading) : Except IniFault Reading :=
  match reading.phase with
  | .beforeValue => .ok (reading.addLine none [])
  | .afterQuote value => .ok (reading.addLine (some value) [])
  | .text (.key true) .. => .ok reading
  | .text kind _ _ (.digits _ false) => .error (.endsInside kind)
  | .text _ _ _ (.digits _ true) => .error (.brokenDigits none)
  | .text .line value read escape =>
    .ok (reading.addLine value (if escape = .begun then '\\' :: read else read))
  | .text kind .. => .error (.endsInside kind)
  | _ => .ok reading

def ini (reading : Reading) : Ini :=
  { sections := (reading.part :: reading.finished).reverse }

end Reading

def read (text : String) : Except IniFault Ini := do
  let reading ← text.toList.foldlM Reading.step {}
  return (← reading.close).ini

end Courier.Ini
