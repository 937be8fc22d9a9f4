import Courier.Json.Number
/-!
Passing over a value that nobody reads. Its form is checked to any depth, with a stack of the
arrays and objects that are open; strings are not decoded and numbers are not scaled. A comma must
be followed by a value or a name here, so a comma too many is reported as what is missing after it.
-/

namespace Courier.Json

inductive Frame where
  | list
  | object
  deriving DecidableEq, Repr

inductive Awaited where
  | value
  | firstItem
  | firstMember
  | member
  /-- A comma or the end of what is open; nothing if nothing is. -/
  | next
  deriving DecidableEq, Repr

def skipScalar (first : UInt8) (text : Bytes) : Except Fault (Rest (first :: text) Unit) :=
  if first = byteOf 'n' then word ['u', 'l', 'l'] () text
  else if first = byteOf 't' then word ['r', 'u', 'e'] () text
  else if first = byteOf 'f' then word ['a', 'l', 's', 'e'] () text
  else if first = byteOf '-' then (skipNumberDigits text).map fun read => read.widen (by simp)
  else if isDigitByte first then skipNumberDigits (first :: text)
  else if first = byteOf '"' then skipStringAfterQuote first text
  else .error .expectedValue

def colon : Reader Unit := fun text =>
  match found : skipBlanks text with
  | [] => .error (.endOf .object)
  | byte :: rest =>
    if byte = byteOf ':' then .ok ⟨(), rest, length_lt_of_skipBlanks found⟩
    else .error .expectedColon

def skipName : Reader Unit := fun text =>
  match found : skipBlanks text with
  | [] => .error (.endOf .object)
  | byte :: rest =>
    if byte = byteOf '"' then do
      let name ← skipStringAfterQuote byte rest
      let mark ← colon name.rest
      return ⟨(), mark.rest, by
        have bound := length_skipBlanks text
        have nameShorter := name.shorter
        have markShorter := mark.shorter
        rw [found] at bound
        omega⟩
    else .error .keyNotString

/-- Passes over what is awaited inside the given frames, the innermost first. -/
def skipOpen {whole : Bytes} (awaited : Awaited) (frames : List Frame) (text : Bytes)
    (within : text.length ≤ whole.length) (begun : awaited = .value ∨ text.length < whole.length) :
    Except Fault (Rest whole Unit) :=
  have kept := length_skipBlanks text
  match awaited, frames with
  | .next, [] => .ok ⟨(), text, by simp at begun; exact begun⟩
  | .member, frames =>
    match skipName text with
    | .error fault => .error fault
    | .ok name =>
      skipOpen .value frames name.rest (by have := name.shorter; omega) (.inl rfl)
  | .value, frames =>
    match found : skipBlanks text with
    | [] => .error (.endOf .value)
    | first :: rest =>
      have bound : rest.length < text.length := by
        rw [found, List.length_cons] at kept; omega
      if first = byteOf '[' then
        skipOpen .firstItem (.list :: frames) rest (by omega) (.inr (by omega))
      else if first = byteOf '{' then
        skipOpen .firstMember (.object :: frames) rest (by omega) (.inr (by omega))
      else match skipScalar first rest with
        | .error fault => .error fault
        | .ok scalar =>
          have shorter : scalar.rest.length < text.length := by
            have := scalar.shorter
            rw [found] at kept
            omega
          skipOpen .next frames scalar.rest (by omega) (.inr (by omega))
  | .firstItem, frames =>
    match found : skipBlanks text with
    | [] => .error (.endOf .list)
    | first :: rest =>
      have bound : rest.length < text.length := by
        rw [found, List.length_cons] at kept; omega
      if first = byteOf ']' then
        skipOpen .next frames.tail rest (by omega) (.inr (by omega))
      else skipOpen .value frames text within (.inl rfl)
  | .firstMember, frames =>
    match found : skipBlanks text with
    | [] => .error (.endOf .object)
    | first :: rest =>
      have bound : rest.length < text.length := by
        rw [found, List.length_cons] at kept; omega
      if first = byteOf '}' then
        skipOpen .next frames.tail rest (by omega) (.inr (by omega))
      else skipOpen .member frames text within (by simp at begun; exact .inr begun)
  | .next, .list :: outer =>
    match found : skipBlanks text with
    | [] => .error (.endOf .list)
    | first :: rest =>
      have bound : rest.length < text.length := by
        rw [found, List.length_cons] at kept; omega
      if first = byteOf ',' then
        skipOpen .value (.list :: outer) rest (by omega) (.inl rfl)
      else if first = byteOf ']' then
        skipOpen .next outer rest (by omega) (.inr (by omega))
      else .error .expectedCommaOrBracket
  | .next, .object :: outer =>
    match found : skipBlanks text with
    | [] => .error (.endOf .object)
    | first :: rest =>
      have bound : rest.length < text.length := by
        rw [found, List.length_cons] at kept; omega
      if first = byteOf ',' then
        skipOpen .member (.object :: outer) rest (by omega) (.inr (by omega))
      else if first = byteOf '}' then
        skipOpen .next outer rest (by omega) (.inr (by omega))
      else .error .expectedCommaOrBrace
  termination_by (text.length, if awaited = .firstItem ∨ awaited = .firstMember then 1 else 0)
  decreasing_by
    all_goals simp_wf
    all_goals first
      | (have bound := name.shorter; simp [Prod.lex_def]; omega)
      | (simp [Prod.lex_def]; omega)
      | (simp [Prod.lex_def])

def skipValue : Reader Unit := fun text =>
  skipOpen .value [] text (length_le_self text) (.inl rfl)

end Courier.Json
