import Courier.Json.Fault
import Courier.Text.Utf8
/-!
Reading the pieces of a JSON text off its front. A reader answers with the value and the rest of
the text, and the rest is shorter than the text by its type, so every loop of readers ends. Text is
read in one pass: of two faults the one that stands first is reported.
-/

namespace Courier.Json

/-- A value read off the front of `text`, and what follows it. -/
structure Rest (text : Bytes) (α : Type) where
  value : α
  rest : Bytes
  shorter : rest.length < text.length

abbrev Reader (α : Type) := (text : Bytes) → Except Fault (Rest text α)

/-- The same rest, seen from a text that is at least as long. -/
def Rest.widen {near far : Bytes} {α : Type} (read : Rest near α)
    (within : near.length ≤ far.length) : Rest far α :=
  ⟨read.value, read.rest, Nat.lt_of_lt_of_le read.shorter within⟩

def Rest.map {text : Bytes} {α β : Type} (f : α → β) (read : Rest text α) : Rest text β :=
  ⟨f read.value, read.rest, read.shorter⟩

def Reader.map {α β : Type} (f : α → β) (reader : Reader α) : Reader β :=
  fun text => (reader text).map (Rest.map f)

abbrev byteOf (char : Char) : UInt8 := char.toUInt8

theorem length_lt_cons (byte : UInt8) (rest : Bytes) : rest.length < (byte :: rest).length :=
  Nat.lt_succ_self _

theorem length_le_cons (byte : UInt8) (rest : Bytes) : rest.length ≤ (byte :: rest).length :=
  Nat.le_succ _

theorem length_le_self (text : Bytes) : text.length ≤ text.length :=
  Nat.le_refl _

theorem length_le_of_cons_lt {byte : UInt8} {rest whole : Bytes}
    (within : (byte :: rest).length < whole.length) : rest.length ≤ whole.length :=
  Nat.le_of_lt (Nat.lt_of_succ_lt within)

def isBlankByte (byte : UInt8) : Bool :=
  byte == 0x20 || byte == 0x09 || byte == 0x0A || byte == 0x0D

/-- The text from its first byte that is no blank. -/
def skipBlanks (text : Bytes) : Bytes :=
  text.dropWhile isBlankByte

theorem length_skipBlanks (text : Bytes) : (skipBlanks text).length ≤ text.length :=
  (List.dropWhile_sublist isBlankByte).length_le

theorem length_le_of_skipBlanks {text rest : Bytes} {byte : UInt8}
    (found : skipBlanks text = byte :: rest) : (byte :: rest).length ≤ text.length :=
  found ▸ length_skipBlanks text

theorem length_lt_of_skipBlanks {text rest : Bytes} {byte : UInt8}
    (found : skipBlanks text = byte :: rest) : rest.length < text.length :=
  length_le_of_skipBlanks found

def wordRest :
    List Char → (text : Bytes) → Except Fault { rest : Bytes // rest.length ≤ text.length }
  | [], text => .ok ⟨text, length_le_self text⟩
  | _ :: _, [] => .error (.endOf .value)
  | letter :: letters, byte :: text =>
    if byte = byteOf letter then
      (wordRest letters text).map fun rest => ⟨rest.1, Nat.le_succ_of_le rest.2⟩
    else .error .expectedWord

/-- A word that begins at the first byte of the text, given by its other letters. -/
def word (letters : List Char) {α : Type} (value : α) {first : UInt8} (text : Bytes) :
    Except Fault (Rest (first :: text) α) :=
  (wordRest letters text).map fun rest => ⟨value, rest.1, Nat.lt_succ_of_le rest.2⟩

def hexValue? (byte : UInt8) : Option Nat :=
  let value := byte.toNat
  if 0x30 ≤ value ∧ value ≤ 0x39 then some (value - 0x30)
  else if 0x41 ≤ value ∧ value ≤ 0x46 then some (value - 0x41 + 10)
  else if 0x61 ≤ value ∧ value ≤ 0x66 then some (value - 0x61 + 10)
  else none

def hexQuad : Reader Nat
  | a :: b :: c :: d :: rest =>
    match hexValue? a, hexValue? b, hexValue? c, hexValue? d with
    | some a, some b, some c, some d =>
      .ok ⟨((a * 16 + b) * 16 + c) * 16 + d, rest, by simp; omega⟩
    | _, _, _, _ => .error .invalidEscape
  | _ => .error (.endOf .string)

def escapedByte? (letter : UInt8) : Option UInt8 :=
  if letter = byteOf '"' ∨ letter = byteOf '\\' ∨ letter = byteOf '/' then some letter
  else if letter = byteOf 'b' then some 0x08
  else if letter = byteOf 'f' then some 0x0C
  else if letter = byteOf 'n' then some 0x0A
  else if letter = byteOf 'r' then some 0x0D
  else if letter = byteOf 't' then some 0x09
  else none

/-- The second half of a pair of code units, with the backslash and the `u` in front of it. -/
def trailingUnit (lead : Nat) : Reader Nat
  | [] => .error (.endOf .string)
  | slash :: text =>
    if slash ≠ byteOf '\\' then .error .brokenSurrogate
    else match text with
      | [] => .error (.endOf .string)
      | letter :: digits =>
        if letter ≠ byteOf 'u' then .error .brokenSurrogate
        else do
          let trail ← hexQuad digits
          if 0xDC00 ≤ trail.value ∧ trail.value ≤ 0xDFFF then
            let value := (lead - 0xD800) * 0x400 + (trail.value - 0xDC00) + 0x10000
            return ⟨value, trail.rest, by have := trail.shorter; simp; omega⟩
          else throw .loneSurrogate

def unicodeEscape : Reader Bytes := fun text => do
  let unit ← hexQuad text
  if 0xDC00 ≤ unit.value ∧ unit.value ≤ 0xDFFF then throw .loneSurrogate
  else if 0xD800 ≤ unit.value ∧ unit.value ≤ 0xDBFF then
    let pair ← trailingUnit unit.value unit.rest
    return ⟨String.utf8EncodeChar (Char.ofNat pair.value), pair.rest,
      by have := unit.shorter; have := pair.shorter; omega⟩
  else return unit.map fun value => String.utf8EncodeChar (Char.ofNat value)

def unescape : Reader Bytes
  | [] => .error (.endOf .string)
  | letter :: text =>
    if letter = byteOf 'u' then
      (unicodeEscape text).map fun read => read.widen (by simp)
    else match escapedByte? letter with
      | some byte => .ok ⟨[byte], text, by simp⟩
      | none => .error .invalidEscape

/-- What follows a backslash where the string is not kept: its form alone is checked. -/
def skipEscape : Reader Bytes
  | [] => .error (.endOf .string)
  | letter :: text =>
    if letter = byteOf 'u' then
      (hexQuad text).map fun read => (read.map fun _ => []).widen (by simp)
    else if (escapedByte? letter).isSome then .ok ⟨[], text, by simp⟩
    else .error .invalidEscape

/-- The bytes of a string up to its closing quote, given those already read, last first. -/
def stringBytes (escape : Reader Bytes) {whole : Bytes} (read : Bytes) :
    (text : Bytes) → text.length < whole.length → Except Fault (Rest whole Bytes)
  | [], _ => .error (.endOf .string)
  | byte :: text, within =>
    if byte = byteOf '"' then .ok ⟨read.reverse, text, by simp at within; omega⟩
    else if byte = byteOf '\\' then
      match escape text with
      | .error fault => .error fault
      | .ok ⟨bytes, rest, shorter⟩ =>
        stringBytes escape (bytes.reverse ++ read) rest (by simp at within; omega)
    else if byte < 0x20 then .error .controlCharacter
    else stringBytes escape (byte :: read) text (by simp at within; omega)
  termination_by text => text.length

def stringAfterQuote (quote : UInt8) (text : Bytes) : Except Fault (Rest (quote :: text) String) :=
  do
    let bytes : Rest (quote :: text) Bytes ← stringBytes unescape [] text (by simp)
    match Utf8.decode? bytes.value with
    | some value => return bytes.map fun _ => value
    | none => throw .invalidCodePoint

def skipStringAfterQuote (quote : UInt8) (text : Bytes) :
    Except Fault (Rest (quote :: text) Unit) :=
  (stringBytes skipEscape [] text (by simp)).map fun bytes => bytes.map fun _ => ()

end Courier.Json
