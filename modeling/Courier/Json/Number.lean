import Courier.Json.Scan
/-!
Numbers of a JSON text. Whole numbers of 64 bits are exact. Every other number is a binary64: its
digits are gathered as long as they fit 64 bits, later ones count only for the power of ten, and
the result is scaled by powers of ten.
-/

namespace Courier.Json

inductive Number where
  | whole (value : Int)
  | real (bits : UInt64)
  deriving DecidableEq, Repr

def isDigitByte (byte : UInt8) : Bool :=
  0x30 ≤ byte && byte ≤ 0x39

def digitValue (byte : UInt8) : Nat :=
  byte.toNat - 0x30

def frontDigits (text : Bytes) : Bytes :=
  text.takeWhile isDigitByte

def afterDigits (text : Bytes) : Bytes :=
  text.dropWhile isDigitByte

theorem length_afterDigits (text : Bytes) : (afterDigits text).length ≤ text.length :=
  (List.dropWhile_sublist isDigitByte).length_le

def wholeLimit : Nat := 0xFFFFFFFFFFFFFFFF

/-- Appends digits to a number while it fits 64 bits; the second part is how many did. -/
def gather : Nat → Bytes → Nat × Nat
  | value, [] => (value, 0)
  | value, digit :: rest =>
    let next := value * 10 + digitValue digit
    if next ≤ wholeLimit then
      let (total, count) := gather next rest
      (total, count + 1)
    else (value, 0)

def powerOfTen (power : Nat) : Float :=
  Float.ofScientific 1 false power

/-- The value times a power of ten, by steps of at most 308; nothing if it is too large. -/
def scale? (value : Float) (power : Int) : Option Float :=
  if 0 ≤ power then
    if power ≤ 308 then
      let scaled := value * powerOfTen power.natAbs
      if scaled.isInf then none else some scaled
    else if value == 0.0 then some value
    else none
  else if -308 ≤ power then some (value / powerOfTen power.natAbs)
  else if value == 0.0 then some value
  else scale? (value / powerOfTen 308) (power + 308)
  termination_by (-power).toNat

/-- The binary64 of `significand * 10 ^ power`. -/
def realOf (negative : Bool) (significand : Nat) (power : Int) : Except Fault Number :=
  match scale? (Float.ofNat significand) power with
  | some value => .ok (.real (if negative then -value else value).toBits)
  | none => .error .numberOutOfRange

/-- The exponents that are told apart; a larger one is out of range or gives zero. -/
def exponentLimit : Nat := 0x7FFFFFFF

/-- A text without the sign at its front, and whether the sign is a minus. -/
def splitSign (text : Bytes) : Bool × Bytes :=
  match text with
  | [] => (false, [])
  | byte :: rest =>
    if byte = byteOf '+' then (false, rest)
    else if byte = byteOf '-' then (true, rest)
    else (false, byte :: rest)

theorem length_splitSign (text : Bytes) : (splitSign text).2.length ≤ text.length := by
  unfold splitSign
  split
  · exact length_le_self _
  · split
    · exact length_le_cons _ _
    · split
      · exact length_le_cons _ _
      · exact length_le_self _

theorem length_afterDigits_of_splitSign {text more : Bytes} {first : UInt8}
    (found : (splitSign text).2 = first :: more) : (afterDigits more).length < text.length :=
  Nat.lt_of_le_of_lt (length_afterDigits more)
    (Nat.lt_of_lt_of_le (length_lt_cons first more) (found ▸ length_splitSign text))

def exponentPart (negative : Bool) (significand : Nat) (power : Int) : Reader Number := fun text =>
  let down := (splitSign text).1
  match found : (splitSign text).2 with
  | [] => .error (.endOf .value)
  | first :: more => do
    if !isDigitByte first then throw .invalidNumber
    let exponent :=
      (first :: frontDigits more).foldl (fun total digit => total * 10 + digitValue digit) 0
    let number ←
      if exponentLimit < exponent then
        if significand ≠ 0 ∧ !down then throw .numberOutOfRange
        else realOf negative 0 0
      else realOf negative significand (if down then power - exponent else power + exponent)
    return ⟨number, afterDigits more, length_afterDigits_of_splitSign found⟩

def exponentAfter (negative : Bool) (significand : Nat) (power : Int) {whole : Bytes}
    (text : Bytes) (within : text.length < whole.length) : Except Fault (Rest whole Number) :=
  match text with
  | [] => (realOf negative significand power).map fun number => ⟨number, [], within⟩
  | byte :: rest =>
    if byte = byteOf 'e' ∨ byte = byteOf 'E' then
      (exponentPart negative significand power rest).map
        fun read => read.widen (length_le_of_cons_lt within)
    else (realOf negative significand power).map fun number => ⟨number, byte :: rest, within⟩

def fractionAfter (negative : Bool) (significand : Nat) (power : Int) {whole : Bytes}
    (text : Bytes) (within : text.length < whole.length) : Except Fault (Rest whole Number) :=
  if (frontDigits text).isEmpty then
    if text.isEmpty then .error (.endOf .value) else .error .invalidNumber
  else
    let (total, count) := gather significand (frontDigits text)
    exponentAfter negative total (power - count) (afterDigits text)
      (Nat.lt_of_le_of_lt (length_afterDigits text) within)

def wholeOf (negative : Bool) (value : Nat) : Except Fault Number :=
  if negative then
    if 1 ≤ value ∧ value ≤ 0x8000000000000000 then .ok (.whole (-value)) else realOf true value 0
  else .ok (.whole value)

/-- What follows the digits before the point, of which `dropped` did not fit. -/
def numberAfter (negative : Bool) (significand dropped : Nat) {whole : Bytes}
    (text : Bytes) (within : text.length < whole.length) : Except Fault (Rest whole Number) :=
  let plain (_ : Unit) : Except Fault (Rest whole Number) :=
    (if dropped = 0 then wholeOf negative significand else realOf negative significand dropped).map
      fun number => ⟨number, text, within⟩
  match text with
  | [] => plain ()
  | byte :: rest =>
    if byte = byteOf '.' then
      fractionAfter negative significand dropped rest (by simp at within; omega)
    else if byte = byteOf 'e' ∨ byte = byteOf 'E' then
      exponentAfter negative significand dropped (byte :: rest) within
    else plain ()

def numberDigits (negative : Bool) : Reader Number
  | [] => .error (.endOf .value)
  | first :: text =>
    if first = byteOf '0' then
      match text with
      | [] => numberAfter negative 0 0 [] (by simp)
      | next :: rest =>
        if isDigitByte next then .error .invalidNumber
        else numberAfter negative 0 0 (next :: rest) (by simp)
    else if isDigitByte first then
      let (value, count) := gather (digitValue first) (frontDigits text)
      numberAfter negative value ((frontDigits text).length - count) (afterDigits text)
        (Nat.lt_succ_of_le (length_afterDigits text))
    else .error .invalidNumber

def skipExponent : Reader Unit := fun text =>
  match found : (splitSign text).2 with
  | [] => .error .invalidNumber
  | first :: more =>
    if isDigitByte first then
      .ok ⟨(), afterDigits more, length_afterDigits_of_splitSign found⟩
    else .error .invalidNumber

def skipExponentAfter {whole : Bytes} (text : Bytes) (within : text.length < whole.length) :
    Except Fault (Rest whole Unit) :=
  match text with
  | [] => .ok ⟨(), [], within⟩
  | byte :: rest =>
    if byte = byteOf 'e' ∨ byte = byteOf 'E' then
      (skipExponent rest).map fun read => read.widen (length_le_of_cons_lt within)
    else .ok ⟨(), byte :: rest, within⟩

def skipNumberAfter {whole : Bytes} (text : Bytes) (within : text.length < whole.length) :
    Except Fault (Rest whole Unit) :=
  match text with
  | [] => .ok ⟨(), [], within⟩
  | byte :: rest =>
    if byte = byteOf '.' then
      if (frontDigits rest).isEmpty then .error .invalidNumber
      else skipExponentAfter (afterDigits rest)
        (by have := length_afterDigits rest; simp at within; omega)
    else skipExponentAfter (byte :: rest) within

def skipNumberDigits : Reader Unit
  | [] => .error .invalidNumber
  | first :: text =>
    if first = byteOf '0' then
      match text with
      | [] => .ok ⟨(), [], by simp⟩
      | next :: rest =>
        if isDigitByte next then .error .invalidNumber
        else skipNumberAfter (next :: rest) (by simp)
    else if isDigitByte first then
      skipNumberAfter (afterDigits text) (Nat.lt_succ_of_le (length_afterDigits text))
    else .error .invalidNumber

end Courier.Json
