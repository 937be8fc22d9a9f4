import Courier.Text.Utf8
/-!
Percent encoding and form encoding. Both write a text byte by byte: a byte that may stand for itself
does, and every other one is a percent sign and two digits. `decode` and `formDecode` read them
back.
-/

namespace Courier.Percent

def digit (value : Nat) : Char :=
  if value < 10 then Char.ofNat (0x30 + value) else Char.ofNat (0x37 + value)

def digitValue? (char : Char) : Option Nat :=
  let value := char.toNat
  if 0x30 ≤ value ∧ value ≤ 0x39 then some (value - 0x30)
  else if 0x41 ≤ value ∧ value ≤ 0x46 then some (value - 0x37)
  else if 0x61 ≤ value ∧ value ≤ 0x66 then some (value - 0x57)
  else none

def escape (byte : UInt8) : List Char :=
  ['%', digit (byte.toNat / 16), digit (byte.toNat % 16)]

/-- A byte as itself, if it is ASCII and may be kept, and else escaped. -/
def encodeByte (keeps : Char → Bool) (byte : UInt8) : List Char :=
  if byte < 0x80 ∧ keeps (Char.ofNat byte.toNat) then [Char.ofNat byte.toNat] else escape byte

def encodeChars (keeps : Char → Bool) (bytes : Bytes) : List Char :=
  bytes.flatMap (encodeByte keeps)

def encode (keeps : Char → Bool) (text : String) : String :=
  String.ofList (encodeChars keeps (Utf8.encode text))

/-- The bytes that a written form stands for. A percent sign without two digits after it stands for
itself. -/
def decode : List Char → Bytes
  | [] => []
  | '%' :: high :: low :: rest =>
    match digitValue? high, digitValue? low with
    | some first, some second => UInt8.ofNat (16 * first + second) :: decode rest
    | _, _ => Utf8.encode "%" ++ decode (high :: low :: rest)
  | char :: rest => Utf8.encode char.toString ++ decode rest

def printableExcept (others : String) (char : Char) : Bool :=
  0x20 ≤ char.toNat && char.toNat < 0x7F && !others.toList.contains char

def inOpaque : Char → Bool := printableExcept ""
def inFragment : Char → Bool := printableExcept " \"<>`"
def inQuery : Char → Bool := printableExcept " \"#<>"
def inSpecialQuery : Char → Bool := printableExcept " \"#<>'"
def inPath : Char → Bool := printableExcept " \"<>`#?\x7b\x7d"
def inSegment : Char → Bool := printableExcept " \"<>`#?\x7b\x7d/%"
def inSpecialSegment : Char → Bool := printableExcept " \"<>`#?\x7b\x7d/%\\"
def inUserinfo : Char → Bool := printableExcept " \"<>`#?\x7b\x7d/:;=@[\\]^|"

def inForm (char : Char) : Bool :=
  char.isAlphanum || char == '*' || char == '-' || char == '.' || char == '_'

/-- A byte of a value in a form; a space is a plus sign. -/
def formByte (byte : UInt8) : List Char :=
  if byte = 0x20 then ['+'] else encodeByte inForm byte

def formChars (bytes : Bytes) : List Char :=
  bytes.flatMap formByte

def formEncode (text : String) : String :=
  String.ofList (formChars (Utf8.encode text))

def formDecode (written : List Char) : Bytes :=
  decode (written.map fun char => if char = '+' then ' ' else char)

end Courier.Percent
