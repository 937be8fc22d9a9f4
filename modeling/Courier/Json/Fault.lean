import Courier.Text.Quoted
import Courier.Text.Shortest
/-!
What can be wrong with a JSON text, as causes, and the one wording of each.
-/

namespace Courier.Json

inductive Place where
  | value
  | list
  | object
  | string
  deriving DecidableEq, Repr

inductive Found where
  | null
  | boolean (value : Bool)
  | integer (value : Int)
  /-- A number with a fraction, an exponent or too many digits, as its binary64 bits. -/
  | real (bits : UInt64)
  | string (value : String)
  | sequence
  | map
  deriving DecidableEq, Repr

inductive Fault where
  | endOf (place : Place)
  | expectedValue
  | expectedWord
  | expectedColon
  | expectedCommaOrBrace
  | expectedCommaOrBracket
  | keyNotString
  | trailingComma
  | trailingText
  | invalidNumber
  | numberOutOfRange
  | invalidEscape
  | invalidCodePoint
  | loneSurrogate
  | brokenSurrogate
  | controlCharacter
  | wrongType (found : Found) (wanted : String)
  | wrongValue (found : Found) (wanted : String)
  | missingField (name : String)
  | duplicateField (name : String)
  | wrongLength (length : Nat) (wanted : String)
  deriving DecidableEq, Repr

/-- A finite number with a fraction: positional from `0.00001` up to sixteen digits before the
point, with at least one digit after it; else one digit before the point and an exponent with a
sign. -/
def realText (bits : UInt64) : String :=
  let number := Text.Binary.ofBits bits
  let decimal := number.shortest
  let digits := decimal.digits
  let count := decimal.power.natAbs
  let unsigned : List Char :=
    if 0 ≤ decimal.power ∧ decimal.power ≤ 15 then
      let whole := digits.take (count + 1)
      let fraction := digits.drop (count + 1)
      whole ++ List.replicate (count + 1 - whole.length) '0' ++
        '.' :: (if fraction.isEmpty then ['0'] else fraction)
    else if -5 ≤ decimal.power ∧ decimal.power < 0 then
      '0' :: '.' :: (List.replicate (count - 1) '0' ++ digits)
    else
      let point := if digits.length ≤ 1 then digits else digits.take 1 ++ '.' :: digits.drop 1
      point ++ 'e' :: (if decimal.power < 0 then '-' else '+') :: Nat.toDigits 10 count
  (if number.negative then "-" else "") ++ String.ofList unsigned

def Place.message : Place → String
  | .value => "EOF while parsing a value"
  | .list => "EOF while parsing a list"
  | .object => "EOF while parsing an object"
  | .string => "EOF while parsing a string"

def Found.message : Found → String
  | .null => "null"
  | .boolean value => "boolean `" ++ (if value then "true" else "false") ++ "`"
  | .integer value => "integer `" ++ toString value ++ "`"
  | .real bits => "floating point `" ++ realText bits ++ "`"
  | .string value => "string " ++ Text.quoted value
  | .sequence => "sequence"
  | .map => "map"

def Fault.message : Fault → String
  | .endOf place => place.message
  | .expectedValue => "expected value"
  | .expectedWord => "expected ident"
  | .expectedColon => "expected `:`"
  | .expectedCommaOrBrace => "expected `,` or `\x7d`"
  | .expectedCommaOrBracket => "expected `,` or `]`"
  | .keyNotString => "key must be a string"
  | .trailingComma => "trailing comma"
  | .trailingText => "trailing characters"
  | .invalidNumber => "invalid number"
  | .numberOutOfRange => "number out of range"
  | .invalidEscape => "invalid escape"
  | .invalidCodePoint => "invalid unicode code point"
  | .loneSurrogate => "lone leading surrogate in hex escape"
  | .brokenSurrogate => "unexpected end of hex escape"
  | .controlCharacter =>
    "control character (\\u0000-\\u001F) found while parsing a string"
  | .wrongType found wanted => "invalid type: " ++ found.message ++ ", expected " ++ wanted
  | .wrongValue found wanted => "invalid value: " ++ found.message ++ ", expected " ++ wanted
  | .missingField name => "missing field `" ++ name ++ "`"
  | .duplicateField name => "duplicate field `" ++ name ++ "`"
  | .wrongLength length wanted =>
    "invalid length " ++ toString length ++ ", expected " ++ wanted

end Courier.Json
