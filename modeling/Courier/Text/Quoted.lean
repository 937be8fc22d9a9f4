import Courier.Text.Mark
import Courier.Text.Unassigned
/-!
Quoted text in messages. Between its quotes every character stands for itself, except the quote
and the backslash, which follow a backslash, the usual controls, which have a letter, and the
characters that cannot be shown, which are given by their number: controls, formats, separators
other than the space, fillers, private and unassigned code points, and marks that continue the
character before them.
-/

namespace Courier.Text

/-- Controls, formats, separators and fillers beyond ASCII, and the delete control. -/
def invisibleRanges : Ranges := #[
    (0x7F, 0xA0), (0xAD, 0xAD), (0x600, 0x605), (0x61C, 0x61C), (0x6DD, 0x6DD), (0x70F, 0x70F),
    (0x890, 0x891), (0x8E2, 0x8E2), (0x115F, 0x1160), (0x1680, 0x1680), (0x180E, 0x180E),
    (0x2000, 0x200F), (0x2028, 0x202F), (0x205F, 0x2064), (0x2066, 0x206F), (0x3000, 0x3000),
    (0x3164, 0x3164), (0xFEFF, 0xFEFF), (0xFFA0, 0xFFA0), (0xFFF9, 0xFFFB), (0x110BD, 0x110BD),
    (0x110CD, 0x110CD), (0x13430, 0x1343F), (0x1BCA0, 0x1BCA3), (0x1D173, 0x1D17A),
    (0xE0001, 0xE0001), (0xE0020, 0xE007F)]

def isUnwritable (char : Char) : Bool :=
  if char.toNat < 0x7F then char.toNat < 0x20
  else invisibleRanges.holds char || isUnassigned char || isExtending char

def hexDigits (value : Nat) : String :=
  String.ofList (Nat.toDigits 16 value)

def quotedChar (quote char : Char) : String :=
  if char = '\x00' then "\\0"
  else if char = '\t' then "\\t"
  else if char = '\r' then "\\r"
  else if char = '\n' then "\\n"
  else if char = '\\' then "\\\\"
  else if char = quote then "\\" ++ quote.toString
  else if isUnwritable char then "\\u\x7b" ++ hexDigits char.toNat ++ "\x7d"
  else char.toString

def quoted (text : String) : String :=
  "\"" ++ String.join (text.toList.map (quotedChar '"')) ++ "\""

def quotedSingle (char : Char) : String :=
  "'" ++ quotedChar '\'' char ++ "'"

end Courier.Text
