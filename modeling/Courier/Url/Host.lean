import Courier.Text.Quoted
import Courier.Url.Name
/-!
Hosts of addresses: names, IPv4 addresses as one number, IPv6 addresses as eight groups. A host is
read from the text between the userinfo and the port, and written in its one normal form.
-/

namespace Courier

inductive UrlFault where
  | relative
  | emptyHost
  | badDomain
  | badPort
  | badIpv4
  | badIpv6
  | badHostCharacter
  deriving DecidableEq, Repr, Inhabited

def UrlFault.message : UrlFault → String
  | .relative => "relative URL without a base"
  | .emptyHost => "empty host"
  | .badDomain => "invalid international domain name"
  | .badPort => "invalid port number"
  | .badIpv4 => "invalid IPv4 address"
  | .badIpv6 => "invalid IPv6 address"
  | .badHostCharacter => "invalid domain character"

inductive Host where
  | name (text : String)
  | ipv4 (address : Nat)
  | ipv6 (groups : List Nat)
  deriving DecidableEq, Repr, Inhabited

namespace Host

def number? (base : Nat) (digits : List Char) : Option Nat :=
  digits.foldlM (fun value char => do
    let digit ← Percent.digitValue? char
    if digit < base then some (value * base + digit) else none) 0

/-- A part of an IPv4 address: in base sixteen after `0x`, in base eight after `0`. -/
def ipv4Part? : List Char → Option Nat
  | [] => none
  | '0' :: 'x' :: digits => number? 16 digits
  | '0' :: 'X' :: digits => number? 16 digits
  | '0' :: digit :: digits => number? 8 (digit :: digits)
  | digits => number? 10 digits

/-- The parts between the dots; a dot at the end adds none. -/
def dotParts (domain : List Char) : List (List Char) :=
  let parts := Text.pieces (· == '.') domain
  if 1 < parts.length ∧ parts.getLast? = some [] then parts.dropLast else parts

def endsInNumber (domain : List Char) : Bool :=
  match (dotParts domain).getLast? with
  | some part => (!part.isEmpty && part.all Char.isDigit) || (ipv4Part? part).isSome
  | none => false

/-- The address whose first bytes are the given ones; the others make up the number `last`. -/
def ipv4Value (front : List Nat) (last : Nat) : Nat :=
  front.zipIdx.foldl (fun total part => total + part.1 <<< (8 * (3 - part.2))) last

/-- Up to four numbers. The last one fills all the bytes that the others leave. -/
def ipv4? (domain : List Char) : Option Nat := do
  let numbers ← (dotParts domain).mapM ipv4Part?
  let last ← numbers.getLast?
  let front := numbers.dropLast
  if front.length ≤ 3 ∧ (∀ value ∈ front, value ≤ 255) ∧ last < 1 <<< (8 * (4 - front.length)) then
    some (ipv4Value front last)
  else none

def ipv4Text (address : Nat) : List Char :=
  let byte (place : Nat) := (toString (address >>> (8 * place) % 256)).toList
  byte 3 ++ '.' :: byte 2 ++ '.' :: byte 1 ++ '.' :: byte 0

def group? (digits : List Char) : Option Nat :=
  if 1 ≤ digits.length ∧ digits.length ≤ 4 then number? 16 digits else none

/-- A number of an IPv4 address inside an IPv6 address; it has no leading zero. -/
def dottedByte? (digits : List Char) : Option Nat := do
  let value ← number? 10 digits
  if digits.isEmpty ∨ (digits.head? = some '0' ∧ digits ≠ ['0']) ∨ 255 < value then none
  else some value

def dottedGroups? (text : List Char) : Option (List Nat) := do
  match ← (Text.pieces (· == '.') text).mapM dottedByte? with
  | [first, second, third, fourth] => some [first * 256 + second, third * 256 + fourth]
  | _ => none

/-- Groups with colons between them; if the address ends here, the last may be an IPv4 address. -/
def groups? (final : Bool) (text : List Char) : Option (List Nat) := do
  if text.isEmpty then return []
  let parts := Text.pieces (· == ':') text
  let last := parts.getLast?.getD []
  if final ∧ last.contains '.' then
    return (← parts.dropLast.mapM group?) ++ (← dottedGroups? last)
  else parts.mapM group?

def splitColons : List Char → Option (List Char × List Char)
  | [] => none
  | ':' :: ':' :: rest => some ([], rest)
  | char :: rest => (splitColons rest).map fun (before, after) => (char :: before, after)

/-- Eight groups. Two colons in a row stand for at least one group of zero. -/
def ipv6? (text : List Char) : Option (List Nat) := do
  match splitColons text with
  | none =>
    let groups ← groups? true text
    if groups.length = 8 then some groups else none
  | some (before, after) =>
    let front ← groups? false before
    let back ← groups? true after
    let known := front.length + back.length
    if known ≤ 7 then some (front ++ List.replicate (8 - known) 0 ++ back) else none

def zeroRun (groups : List Nat) : Nat :=
  (groups.takeWhile (· == 0)).length

/-- Where the first of the longest runs of zeros begins, and its length. -/
def longestZeroRun : (place : Nat) → List Nat → Nat × Nat
  | place, [] => (place, 0)
  | place, group :: rest =>
    let here := zeroRun (group :: rest)
    let (later, length) := longestZeroRun (place + 1) rest
    if length ≤ here then (place, here) else (later, length)

def groupsText (groups : List Nat) : List Char :=
  [':'].intercalate (groups.map fun group => (Text.hexDigits group).toList)

/-- The groups without leading zeros, and two colons for the longest run of two zeros or more. -/
def ipv6Text (groups : List Nat) : List Char :=
  let (place, length) := longestZeroRun 0 groups
  if length < 2 then groupsText groups
  else groupsText (groups.take place) ++ ':' :: ':' :: groupsText (groups.drop (place + length))

def bracketed (text : List Char) (other : Except UrlFault Host) : Except UrlFault Host :=
  match text with
  | '[' :: rest =>
    if rest.getLast? = some ']' then
      match ipv6? rest.dropLast with
      | some groups => .ok (.ipv6 groups)
      | none => .error .badIpv6
    else .error .badIpv6
  | _ => other

def parse (text : List Char) : Except UrlFault Host :=
  bracketed text do
    match HostName.normal? text with
    | none => throw .badDomain
    | some [] => throw .emptyHost
    | some labels =>
      if endsInNumber labels then
        match ipv4? labels with
        | some address => return .ipv4 address
        | none => throw .badIpv4
      else return .name (String.ofList labels)

def parseOpaque (text : List Char) : Except UrlFault Host :=
  bracketed text do
    if text.any fun char => char = '\x00' ∨ "\t\n\r #/:<>?@[\\]^|".toList.contains char then
      throw .badHostCharacter
    else return .name (Percent.encode Percent.inOpaque (String.ofList text))

def text : Host → String
  | .name text => text
  | .ipv4 address => String.ofList (ipv4Text address)
  | .ipv6 groups => "[" ++ String.ofList (ipv6Text groups) ++ "]"

end Host

end Courier
