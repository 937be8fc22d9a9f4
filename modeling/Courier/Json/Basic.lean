import Std.Data.ExtTreeMap
/-!
JSON as a tree, and its written forms: `compact` has no blanks, `pretty` puts every item and member
on a line of its own. Objects keep the order of their members; a table has none of its own and is
written in that of its keys.
-/

namespace Courier

/-- Two tables are equal when they give the same value to every key. -/
abbrev Table (α : Type) := Std.ExtTreeMap String α

inductive Json where
  | null
  | boolean (value : Bool)
  | integer (value : Int)
  | string (value : String)
  | array (items : List Json)
  | object (members : List (String × Json))
  deriving Inhabited

namespace Json

/-- A character inside a string. The quote, the backslash and the controls are escaped, by a letter
where there is one. -/
def escapeChar (char : Char) : List Char :=
  if char = '"' then ['\\', '"']
  else if char = '\\' then ['\\', '\\']
  else if char = '\n' then ['\\', 'n']
  else if char = '\r' then ['\\', 'r']
  else if char = '\t' then ['\\', 't']
  else if char = '\x08' then ['\\', 'b']
  else if char = '\x0c' then ['\\', 'f']
  else if char.toNat < 0x20 then
    ['\\', 'u', '0', '0', Nat.digitChar (char.toNat / 16), Nat.digitChar (char.toNat % 16)]
  else [char]

def writeString (text : String) : List Char :=
  '"' :: text.toList.flatMap escapeChar ++ ['"']

def writeInteger (value : Int) : List Char :=
  (toString value).toList

mutual

def write : Json → List Char
  | .null => "null".toList
  | .boolean true => "true".toList
  | .boolean false => "false".toList
  | .integer value => writeInteger value
  | .string text => writeString text
  | .array items => '[' :: writeItems items ++ [']']
  | .object members => '{' :: writeMembers members ++ ['}']

def writeItems : List Json → List Char
  | [] => []
  | [item] => write item
  | item :: rest => write item ++ ',' :: writeItems rest

def writeMembers : List (String × Json) → List Char
  | [] => []
  | [(name, value)] => writeString name ++ ':' :: write value
  | (name, value) :: rest => writeString name ++ ':' :: write value ++ ',' :: writeMembers rest

end

def newLine (depth : Nat) : List Char :=
  '\n' :: List.replicate (2 * depth) ' '

mutual

/-- The written form with one item or member on a line, indented by two blanks for every array and
object around it. -/
def writeLines (depth : Nat) : Json → List Char
  | .null => "null".toList
  | .boolean true => "true".toList
  | .boolean false => "false".toList
  | .integer value => writeInteger value
  | .string text => writeString text
  | .array [] => "[]".toList
  | .array items => '[' :: writeItemLines (depth + 1) items ++ newLine depth ++ [']']
  | .object [] => ['{', '}']
  | .object members => '{' :: writeMemberLines (depth + 1) members ++ newLine depth ++ ['}']

def writeItemLines (depth : Nat) : List Json → List Char
  | [] => []
  | [item] => newLine depth ++ writeLines depth item
  | item :: rest => newLine depth ++ writeLines depth item ++ ',' :: writeItemLines depth rest

def writeMemberLines (depth : Nat) : List (String × Json) → List Char
  | [] => []
  | [(name, value)] => newLine depth ++ writeString name ++ ':' :: ' ' :: writeLines depth value
  | (name, value) :: rest =>
    newLine depth ++ writeString name ++ ':' :: ' ' :: writeLines depth value ++
      ',' :: writeMemberLines depth rest

end

def compact (value : Json) : String :=
  String.ofList (write value)

def pretty (value : Json) : String :=
  String.ofList (writeLines 0 value)

end Json

def Table.toJson {α : Type} (value : α → Json) (table : Table α) : Json :=
  .object (table.toList.map fun (key, entry) => (key, value entry))

end Courier
