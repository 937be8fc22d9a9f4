import Courier.Text.Quoted
/-!
Settings in sections, the lines they are written in, and what can be wrong with their text.
-/

namespace Courier

/-- A section: its name, unless it is the nameless one in front, and its entries in order. -/
structure IniSection where
  name : Option String := none
  entries : List (String × String) := []
  deriving DecidableEq, Repr, Inhabited

/-- The sections of a text in order. A name may occur more than once. -/
structure Ini where
  sections : List IniSection
  deriving DecidableEq, Repr, Inhabited

namespace Ini

def section? (ini : Ini) (name : String) : Option IniSection :=
  ini.sections.find? (·.name == some name)

end Ini

def IniSection.get? (part : IniSection) (key : String) : Option String :=
  part.entries.lookup key

inductive IniLine where
  | blank
  | comment (text : String)
  | heading (name : String)
  | entry (key value : String)
  deriving DecidableEq, Repr, Inhabited

namespace IniLine

def text : IniLine → String
  | .blank => ""
  | .comment text => "; " ++ text
  | .heading name => "[" ++ name ++ "]"
  | .entry key value => key ++ " = " ++ value

def join (lines : List IniLine) : String :=
  String.join (lines.map fun line => line.text ++ "\n")

end IniLine

/-- What a text is read for, which decides where it ends. -/
inductive IniText where
  | sectionName
  /-- A key, up to a sign of assignment. A key in an indented line is dropped if the text ends in it
  or something is wrong with it. -/
  | key (indented : Bool)
  | quoted (quote : Char)
  | line
  deriving DecidableEq, Repr, Inhabited

/-- The characters that end a text; the end of everything is the last one for a line. -/
def IniText.stops : IniText → List (Option Char)
  | .sectionName => [some ']']
  | .key _ => [some '=', some ':']
  | .quoted quote => [some quote]
  | .line => [some '\n', some '\r', none]

inductive IniFault where
  | inlineComment
  | missingKey
  | unknownCharacter
  /-- A backslash among the digits of a character with something else than a line break after it. -/
  | brokenDigits (found : Option Char)
  | endsInside (text : IniText)
  deriving DecidableEq, Repr, Inhabited

def charText : Option Char → String
  | some char => "Some(" ++ Text.quotedSingle char ++ ")"
  | none => "None"

def IniFault.message : IniFault → String
  | .inlineComment => "doesn't support inline comment"
  | .missingKey => "missing key"
  | .unknownCharacter => "unknown character in \\xHH form"
  | .brokenDigits found => "expecting \"\\\\n\" but found \"" ++ charText found ++ "\"."
  | .endsInside text =>
    "expecting \"[" ++ ", ".intercalate (text.stops.map charText) ++ "]\" but found EOF."

end Courier
