import Courier.Text.Blank
import Courier.Text.Compose
import Courier.Text.Direction
import Courier.Text.Joining
import Courier.Url.NameFold
import Courier.Url.Percent
import Courier.Url.Punycode
/-!
Names of hosts in their normal form. A name is made of labels with dots between them. Its characters
are folded and composed; then every label is written in ASCII, and one that already is has to be the
written form of a label in normal form.
-/

namespace Courier.HostName

open Courier.Text

/-- What a label in ASCII begins with if it stands for another one. -/
def encodedMark : List Char := "xn--".toList

def decodeLimit : Nat := 2000

/-- The longest label beyond ASCII. -/
def labelLimit : Nat := 1000

def isAscii (chars : List Char) : Bool :=
  chars.all (·.toNat < 0x80)

structure Label where
  chars : List Char
  ascii : List Char
  deriving DecidableEq, Repr, Inhabited

/-- Whether a label is what folding and composing leave of it. -/
def isNormal (label : List Char) : Bool :=
  label.all (fun char => fold? char == some [char] && char != '.') && compose label == label

def isSound (label : List Char) : Bool :=
  isAscii label ||
    (!label.head?.any isMark && joinersFit [] label && label.length ≤ labelLimit)

def Label.ofText? (text : List Char) : Option Label :=
  match dropFront? encodedMark text with
  | some written =>
    if isAscii written ∧ !written.isEmpty ∧ written.getLast? ≠ some '-' ∧
        written.length ≤ decodeLimit then
      ((Punycode.decode? written).filter fun label => isNormal label && isSound label).map
        ({ chars := ·, ascii := text })
    else none
  | none =>
    if isSound text then
      some { chars := text
             ascii := if isAscii text then text else encodedMark ++ Punycode.encode text }
    else none

def labels? (text : String) : Option (List Label) := do
  let folded ← text.toList.mapM fold?
  let labels ← (pieces (· == '.') (compose folded.flatten)).mapM Label.ofText?
  if labels.any (turnsDirection ·.chars) && !labels.all (keepsDirection ·.chars) then none
  else some labels

def normal? (written : List Char) : Option (List Char) := do
  let text ← Utf8.decode? (Percent.decode written)
  let labels ← labels? text
  return ['.'].intercalate (labels.map (·.ascii))

end Courier.HostName
