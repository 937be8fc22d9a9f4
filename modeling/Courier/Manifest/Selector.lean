import Courier.Failure
import Courier.Manifest.Basic
/-!
Selection of a variant. Every level of the selector tree takes the host's own value if the level has
it, else the wildcard, and is then committed to it: a dead end further down is not retried.
-/

namespace Courier

/-- The key of a selector that stands for every value at its level. -/
def anySelector : String := "_any"

/-- The key that a level gives to a value: the value itself, else the wildcard. -/
def matchKey? {α : Type} (value : String) (level : Table α) : Option String :=
  if value ∈ level then some value
  else if anySelector ∈ level then some anySelector
  else none

def choose? {α : Type} (value : String) (level : Table α) : Option α := do
  let key ← matchKey? value level
  level[key]?

/-- The variant for a host, or the first level that has nothing for it. -/
def Manifest.resolveVariant (manifest : Manifest)
    (platform platformVersion architecture : String) : Except Failure PackageVariant := do
  let noMatch (level : SelectorLevel) : Failure :=
    .noMatch platform platformVersion architecture level
  let some versions := choose? platform manifest.packages | throw (noMatch .platform)
  let some architectures := choose? platformVersion versions | throw (noMatch .platformVersion)
  let some variant := choose? architecture architectures | throw (noMatch .architecture)
  return variant

def Manifest.locateFile (manifest : Manifest) (variant : PackageVariant) :
    Except Failure ResolvedFile :=
  match manifest.files[variant.fileName]? with
  | some info => .ok { name := variant.fileName, info }
  | none => .error (.fileNotFound variant.fileName)

end Courier
