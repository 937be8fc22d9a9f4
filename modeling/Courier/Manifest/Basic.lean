import Courier.Json.Basic
/-!
Package manifests. A manifest describes one version of a package: the selector tree leads from the
platform, platform version and architecture of a host to a variant, and the file table says how each
downloadable file is checked and where it lies.
-/

namespace Courier

/-- What a host installs: the name of an entry of the file table. A variant that names none has the
empty name, and only hosts that select it notice. -/
structure PackageVariant where
  fileName : String := ""
  deriving DecidableEq, Repr, Inhabited

/-- How a downloadable file is checked, by the name of the algorithm, and where it lies. -/
structure FileInfo where
  checksums : Table String := ∅
  downloadLocation : Option String := none
  size : Option UInt64 := none
  deriving DecidableEq, Inhabited

/-- Platform, then platform version, then architecture. -/
abbrev SelectorTree := Table (Table (Table PackageVariant))

structure Manifest where
  schemaVersion : String := ""
  version : String := ""
  packages : SelectorTree := ∅
  files : Table FileInfo := ∅
  deriving DecidableEq, Inhabited

structure ResolvedFile where
  name : String
  info : FileInfo
  deriving DecidableEq, Inhabited

def Manifest.hasPackages (manifest : Manifest) : Bool :=
  !manifest.packages.isEmpty

end Courier
