import Courier.Path
import Courier.Text.LetterCase
/-!
Settings of the program. What is not set is detected on the host or has a default; the defaults for
directories hang on the user's home.
-/

namespace Courier

inductive ArchiveKind where
  /-- Manifests inside documents, files attached to them. -/
  | document
  /-- Manifests from the repository, files where the manifest says. -/
  | repository
  deriving DecidableEq, Repr, Inhabited

namespace ArchiveKind

def name : ArchiveKind → String
  | .document => "document"
  | .repository => "repository"

def parse (text : String) : Except String ArchiveKind :=
  let name := Text.lower (Text.trim text)
  if name = "document" then .ok .document
  else if name = "repository" then .ok .repository
  else .error ("unknown archive '" ++ name ++ "'")

end ArchiveKind

structure Places where
  home : Path
  temporary : Path := ⟨"/tmp"⟩
  /-- Where the system wants caches, if it says so. Only an absolute directory counts. -/
  caches : Option Path := none
  deriving DecidableEq, Repr, Inhabited

namespace Places

variable (places : Places)

def configDirectory : Path := places.home.join ".pkgfetch"

def configFile : Path := places.configDirectory.join "config.ini"

def cacheBase : Path :=
  (places.caches.filter Path.isAbsolute).getD (places.home.join ".cache")

def cacheDirectory : Path := (places.cacheBase.join "pkgfetch").join "manifests"

def downloadDirectory : Path := places.temporary.join "pkgfetch-downloads"

def logDirectory : Path := places.configDirectory.join "logs"

end Places

structure ServiceSettings where
  endpoint : Option String := none
  archive : ArchiveKind := .document
  timeoutSeconds : UInt64 := 30
  deriving DecidableEq, Repr, Inhabited

structure DownloadSettings where
  directory : Path
  timeoutSeconds : UInt64 := 300
  deriving DecidableEq, Repr, Inhabited

/-- What is to be said about the host; the rest is detected. -/
structure HostSettings where
  platform : Option String := none
  platformVersion : Option String := none
  architecture : Option String := none
  instanceId : Option String := none
  instanceType : Option String := none
  region : Option String := none
  availabilityZone : Option String := none
  deriving DecidableEq, Repr, Inhabited

structure Settings where
  service : ServiceSettings := {}
  cacheDirectory : Path
  download : DownloadSettings
  host : HostSettings := {}
  logDirectory : Path
  deriving DecidableEq, Repr, Inhabited

def Settings.initial (places : Places) : Settings :=
  { cacheDirectory := places.cacheDirectory
    download := { directory := places.downloadDirectory }
    logDirectory := places.logDirectory }

/-- The same settings, with directories compared as paths. -/
def Settings.Same (left right : Settings) : Prop :=
  left.service = right.service ∧
    left.cacheDirectory.Same right.cacheDirectory ∧
    left.download.directory.Same right.download.directory ∧
    left.download.timeoutSeconds = right.download.timeoutSeconds ∧
    left.host = right.host ∧
    left.logDirectory.Same right.logDirectory

instance (left right : Settings) : Decidable (Settings.Same left right) :=
  inferInstanceAs (Decidable (_ ∧ _))

/-- The path that a text in the settings means; a tilde and a slash stand for the home. -/
def Places.expand (places : Places) (text : String) : Path :=
  match Text.after? "~/" text with
  | some rest => places.home.join rest
  | none => ⟨text⟩

/-- A path as the settings hold it: below the home, it begins with a tilde. -/
def Places.shorten (places : Places) (path : Path) : String :=
  match Path.after? places.home path with
  | some rest => "~/" ++ rest.text
  | none => path.text

end Courier
