import Courier.Cache.Basic
import Courier.Digest.Sha2
import Courier.Files.Access
/-!
The cache in files: below a root, every resource has a directory named for a digest of it, and in it
every version has a file. A manifest is written to a draft beside its file, and the draft then takes
the file's name in one step, so that the file never holds a part of a manifest.
-/

namespace Courier

/-- Whether a byte of a version stands for itself in the name of its file. -/
def isPlainVersionByte (byte : UInt8) : Bool :=
  let char := Char.ofNat byte.toNat
  byte < 0x80 && (char.isAlphanum || char == '.' || char == '-' || char == '+')

/-- A byte of a version as itself, or as an underscore and two digits. -/
def encodeVersionByte (byte : UInt8) : List Char :=
  if isPlainVersionByte byte then [Char.ofNat byte.toNat] else '_' :: Sha2.hexByte byte

def encodeVersion (version : String) : String :=
  String.ofList ((Utf8.encode version).flatMap encodeVersionByte)

/-- The name of the directory of a resource: the first sixteen bytes of its digest. -/
def resourceDigest (resource : String) : String :=
  Sha2.hexText ((Sha2.sha256.digest (Utf8.encode resource)).take 16)

structure FileCache where
  root : Path
  deriving DecidableEq, Repr, Inhabited

namespace FileCache

def resourceDirectory (cache : FileCache) (resource : String) : Path :=
  cache.root.join (resourceDigest resource)

def manifestPath (cache : FileCache) (resource version : String) : Path :=
  (cache.resourceDirectory resource).join (encodeVersion version ++ ".json")

def markerPath (cache : FileCache) (resource : String) : Path :=
  (cache.resourceDirectory resource).join "resource"

def draftPath (cache : FileCache) (resource version : String) : Path :=
  (cache.manifestPath resource version).withExtension "tmp"

structure Entry where
  resource : String
  version : String
  bytes : Bytes
  deriving DecidableEq, Repr, Inhabited

/-- The steps of a write, each of which touches one file or directory. -/
inductive WriteStep where
  | makeDirectory
  | markResource
  | createDraft
  | fillDraft
  | syncDraft
  | replaceManifest
  deriving DecidableEq, Repr, Inhabited

def writeSteps : List WriteStep :=
  [.makeDirectory, .markResource, .createDraft, .fillDraft, .syncDraft, .replaceManifest]

variable {m : Type → Type} [Monad m] (files : FileAccess m) (cache : FileCache)

/-- Gives an action the failure of a cache write; `doing` and the path say what cannot be done. -/
def orCannot (entry : Entry) (doing : String) (path : Path) (action : FileAction m Unit) :
    ExceptT Failure m Unit := do
  match ← outcome action with
  | .ok () => return
  | .error fault =>
    throw (.cacheWrite entry.resource entry.version
      ("cannot " ++ doing ++ " " ++ path.text ++ ": " ++ fault.message))

/-- Carries out a step. A draft that cannot take the manifest's place is removed. -/
def runStep (entry : Entry) : WriteStep → ExceptT Failure m Unit
  | .makeDirectory =>
    let directory := cache.resourceDirectory entry.resource
    orCannot entry "create" directory (files.makeDirectories directory)
  | .markResource => do
    let marker := cache.markerPath entry.resource
    if ← files.present marker then return
    orCannot entry "write" marker (files.write marker (Utf8.encode entry.resource))
  | .createDraft =>
    let draft := cache.draftPath entry.resource entry.version
    orCannot entry "write" draft (files.create draft)
  | .fillDraft =>
    let draft := cache.draftPath entry.resource entry.version
    orCannot entry "write" draft (files.append draft entry.bytes)
  | .syncDraft =>
    let draft := cache.draftPath entry.resource entry.version
    orCannot entry "write" draft (files.sync draft)
  | .replaceManifest =>
    let draft := cache.draftPath entry.resource entry.version
    let manifest := cache.manifestPath entry.resource entry.version
    orCannot entry "replace" manifest do
      match ← outcome (files.rename draft manifest) with
      | .ok () => return
      | .error fault =>
        let _ ← outcome (files.remove draft)
        throw fault

def write (entry : Entry) : ExceptT Failure m Unit :=
  writeSteps.forM (cache.runStep files entry)

/-- Reads a manifest. A file that is not there is a miss, and any other fault is none. -/
def read (resource version : String) : ExceptT Failure m Bytes := do
  let path := cache.manifestPath resource version
  match ← outcome (files.read path) with
  | .ok bytes => return bytes
  | .error fault =>
    if fault.isNotFound then throw (.cacheMiss resource version) else throw (.readFailed path fault)

def manifestCache : ManifestCache m where
  read := cache.read files
  write resource version bytes := cache.write files { resource, version, bytes }

end FileCache

end Courier
