import Courier.Archive.Basic
/-!
The archive of repository manifests. Every file entry of such a manifest carries its own address. A
manifest may also be supplied up front, and then the control plane is never asked for one.
-/

namespace Courier

/-- The name of the package whose manifest was fetched last. -/
structure RepositoryMemory where
  resource : String := ""
  deriving DecidableEq, Repr, Inhabited

/-- A manifest supplied up front, unless it is blank. -/
def suppliedManifest? (manifest : Option String) : Option String :=
  manifest.filter fun text => !(Text.trim text).isEmpty

def ManifestResponse.identifier (response : ManifestResponse) (name : String) : String :=
  if response.packageArn.isEmpty then name else response.packageArn

def listedUrl (file : ResolvedFile) (name version : String) : Except Failure String :=
  match file.info.downloadLocation.filter (!·.isEmpty) with
  | some location => .ok location
  | none => .error (.backend name version ("file " ++ file.name ++ " has no download location"))

namespace ControlPlane

variable {m : Type → Type} [Monad m] [MonadStateOf RepositoryMemory m] (plane : ControlPlane m)

def rememberResource (resource : String) : ExceptT Failure m Unit :=
  ExceptT.lift ((MonadStateOf.set : RepositoryMemory → m PUnit) { resource })

def repositoryArchive (supplied : Option String) : Archive m where
  name := return "repository"
  manifestBytes name version := do
    match suppliedManifest? supplied with
    | some manifest =>
      rememberResource name
      return Utf8.encode manifest
    | none =>
      let response ← plane.getManifest name version
      rememberResource (response.identifier name)
      return Utf8.encode response.manifest
  identifier _ := do
    let memory : RepositoryMemory ← MonadStateOf.get
    return memory.resource
  canonical name version := return (name, version)
  location file name version := MonadExcept.ofExcept (listedUrl file name version)

end ControlPlane

end Courier
