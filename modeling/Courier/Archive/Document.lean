import Courier.Archive.Basic
/-!
The archive of documents. The manifest of a package is the content of its document, and its files
are attachments of the document. The archive remembers the last document it fetched: a file of that
document is found without asking again, and the document's own name and version are the canonical
ones of the package.
-/

namespace Courier

/-- What an archive of documents remembers of a document: how it was asked for, how it calls itself,
and its attachments. -/
structure FetchedDocument where
  requestedName : String
  requestedVersion : String
  name : String
  documentVersion : String
  attachments : List Attachment
  deriving DecidableEq, Repr, Inhabited

namespace FetchedDocument

/-- Whether the document is the one of a package. The empty version means the newest one. -/
def answers (fetched : FetchedDocument) (name version : String) : Bool :=
  (name == fetched.requestedName || name == fetched.name) &&
    (version == fetched.requestedVersion || version == fetched.documentVersion ||
      (version.isEmpty && fetched.requestedVersion == latestVersion))

def identifier (fetched : FetchedDocument) : String :=
  if fetched.name.isEmpty then fetched.requestedName else fetched.name

def ofResponse (name version : String) (response : DocumentResponse) : FetchedDocument :=
  { requestedName := name
    requestedVersion := version
    name := response.name
    documentVersion := response.documentVersion
    attachments := response.attachments }

end FetchedDocument

abbrev DocumentMemory := Option FetchedDocument

namespace DocumentMemory

def identifier (memory : DocumentMemory) : String :=
  (memory.map FetchedDocument.identifier).getD ""

def attachments? (memory : DocumentMemory) (name version : String) : Option (List Attachment) :=
  match memory with
  | some fetched => if fetched.answers name version then some fetched.attachments else none
  | none => none

/-- The canonical name and version of a package: those of the remembered document, if it is the one
of the package and has a name. -/
def canonical (memory : DocumentMemory) (name version : String) : String × String :=
  match memory with
  | some fetched =>
    if fetched.answers name version && !fetched.name.isEmpty then
      (fetched.name, fetched.documentVersion)
    else (name, version)
  | none => (name, version)

end DocumentMemory

/-- The address of the first attachment that is called like the file. -/
def attachmentUrl (attachments : List Attachment) (file : ResolvedFile) (name version : String) :
    Except Failure String :=
  match attachments.find? (·.name == file.name) with
  | some attachment => .ok attachment.url
  | none => .error (.backend name version ("document has no attachment named " ++ file.name))

namespace ControlPlane

variable {m : Type → Type} [Monad m] [MonadStateOf DocumentMemory m] (plane : ControlPlane m)

/-- Fetches a document and remembers it. A failed request leaves the memory as it was. -/
def fetchDocument (name version : String) : ExceptT Failure m DocumentResponse := do
  let response ← plane.getDocument name version
  ExceptT.lift ((MonadStateOf.set : DocumentMemory → m PUnit)
    (some (FetchedDocument.ofResponse name version response)))
  return response

def attachments (name version : String) : ExceptT Failure m (List Attachment) := do
  let memory : DocumentMemory ← ExceptT.lift MonadStateOf.get
  match memory.attachments? name version with
  | some attachments => return attachments
  | none => return (← plane.fetchDocument name version).attachments

def documentArchive : Archive m where
  name := return "document"
  manifestBytes name version := do
    return Utf8.encode (← plane.fetchDocument name version).content
  identifier _ := do
    let memory : DocumentMemory ← MonadStateOf.get
    return memory.identifier
  canonical name version := do
    let memory : DocumentMemory ← MonadStateOf.get
    return memory.canonical name version
  location file name version := do
    let attachments ← plane.attachments name version
    MonadExcept.ofExcept (attachmentUrl attachments file name version)

end ControlPlane

end Courier
