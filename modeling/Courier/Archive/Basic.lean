import Courier.Failure
import Courier.Json.Decode
import Courier.Manifest.Codec
/-!
Archives of packages and the remote interface behind them. An archive finds the manifest of a
package and the place of its files; the control plane answers for the documents and the manifests
that archives are made of.
-/

namespace Courier

/-- The version that asks for the newest one. -/
def latestVersion : String := "latest"

structure ManifestResponse where
  manifest : String := ""
  /-- The canonical name of the package; it may be empty. -/
  packageArn : String := ""
  deriving DecidableEq, Repr, Inhabited

structure Attachment where
  name : String := ""
  url : String := ""
  deriving DecidableEq, Repr, Inhabited

/-- A document as the control plane hands it out; its content is a manifest. -/
structure DocumentResponse where
  name : String := ""
  documentVersion : String := ""
  content : String := ""
  attachments : List Attachment := []
  deriving DecidableEq, Repr, Inhabited

structure ControlPlane (m : Type → Type) where
  getManifest : (name version : String) → ExceptT Failure m ManifestResponse
  getDocument : (name version : String) → ExceptT Failure m DocumentResponse

structure Archive (m : Type → Type) where
  name : m String
  manifestBytes : (name version : String) → ExceptT Failure m Bytes
  /-- The name that a manifest which was just fetched is cached under. -/
  identifier : Manifest → m String
  /-- The archive's own name and version for a package. -/
  canonical : (name version : String) → m (String × String)
  location : ResolvedFile → (name version : String) → ExceptT Failure m String

open Json (RecordField)

def ManifestResponse.fields : List (RecordField ManifestResponse) := [
  .required "Manifest" Json.text fun manifest response => { response with manifest },
  .of "PackageArn" Json.text fun packageArn response => { response with packageArn }]

def ManifestResponse.reader : Json.Reader ManifestResponse :=
  Json.record "struct ManifestResponse" fields {}

def Attachment.fields : List (RecordField Attachment) := [
  .required "Name" Json.text fun name attachment => { attachment with name },
  .required "Url" Json.text fun url attachment => { attachment with url }]

def Attachment.reader : Json.Reader Attachment :=
  Json.record "struct Attachment" fields {}

def DocumentResponse.fields : List (RecordField DocumentResponse) := [
  .required "Name" Json.text fun name response => { response with name },
  .required "DocumentVersion" Json.text
    fun documentVersion response => { response with documentVersion },
  .required "Content" Json.text fun content response => { response with content },
  .of "Attachments" (Json.list Attachment.reader)
    fun attachments response => { response with attachments }]

def DocumentResponse.reader : Json.Reader DocumentResponse :=
  Json.record "struct DocumentResponse" fields {}

def ManifestResponse.toJson (response : ManifestResponse) : Json :=
  .object [("Manifest", .string response.manifest), ("PackageArn", .string response.packageArn)]

def Attachment.toJson (attachment : Attachment) : Json :=
  .object [("Name", .string attachment.name), ("Url", .string attachment.url)]

def DocumentResponse.toJson (response : DocumentResponse) : Json :=
  .object [("Name", .string response.name),
    ("DocumentVersion", .string response.documentVersion),
    ("Content", .string response.content),
    ("Attachments", .array (response.attachments.map Attachment.toJson))]

end Courier
