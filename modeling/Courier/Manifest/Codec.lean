import Courier.Failure
import Courier.Json.Basic
import Courier.Json.Decode
import Courier.Manifest.Basic
/-!
Manifests as JSON. `parse` reads a manifest from bytes and `toJson` gives the tree that is written.
Fields nobody knows are ignored, and every field may be left out.
-/

namespace Courier

open Json (RecordField)

def PackageVariant.fields : List (RecordField PackageVariant) := [
  { RecordField.of "file" Json.text fun fileName variant => { variant with fileName } with
    otherName := some "fileName" }]

def PackageVariant.reader : Json.Reader PackageVariant :=
  Json.record "struct PackageVariant" fields {}

def FileInfo.fields : List (RecordField FileInfo) := [
  .of "checksums" (Json.table Json.text) fun checksums info => { info with checksums },
  .of "downloadLocation" (Json.optional Json.text)
    fun downloadLocation info => { info with downloadLocation },
  .of "size" (Json.optional Json.unsigned64) fun size info => { info with size }]

def FileInfo.reader : Json.Reader FileInfo :=
  Json.record "struct FileInfo" fields {}

def SelectorTree.reader : Json.Reader SelectorTree :=
  Json.table (Json.table (Json.table PackageVariant.reader))

def Manifest.fields : List (RecordField Manifest) := [
  .of "schemaVersion" Json.text fun schemaVersion manifest => { manifest with schemaVersion },
  .of "version" Json.text fun version manifest => { manifest with version },
  .of "packages" SelectorTree.reader fun packages manifest => { manifest with packages },
  .of "files" (Json.table FileInfo.reader) fun files manifest => { manifest with files }]

def Manifest.reader : Json.Reader Manifest :=
  Json.record "struct Manifest" fields {}

def Manifest.parse (bytes : Bytes) : Except Failure Manifest :=
  match Json.parse Manifest.reader bytes with
  | .ok manifest => .ok manifest
  | .error fault => .error (.decode fault.message)

def PackageVariant.toJson (variant : PackageVariant) : Json :=
  .object [("file", .string variant.fileName)]

def Json.optionalMember (name : String) (value : Option Json) : List (String × Json) :=
  value.toList.map fun value => (name, value)

/-- The tree of a file around that of its checksums. What is absent is left out. -/
def FileInfo.treeWith (info : FileInfo) (checksums : Json) : Json :=
  .object (("checksums", checksums) ::
    (Json.optionalMember "downloadLocation" (info.downloadLocation.map .string) ++
      Json.optionalMember "size" (info.size.map fun size => .integer size.toNat)))

def FileInfo.toJson (info : FileInfo) : Json :=
  info.treeWith (Table.toJson .string info.checksums)

def SelectorTree.toJson (packages : SelectorTree) : Json :=
  Table.toJson (Table.toJson (Table.toJson PackageVariant.toJson)) packages

/-- The tree of a manifest around those of its tables. An empty schema version is left out. -/
def Manifest.treeWith (manifest : Manifest) (packages files : Json) : Json :=
  .object (
    Json.optionalMember "schemaVersion"
      (if manifest.schemaVersion.isEmpty then none else some (.string manifest.schemaVersion)) ++
    [("version", .string manifest.version), ("packages", packages), ("files", files)])

def Manifest.toJson (manifest : Manifest) : Json :=
  manifest.treeWith (SelectorTree.toJson manifest.packages)
    (Table.toJson FileInfo.toJson manifest.files)

end Courier
