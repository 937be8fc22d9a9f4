import Courier.Digest.Sha2
import Courier.Path
import Courier.Text.Cut
/-!
Where a download is put. Every address has a directory of its own, named for a digest of the
address, and in it the file is called by the last name in the address.
-/

namespace Courier

def fallbackFileName : String := "artifact"

/-- An address up to its query or fragment, without its scheme. -/
def addressPlace (address : String) : List Char :=
  let bare := address.toList.takeWhile fun char => char != '?' && char != '#'
  match Text.cut? "://".toList bare with
  | some (_, place) => place
  | none => bare

def isFileName (name : List Char) : Bool :=
  !name.isEmpty && name != ['.'] && name != ['.', '.']

/-- The name after the last slash of an address; the first slash is the end of the host. -/
def fileNameOfUrl (address : String) : String :=
  match (Text.pieces (· == '/') (addressPlace address)).tail.getLast? with
  | some name => if isFileName name then String.ofList name else fallbackFileName
  | none => fallbackFileName

/-- The name of the directory of an address: the first eight bytes of its digest. -/
def urlDigest (address : String) : String :=
  Sha2.hexText ((Sha2.sha256.digest (Utf8.encode address)).take 8)

def destination (directory : Path) (address : String) : Path :=
  (directory.join (urlDigest address)).join (fileNameOfUrl address)

end Courier
