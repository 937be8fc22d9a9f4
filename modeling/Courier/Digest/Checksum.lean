import Courier.Digest.Sha2
import Courier.Failure
import Courier.Files.Access
import Courier.Json.Basic
import Courier.Text.LetterCase
/-!
Checking a file against the digests that a manifest lists. Algorithms nobody knows are passed over;
the first digest that differs ends the check.
-/

namespace Courier

inductive ChecksumAlgorithm where
  | sha256
  | sha512
  deriving DecidableEq, Repr, Inhabited

namespace ChecksumAlgorithm

def name : ChecksumAlgorithm → String
  | .sha256 => "sha256"
  | .sha512 => "sha512"

def ofName? (name : String) : Option ChecksumAlgorithm :=
  let name := Text.lowerAscii name
  if name = "sha256" then some .sha256
  else if name = "sha512" then some .sha512
  else none

def member : ChecksumAlgorithm → Sha2.Member
  | .sha256 => Sha2.sha256
  | .sha512 => Sha2.sha512

def digest (algorithm : ChecksumAlgorithm) (content : Bytes) : String :=
  Sha2.hexText (algorithm.member.digest content)

/-- The digest that a manifest may give for content with the digest `actual`: case and the blanks
around it do not matter. -/
def accepts (actual expected : String) : Bool :=
  Text.lowerAscii actual == Text.lowerAscii (Text.trim expected)

end ChecksumAlgorithm

namespace FileAccess

variable {m : Type → Type} [Monad m] (files : FileAccess m)

def digest (path : Path) (algorithm : ChecksumAlgorithm) : ExceptT Failure m String := do
  match ← outcome (files.read path) with
  | .ok content => return algorithm.digest content
  | .error fault => throw (.readFailed path fault)

def verifyDigest (path : Path) (algorithm : ChecksumAlgorithm) (expected : String) :
    ExceptT Failure m Unit := do
  let actual ← files.digest path algorithm
  unless ChecksumAlgorithm.accepts actual expected do
    throw (.checksumMismatch (path.fileName?.getD "") algorithm.name expected actual)

/-- Checks a file against the digests of a list, one after the other; returns how many of them have
a known algorithm. -/
def verifyList (path : Path) : List (String × String) → ExceptT Failure m Nat
  | [] => return 0
  | (name, expected) :: rest => do
    match ChecksumAlgorithm.ofName? name with
    | none => verifyList path rest
    | some algorithm =>
      files.verifyDigest path algorithm expected
      return (← verifyList path rest) + 1

def verifyChecksums (path : Path) (expected : Table String) : ExceptT Failure m Nat :=
  files.verifyList path expected.toList

end FileAccess

end Courier
