import Courier.Digest.Checksum
import Courier.Web.Destination
import Courier.Web.Exchange
/-!
Downloads. The file at an address is written to its destination and checked there; a file that fails
the check is removed. Nothing is written unless the reply reports success, and what arrived of a
body that was cut short stays.
-/

namespace Courier

structure DownloadRequest where
  sourceUrl : String
  checksums : Table String
  deriving DecidableEq, Inhabited

structure Downloader where
  directory : Path
  timeoutMillis : Nat
  deriving DecidableEq, Repr, Inhabited

namespace Downloader

def seconds (downloader : Downloader) : Nat :=
  downloader.timeoutMillis / 1000

variable {m : Type → Type} [Monad m]

def orFail {α : Type} (failure : IoFault → Failure) (action : FileAction m α) :
    ExceptT Failure m α := do
  match ← outcome action with
  | .ok value => return value
  | .error fault => throw (failure fault)

def store (files : FileAccess m) (target : Path) (answer : Answer) : ExceptT Failure m Unit := do
  match target.parent? with
  | some parent => orFail (.createDirFailed parent) (files.makeDirectories parent)
  | none => pure ()
  orFail (.writeFailed target) (files.create target)
  orFail (.writeFailed target) (files.append target answer.body)
  if !answer.complete then throw (.http "Read error: request or response body error")

def download (downloader : Downloader) (files : FileAccess m) (network : Network m)
    (request : DownloadRequest) : ExceptT Failure m Path := do
  let target := destination downloader.directory request.sourceUrl
  match ← network.fetch request.sourceUrl downloader.timeoutMillis with
  | .error fault => throw (fault.failure request.sourceUrl downloader.seconds)
  | .ok answer =>
    if !isSuccessStatus answer.status then
      throw (.http ("HTTP " ++ statusText answer.status ++ " from " ++ request.sourceUrl))
    store files target answer
    match ← outcome (files.verifyChecksums target request.checksums) with
    | .ok _ => return target
    | .error failure =>
      let _ ← outcome (files.remove target)
      throw failure

end Downloader

end Courier
