import Courier.Files.Fault
import Courier.Path
/-!
Why an operation on packages fails: one cause each, and the one wording of each cause. An action may
take a failure as a value and go on.
-/

namespace Courier

inductive SelectorLevel where
  | platform
  | platformVersion
  | architecture
  deriving DecidableEq, Repr, Inhabited

def SelectorLevel.name : SelectorLevel → String
  | .platform => "platform"
  | .platformVersion => "platform version"
  | .architecture => "architecture"

inductive Failure where
  | readFailed (path : Path) (source : IoFault)
  | writeFailed (path : Path) (source : IoFault)
  | createDirFailed (path : Path) (source : IoFault)
  | decode (reason : String)
  | cacheMiss (resource version : String)
  | cacheWrite (resource version reason : String)
  /-- The selector tree has no entry for the host; `level` is the first level without one. -/
  | noMatch (platform platformVersion architecture : String) (level : SelectorLevel)
  | fileNotFound (fileName : String)
  | downloadFailed (url : String) (reason : Option String)
  | checksumMismatch (fileName algorithm expected actual : String)
  | reportSubmission (reason : String)
  | backend (package version reason : String)
  | environment (reason : String)
  | invalidConfig (reason : String)
  | http (reason : String)
  | timeout (url : String) (seconds : Nat)
  deriving DecidableEq, Repr, Inhabited

namespace Failure

def message : Failure → String
  | .readFailed path source => "failed to read " ++ path.text ++ ": " ++ source.message
  | .writeFailed path source => "failed to write " ++ path.text ++ ": " ++ source.message
  | .createDirFailed path source =>
    "failed to create directory " ++ path.text ++ ": " ++ source.message
  | .decode reason => "failed to decode manifest: " ++ reason
  | .cacheMiss resource version => "no cached manifest for " ++ resource ++ " version " ++ version
  | .cacheWrite resource version reason =>
    "failed to write manifest for " ++ resource ++ " version " ++ version ++ " to cache: " ++ reason
  | .noMatch platform platformVersion architecture level =>
    "no manifest found for platform: " ++ platform ++ ", version " ++ platformVersion ++
      ", architecture " ++ architecture ++ " (no " ++ level.name ++ " entry)"
  | .fileNotFound fileName => "failed to find file " ++ fileName ++ " in manifest"
  | .downloadFailed url reason =>
    "failed to download installation package reliably, " ++ url ++
      (match reason with
        | some reason => ", " ++ reason
        | none => "")
  | .checksumMismatch fileName algorithm expected actual =>
    algorithm ++ " checksum mismatch for " ++ fileName ++ ": expected " ++ expected ++
      ", got " ++ actual
  | .reportSubmission reason => "failed to report results: " ++ reason
  | .backend package version reason =>
    "archive backend failed for " ++ package ++ " version " ++ version ++ ": " ++ reason
  | .environment reason => "failed to collect host data: " ++ reason
  | .invalidConfig reason => "invalid configuration: " ++ reason
  | .http reason => "HTTP error: " ++ reason
  | .timeout url seconds =>
    "request to " ++ url ++ " timed out after " ++ toString seconds ++ "s"

/-- The failure of the file system that caused this one, if one did. -/
def source? : Failure → Option IoFault
  | .readFailed _ source => some source
  | .writeFailed _ source => some source
  | .createDirFailed _ source => some source
  | _ => none

end Failure

/-- How an action ends, as a value; the surrounding action goes on either way. -/
def outcome {ε ε' α : Type} {m : Type → Type} [Monad m] (action : ExceptT ε m α) :
    ExceptT ε' m (Except ε α) :=
  ExceptT.lift action.run

end Courier
