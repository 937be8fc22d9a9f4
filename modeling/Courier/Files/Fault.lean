/-!
Why an operation on files fails, as causes, with the system's wording of each.
-/

namespace Courier

/-- The kinds of failure that are told apart when the wording is given by someone else. -/
inductive IoKind where
  | notFound
  | permissionDenied
  | alreadyExists
  | other
  deriving DecidableEq, Repr, Inhabited

inductive IoFault where
  | noEntry
  | entryExists
  | notDirectory
  | isDirectory
  | nameTooLong
  /-- The path holds a NUL character, which no system call can pass on. -/
  | nulInPath
  /-- The content of a file was asked for as text and is none. -/
  | notText
  /-- A directory without a parent could not be made. -/
  | noRootToStartFrom
  /-- A failure that something outside reported in its own words. -/
  | reported (kind : IoKind) (message : String)
  deriving DecidableEq, Repr, Inhabited

def IoKind.message : IoKind → String
  | .notFound => "entity not found"
  | .permissionDenied => "permission denied"
  | .alreadyExists => "entity already exists"
  | .other => "other error"

namespace IoFault

def message : IoFault → String
  | .noEntry => "No such file or directory (os error 2)"
  | .entryExists => "File exists (os error 17)"
  | .notDirectory => "Not a directory (os error 20)"
  | .isDirectory => "Is a directory (os error 21)"
  | .nameTooLong => "File name too long (os error 36)"
  | .nulInPath => "file name contained an unexpected NUL byte"
  | .notText => "stream did not contain valid UTF-8"
  | .noRootToStartFrom => "failed to create whole tree"
  | .reported _ message => message

def isNotFound : IoFault → Bool
  | .noEntry => true
  | .reported .notFound _ => true
  | _ => false

end IoFault

end Courier
