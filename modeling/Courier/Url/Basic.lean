import Courier.Url.Host
/-!
Addresses of the web, in their normal form: all parts are held as they are written, with everything
encoded that has to be. `text` writes an address; the operations extend its path and its query.
-/

namespace Courier

inductive UrlPath where
  | text (text : String)
  | segments (segments : List String)
  deriving DecidableEq, Repr, Inhabited

structure Url where
  scheme : String
  username : String := ""
  password : String := ""
  host : Option Host := none
  /-- The port, unless it is the usual one of the scheme. -/
  port : Option Nat := none
  path : UrlPath := .segments []
  query : Option String := none
  fragment : Option String := none
  deriving DecidableEq, Repr, Inhabited

namespace Url

/-- The usual port of a scheme that knows about domains; `file` has none. -/
def usualPort? (scheme : String) : Option (Option Nat) :=
  match scheme with
  | "http" => some (some 80)
  | "https" => some (some 443)
  | "ws" => some (some 80)
  | "wss" => some (some 443)
  | "ftp" => some (some 21)
  | "file" => some none
  | _ => none

def isSpecialScheme (scheme : String) : Bool :=
  (usualPort? scheme).isSome

def isSpecial (url : Url) : Bool :=
  isSpecialScheme url.scheme

def isWeb (url : Url) : Bool :=
  url.scheme == "http" || url.scheme == "https"

/-- Whether the path is made of segments, so that more of them can be put below it. -/
def isBase (url : Url) : Bool :=
  match url.path with
  | .text _ => false
  | .segments _ => true

def hasHost (url : Url) : Bool :=
  match url.host with
  | none => false
  | some (.name text) => !text.isEmpty
  | some _ => true

def credentialsText (url : Url) : String :=
  if url.username.isEmpty ∧ url.password.isEmpty then ""
  else url.username ++ (if url.password.isEmpty then "" else ":" ++ url.password) ++ "@"

def pathText (url : Url) : String :=
  match url.path with
  | .text text => text
  | .segments segments => String.join (segments.map ("/" ++ ·))

/-- What stands between the scheme and the path. A path that begins with two slashes is set off
from the scheme when there is no host. -/
def authorityText (url : Url) : String :=
  match url.host with
  | some host =>
    "//" ++ url.credentialsText ++ host.text ++
      (match url.port with
        | some port => ":" ++ toString port
        | none => "")
  | none =>
    match url.path with
    | .segments ("" :: _ :: _) => "/."
    | _ => ""

def text (url : Url) : String :=
  url.scheme ++ ":" ++ url.authorityText ++ url.pathText ++
    (match url.query with
      | some query => "?" ++ query
      | none => "") ++
    (match url.fragment with
      | some fragment => "#" ++ fragment
      | none => "")

/-- A dot, also an encoded one, in front of a text. -/
def afterDot? : List Char → Option (List Char)
  | '.' :: rest => some rest
  | '%' :: '2' :: 'e' :: rest => some rest
  | '%' :: '2' :: 'E' :: rest => some rest
  | _ => none

def isHere (segment : List Char) : Bool :=
  afterDot? segment == some []

def isUp (segment : List Char) : Bool :=
  ((afterDot? segment).bind afterDot?) == some []

/-- Whether a segment names a drive, which is a letter and a colon. -/
def isDrive : List Char → Bool
  | [letter, ':'] => letter.isAlpha
  | _ => false

/-- Whether the way up ends at a segment: at a letter and a colon or a bar, also with a backslash
after them. -/
def isTop : List Char → Bool
  | letter :: mark :: rest =>
    letter.isAlpha && (mark == ':' || mark == '|') && rest.head?.all (· == '\\')
  | _ => false

def parentSegments (segments : List String) : List String :=
  if segments.getLast?.any (isTop ·.toList) then segments else segments.dropLast

/-- The path after one more segment. If it is `last`, a dot segment leaves an empty one behind. -/
def addSegment (last : Bool) (segments : List String) (segment : List Char) : List String :=
  let open? (segments : List String) := if last then segments ++ [""] else segments
  if isUp segment then open? (parentSegments segments)
  else if isHere segment then open? segments
  else segments ++ [String.ofList segment]

def isPassedOver (char : Char) : Bool :=
  char == '\t' || char == '\n' || char == '\r'

def segmentChars (scheme : String) (name : String) : List Char :=
  let kept := if isSpecialScheme scheme then Percent.inSpecialSegment else Percent.inSegment
  Percent.encodeChars kept (Utf8.encode (String.ofList (name.toList.filter (!isPassedOver ·))))

/-- The segments after the name of one more, which is skipped if it is a dot or two. A path that is
a single slash takes the name in its place. -/
def pushSegment (scheme : String) (segments : List String) (name : String) : List String :=
  if name = "." ∨ name = ".." then segments
  else
    addSegment true (if segments = [""] then [] else segments) (segmentChars scheme name)

def dropOpen (segments : List String) : List String :=
  if 1 < segments.length ∧ segments.getLast? = some "" then segments.dropLast else segments

def below (url : Url) (names : List String) : Url :=
  match url.path with
  | .text _ => url
  | .segments segments =>
    { url with path := .segments (names.foldl (pushSegment url.scheme) (dropOpen segments)) }

def withPair (url : Url) (name value : String) : Url :=
  let pair := Percent.formEncode name ++ "=" ++ Percent.formEncode value
  match url.query with
  | none => { url with query := some pair }
  | some query =>
    { url with query := some (if query.isEmpty then pair else query ++ "&" ++ pair) }

def withoutFragment (url : Url) : Url :=
  { url with fragment := none }

/-- The address without user and password. They stay if they are not text. -/
def withoutCredentials (url : Url) : Url :=
  let user? := Utf8.decode? (Percent.decode url.username.toList)
  let password? := if url.password.isEmpty then none
    else Utf8.decode? (Percent.decode url.password.toList)
  if user?.isSome ∧ (user? ≠ some "" ∨ password?.isSome) then
    { url with username := "", password := "" }
  else url

end Url

end Courier
