import Courier.Url.Basic
/-!
Reading an address. Spaces and controls at the ends of the text, and line breaks and tabs anywhere,
are passed over; a scheme and a colon begin the address, and the scheme decides how the rest is
read.
-/

namespace Courier.Url

def endsAuthority (special : Bool) (char : Char) : Bool :=
  char == '/' || char == '?' || char == '#' || (special && char == '\\')

def scheme? : List Char → Option (String × List Char)
  | [] => none
  | first :: rest =>
    let inScheme (char : Char) := char.isAlphanum || char == '+' || char == '-' || char == '.'
    let more := rest.takeWhile inScheme
    match rest.dropWhile inScheme with
    | ':' :: after =>
      if first.isAlpha then some (String.ofList ((first :: more).map Char.toLower), after)
      else none
    | _ => none

def withUserinfo (url : Url) (text : List Char) : Url :=
  let encode (part : List Char) := Percent.encode Percent.inUserinfo (String.ofList part)
  { url with
    username := encode (text.takeWhile (· != ':'))
    password := encode ((text.dropWhile (· != ':')).drop 1) }

/-- The text of a host and what follows it. A colon inside brackets does not end it. -/
def hostText : (inside : Bool) → List Char → List Char × List Char
  | _, [] => ([], [])
  | inside, char :: rest =>
    if char == ':' && !inside then ([], char :: rest)
    else
      let inside := if char == '[' then true else if char == ']' then false else inside
      let (host, after) := hostText inside rest
      (char :: host, after)

/-- The port that digits spell, unless it is the usual one; without digits there is none. -/
def parsePort (scheme : String) (digits : List Char) : Except UrlFault (Option Nat) :=
  if digits.isEmpty then .ok none
  else
    match Host.number? 10 digits with
    | none => .error .badPort
    | some port =>
      if 65535 < port then .error .badPort
      else if usualPort? scheme = some (some port) then .ok none
      else .ok (some port)

/-- Reads host and port. A backslash ends the port of every address. -/
def withHost (url : Url) (text : List Char) : Except UrlFault (Url × List Char) := do
  let (hostChars, after) := hostText false text
  if hostChars.isEmpty ∧ (url.isSpecial ∨ after.head? = some ':') then throw .emptyHost
  let host ← if url.isSpecial then Host.parse hostChars else Host.parseOpaque hostChars
  match after with
  | ':' :: rest =>
    let port ← parsePort url.scheme (rest.takeWhile (· != '\\'))
    return ({ url with host := some host, port }, rest.dropWhile (· != '\\'))
  | _ => return ({ url with host := some host }, after)

def unbroken (text : List Char) : List Char :=
  text.filter (!isPassedOver ·)

def pathChars (piece : List Char) : List Char :=
  Percent.encodeChars Percent.inPath (Utf8.encode (String.ofList (unbroken piece)))

def pathPieces (special : Bool) (text : List Char) : List (List Char) :=
  Text.pieces (fun char => char == '/' || (special && char == '\\')) text

/-- Adds the pieces of a path to what begins it. The last one is added as such. -/
def addPieces {α : Type} (add : (last : Bool) → α → List Char → α) (begun : α)
    (pieces : List (List Char)) : α :=
  pieces.getLast?.toList.foldl (add true) (pieces.dropLast.foldl (add false) begun)

def afterSlash (special : Bool) : List Char → List Char
  | [] => []
  | first :: rest => if first == '/' || (special && first == '\\') then rest else first :: rest

/-- The address with the path that a text spells. Where the scheme knows about domains, there is
always at least a slash. -/
def withPath (url : Url) (text : List Char) : Url :=
  if text.isEmpty then if url.isSpecial then { url with path := .segments [""] } else url
  else
    let add (last : Bool) (segments : List String) (piece : List Char) : List String :=
      addSegment last segments (pathChars piece)
    let pieces := pathPieces url.isSpecial (afterSlash url.isSpecial text)
    { url with path := .segments (addPieces add [] pieces) }

def splitPath (text : List Char) : List Char × List Char :=
  (text.takeWhile fun char => char != '?' && char != '#',
    text.dropWhile fun char => char != '?' && char != '#')

/-- The address with the query and the fragment of a text that begins with a question mark or a
hash, or is empty. -/
def withRest (url : Url) (text : List Char) : Url :=
  let withFragment (url : Url) (text : List Char) : Url :=
    match text with
    | [] => url
    | _ :: rest =>
      { url with fragment := some (Percent.encode Percent.inFragment (String.ofList rest)) }
  match text with
  | '?' :: rest =>
    let kept := if url.isSpecial then Percent.inSpecialQuery else Percent.inQuery
    let query := Percent.encode kept (String.ofList (rest.takeWhile (· != '#')))
    withFragment { url with query := some query } (rest.dropWhile (· != '#'))
  | _ => withFragment url text

def withAuthority (url : Url) (text : List Char) : Except UrlFault Url := do
  let authority := text.takeWhile fun char => !endsAuthority url.isSpecial char
  let following := text.dropWhile fun char => !endsAuthority url.isSpecial char
  let (named, hostPart) ← match Text.cutLast? (· == '@') authority with
    | none => pure (url, authority)
    | some (userinfo, hostPart) =>
      if userinfo.isEmpty ∧ hostPart.isEmpty ∧ !following.isEmpty then throw .emptyHost
      pure (url.withUserinfo userinfo, hostPart)
  let (located, after) ← named.withHost hostPart
  if !located.hasHost ∧ !located.credentialsText.isEmpty then throw .emptyHost
  let (path, rest) := splitPath (after ++ following)
  return (located.withPath path).withRest rest

structure FilePath where
  segments : List String := []
  hasDrive : Bool := false

/-- A drive at the beginning of a piece, if something that is passed over comes right after it, and
then more. -/
def brokenDrive? (piece : List Char) : Option (String × List Char) :=
  match piece.dropWhile isPassedOver with
  | [] => none
  | letter :: rest =>
    match rest.dropWhile isPassedOver with
    | ':' :: rest =>
      let more := unbroken rest
      if letter.isAlpha && rest.head?.any isPassedOver && !more.isEmpty then
        some (String.ofList [letter, ':'], more)
      else none
    | _ => none

/-- The path after one more piece. A broken drive at its beginning is a segment by itself, and what
follows it is another one, whatever it is. -/
def FilePath.add (last : Bool) (path : FilePath) (piece : List Char) : FilePath :=
  match if path.segments.isEmpty then brokenDrive? piece else none with
  | some (drive, more) => { path with segments := [drive, String.ofList (pathChars more)] }
  | none =>
    let segment := pathChars piece
    { segments := addSegment last path.segments segment
      hasDrive := path.hasDrive || (path.segments.isEmpty && isDrive segment) }

/-- The address with the path that a text spells, which does not begin with more than one slash. A
drive takes the place of the host. -/
def withFilePath (url : Url) (text : List Char) : Url :=
  let path := addPieces FilePath.add {} (pathPieces true (afterSlash true text))
  let segments := match path.segments.dropWhile String.isEmpty with
    | [] => [""]
    | named => named
  { url with
    path := .segments segments
    host := if path.hasDrive then some (.name "") else url.host }

/-- The text after a slash, which may have something that is passed over in front of it. -/
def afterSlash? (text : List Char) : Option (List Char) :=
  match text.dropWhile isPassedOver with
  | [] => none
  | first :: rest => if first == '/' || first == '\\' then some rest else none

def spellsDrive : List Char → Bool
  | [letter, mark] => letter.isAlpha && (mark == ':' || mark == '|')
  | _ => false

/-- A file address. Its host may be empty, and the local host is the empty one. -/
def parseFile (url : Url) (text : List Char) : Except UrlFault Url := do
  let finish (url : Url) (text : List Char) : Url :=
    let (path, rest) := splitPath text
    (url.withFilePath (path.dropWhile isPassedOver)).withRest (unbroken rest)
  let here := { url with host := some (.name "") }
  match (afterSlash? text).bind afterSlash? with
  | none => return finish here text
  | some rest =>
    let hostPart := unbroken (rest.takeWhile fun char => !endsAuthority true char)
    if hostPart.isEmpty ∨ spellsDrive hostPart then return finish here rest
    let host ← Host.parse hostPart
    let host := if host = .name "localhost" then .name "" else host
    return finish { url with host := some host }
      (rest.dropWhile fun char => !endsAuthority true char)

def parse (text : String) : Except UrlFault Url := do
  let outer (char : Char) := char.toNat ≤ 0x20
  let chars := Text.dropEnds outer text.toList
  match scheme? (unbroken chars) with
  | none => throw .relative
  | some (scheme, rest) =>
    let url : Url := { scheme }
    if scheme = "file" then url.parseFile ((chars.dropWhile (· != ':')).drop 1)
    else if url.isSpecial then
      url.withAuthority (rest.dropWhile fun char => char == '/' || char == '\\')
    else
      match rest with
      | '/' :: '/' :: rest => url.withAuthority rest
      | '/' :: _ =>
        let (path, rest) := splitPath rest
        return (url.withPath path).withRest rest
      | _ =>
        let (path, rest) := splitPath rest
        let text := Percent.encode Percent.inOpaque (String.ofList path)
        return { url with path := .text text }.withRest rest

end Courier.Url
