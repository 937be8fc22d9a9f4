import Courier.Text.Cut
import Courier.Text.LetterCase
import Courier.Web.Exchange
/-!
Requests and replies as they go over a connection: lines of text, a blank line, and a body. Every
request asks for the connection to be closed, so that a reply ends with the connection unless it
says before where it ends.
-/

namespace Courier

namespace Message

def chars (bytes : Bytes) : List Char :=
  bytes.map fun byte => Char.ofNat byte.toNat

def bytes (chars : List Char) : Bytes :=
  chars.map fun char => UInt8.ofNat char.toNat

def lineEnd : List Char := ['\r', '\n']

/-- The host and, unless it is the usual one, the port. -/
def hostText (url : Url) : String :=
  match url.host, url.port with
  | some host, some port => host.text ++ ":" ++ toString port
  | some host, none => host.text
  | none, _ => ""

def target (url : Url) : String :=
  (if url.pathText.isEmpty then "/" else url.pathText) ++
    (match url.query with
      | some query => "?" ++ query
      | none => "")

def head (request : Request) (body : Bytes) : List String :=
  [request.method.name ++ " " ++ target request.url ++ " HTTP/1.1",
    "host: " ++ hostText request.url, "accept: */*", "connection: close"] ++
  (if request.body.isSome then
    ["content-type: application/json", "content-length: " ++ toString body.length]
  else [])

def write (request : Request) : Bytes :=
  let body := (request.body.map fun json => Utf8.encode json.compact).getD []
  Utf8.encode (String.join ((head request body).map (· ++ "\r\n")) ++ "\r\n") ++ body

/-- The size of a chunk, which stands in hexadecimal digits in a line of its own, and what follows
the line. -/
def chunkSize? (text : List Char) : Option (Nat × List Char) := do
  let (line, rest) ← Text.cut? lineEnd text
  let digits := line.takeWhile Char.isAlphanum
  if digits.isEmpty then none else return (← Host.number? 16 digits, rest)

/-- A body of at most so many chunks, and whether the empty chunk that ends it has arrived. A line
end follows each chunk. -/
def readChunks : Nat → List Char → List Char × Bool
  | 0, _ => ([], false)
  | limit + 1, text =>
    match chunkSize? text with
    | none => ([], false)
    | some (0, _) => ([], true)
    | some (size, rest) =>
      let (more, complete) := readChunks limit (rest.drop (size + lineEnd.length))
      (rest.take size ++ more, complete)

def headLines (head : List Char) : List String :=
  Text.lines (String.ofList head)

def status? (line : String) : Option Nat :=
  match Text.pieces (· == ' ') line.toList with
  | _ :: code :: _ => (String.ofList code).toNat?
  | _ => none

/-- The value of a field of a head. The case of its name does not matter. -/
def field? (lines : List String) (name : String) : Option String :=
  lines.findSome? fun line =>
    match Text.cut? [':'] line.toList with
    | some (found, value) =>
      if Text.lowerAscii (String.ofList found) = name then
        some (Text.trim (String.ofList value))
      else none
    | none => none

def body (fields : List String) (rest : List Char) : List Char × Bool :=
  if (field? fields "transfer-encoding").map Text.lowerAscii = some "chunked" then
    readChunks (rest.length + 1) rest
  else
    match (field? fields "content-length").bind String.toNat? with
    | some size => (rest.take size, size ≤ rest.length)
    | none => (rest, true)

/-- The reply in what arrived on a connection, after at most so many replies that only announce
another one. -/
def readReply? : Nat → List Char → Option Reply
  | 0, _ => none
  | limit + 1, text => do
    let (head, rest) ← Text.cut? (lineEnd ++ lineEnd) text
    match headLines head with
    | first :: fields =>
      let status ← status? first
      if 100 ≤ status ∧ status < 200 then readReply? limit rest
      else if status = 204 ∨ status = 304 then return .answered status [] true
      else
        let (content, complete) := body fields rest
        return .answered status (bytes content) complete
    | [] => none

def read (arrived : Bytes) : Reply :=
  let text := chars arrived
  (readReply? (text.length + 1) text).getD .unreachable

end Message

end Courier
