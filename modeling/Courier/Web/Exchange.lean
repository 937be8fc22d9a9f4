import Courier.Failure
import Courier.Json.Basic
import Courier.Url.Parse
import Courier.Web.Status
/-!
Requests over the web and their replies. A network is any function from requests to replies in a
monad, and asking it is one call of an HTTP client; what can be wrong with an address is found
before the network is asked.
-/

namespace Courier

inductive Method where
  | get
  | post
  deriving DecidableEq, Repr, Inhabited

def Method.name : Method → String
  | .get => "GET"
  | .post => "POST"

/-- A request. Its body, if it has one, is JSON. -/
structure Request where
  method : Method := .get
  url : Url
  body : Option Json := none
  timeoutMillis : Nat
  deriving Inhabited

/-- What one call of the client finally returns. A client may follow redirects within the call; that
of `Courier.Main` hands on the redirect itself. -/
inductive Reply where
  /-- No connection, or one that was closed without a reply. -/
  | unreachable
  | timedOut
  /-- A reply, whose body may have been cut short. -/
  | answered (status : Nat) (body : Bytes) (complete : Bool)
  deriving DecidableEq, Repr, Inhabited

/-- One call of the client for each request. -/
abbrev Network (m : Type → Type) := Request → m Reply

structure Answer where
  url : Url
  status : Nat
  body : Bytes
  complete : Bool
  deriving Inhabited

inductive SendFault where
  /-- The address is none, or none that can be asked over the web. -/
  | unusable (url : Option Url)
  | failed (url : Url)
  | timedOut
  deriving DecidableEq, Repr, Inhabited

namespace SendFault

/-- The wording of a fault for a request that was asked for at `address`, with the number of seconds
it was given. -/
def failure (address : String) (seconds : Nat) : SendFault → Failure
  | .unusable none => .http "Request failed: builder error"
  | .unusable (some url) => .http ("Request failed: builder error for url (" ++ url.text ++ ")")
  | .failed url => .http ("Request failed: error sending request for url (" ++ url.text ++ ")")
  | .timedOut => .timeout address seconds

end SendFault

def requestLimit : Nat := 65534

/-- Characters that the name of a host may hold, but no request can be addressed to. -/
def unsendableChars : List Char := "\"`\x7b\x7d".toList

def Host.isSendable : Host → Bool
  | .name text => !text.toList.any unsendableChars.contains
  | _ => true

variable {m : Type → Type} [Monad m]

/-- The request without what is for the sender alone: fragment, user and password. -/
def Request.asSent (request : Request) : Request :=
  { request with url := request.url.withoutCredentials.withoutFragment }

def Network.send (network : Network m) (request : Request) : m (Except SendFault Answer) := do
  let url := request.url.withoutCredentials
  if !url.isWeb ∨ !url.host.all Host.isSendable ∨
      requestLimit < request.asSent.url.text.utf8ByteSize then
    return .error (.unusable (some url))
  match ← network request.asSent with
  | .unreachable => return .error (.failed url)
  | .timedOut => return .error .timedOut
  | .answered status body complete => return .ok { url, status, body, complete }

def Network.fetch (network : Network m) (address : String) (timeoutMillis : Nat) :
    m (Except SendFault Answer) := do
  match Url.parse address with
  | .ok url => network.send { url, timeoutMillis }
  | .error _ => return .error (.unusable none)

/-- What an answer that reports no success says. A body that was cut short is not shown. -/
def Answer.complaint (answer : Answer) : String :=
  let said := if answer.complete then Text.trim (Utf8.decodeLossy answer.body) else ""
  "HTTP " ++ statusText answer.status ++ " from " ++ answer.url.text ++
    (if said.isEmpty then "" else ": " ++ said)

end Courier
