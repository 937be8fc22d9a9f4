import Courier.Archive.Basic
import Courier.Report.Codec
import Courier.Web.Exchange
/-!
The control plane on the web. Below its endpoint lie the manifests of packages, the documents, and
the place that reports are posted to; a version other than the newest one is asked for in the query.
-/

namespace Courier

structure Endpoint where
  url : Url
  timeoutMillis : Nat
  deriving DecidableEq, Repr, Inhabited

namespace Endpoint

def parse (address : String) (timeoutMillis : Nat) : Except Failure Endpoint :=
  match Url.parse address with
  | .error fault =>
    .error (.invalidConfig ("endpoint '" ++ address ++ "': " ++ fault.message))
  | .ok url =>
    if url.isWeb ∧ url.isBase then .ok { url, timeoutMillis }
    else .error (.invalidConfig ("endpoint '" ++ url.text ++ "' is not an http(s) URL"))

def seconds (endpoint : Endpoint) : Nat :=
  endpoint.timeoutMillis / 1000

/-- The address of something below the endpoint, which there is none of where the endpoint has no
path to extend. -/
def address (endpoint : Endpoint) (names : List String) (version : String) :
    Except Failure Url :=
  if endpoint.url.isBase then
    let url := endpoint.url.below names
    .ok (if version.isEmpty ∨ version = latestVersion then url else url.withPair "version" version)
  else .error (.invalidConfig ("endpoint '" ++ endpoint.url.text ++ "' cannot be a base"))

def manifestUrl (endpoint : Endpoint) (name version : String) : Except Failure Url :=
  endpoint.address ["packages", name, "manifest"] version

def documentUrl (endpoint : Endpoint) (name version : String) : Except Failure Url :=
  endpoint.address ["documents", name] version

def resultsUrl (endpoint : Endpoint) : Except Failure Url :=
  endpoint.address ["results"] ""

def read {α : Type} (reader : Json.Reader α) (url : Url) (answer : Answer) : Except String α :=
  if isSuccessStatus answer.status then
    match Json.parse reader answer.body, answer.complete with
    | .ok value, true => .ok value
    | _, _ => .error ("invalid response from " ++ url.text ++ ": error decoding response body")
  else .error answer.complaint

variable {m : Type → Type} [Monad m] (endpoint : Endpoint) (network : Network m)

/-- Asks for JSON. Whatever goes wrong, the archive could not answer for the package. -/
def ask {α : Type} (reader : Json.Reader α) (url : Url) (name version : String) :
    ExceptT Failure m α := do
  match ← network.send { url, timeoutMillis := endpoint.timeoutMillis } with
  | .error fault =>
    throw (.backend name version (fault.failure url.text endpoint.seconds).message)
  | .ok answer =>
    match read reader url answer with
    | .ok value => return value
    | .error reason => throw (.backend name version reason)

def controlPlane : ControlPlane m where
  getManifest name version := do
    let url ← MonadExcept.ofExcept (endpoint.manifestUrl name version)
    endpoint.ask network ManifestResponse.reader url name version
  getDocument name version := do
    let url ← MonadExcept.ofExcept (endpoint.documentUrl name version)
    endpoint.ask network DocumentResponse.reader url name version

def submit (report : ResultReport) : ExceptT Failure m Unit := do
  let request : Request :=
    { method := .post
      url := ← MonadExcept.ofExcept endpoint.resultsUrl
      body := some report.toJson
      timeoutMillis := endpoint.timeoutMillis }
  match ← network.send request with
  | .error fault => throw (fault.failure request.url.text endpoint.seconds)
  | .ok answer =>
    if isSuccessStatus answer.status then return else throw (.http answer.complaint)

end Endpoint

end Courier
