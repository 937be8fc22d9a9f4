import Courier.Proofs.Service.Failures
import Courier.Proofs.Web.Download
/-!
Submissions on a computer. Whether a request is sent depends on its address alone; one that is sent
reaches the peer as one request. Main statement: a report is posted below the endpoint, once, or it
is refused for its address and nothing is sent.
-/

namespace Courier

open Computer

namespace Url

theorem isWeb_below (url : Url) (names : List String) : (url.below names).isWeb = url.isWeb := by
  unfold below
  split
  · rfl
  · rfl

theorem isWeb_withoutCredentials (url : Url) : url.withoutCredentials.isWeb = url.isWeb := by
  have stripped : ∀ (known : Prop) [Decidable known],
      (if known then { url with username := "", password := "" } else url).isWeb = url.isWeb := by
    intro known _
    split
    · rfl
    · rfl
  exact stripped _

end Url

/-- What a web address must be like for a request to be sent to it: no character of the host's name
is refused, and the address is not too long. -/
def Request.Sendable (request : Request) : Prop :=
  request.url.withoutCredentials.host.all Host.isSendable = true ∧
    request.asSent.url.text.utf8ByteSize ≤ requestLimit

instance (request : Request) : Decidable request.Sendable :=
  inferInstanceAs (Decidable (_ ∧ _))

section Send

variable {peer : Peer} {request : Request}

theorem send_of_not_sendable (refused : ¬ request.Sendable) (computer : Computer) :
    stepFrom (Network.send (exchange peer) request) computer =
      (.error (.unusable (some request.url.withoutCredentials)), computer) := by
  have unusable : (!request.url.withoutCredentials.isWeb) = true ∨
      (!request.url.withoutCredentials.host.all Host.isSendable) = true ∨
      requestLimit < request.asSent.url.text.utf8ByteSize := by
    by_contra usable
    apply refused
    obtain ⟨-, host, short⟩ : _ ∧ _ ∧ _ := by simpa only [not_or] using usable
    exact ⟨by simpa using host, Nat.not_lt.mp short⟩
  unfold Network.send
  dsimp only
  rw [if_pos unusable]
  rfl

theorem requests_send_of_sendable (web : request.url.isWeb = true) (sendable : request.Sendable)
    (computer : Computer) :
    (stepFrom (Network.send (exchange peer) request) computer).2 =
      { computer with requests := computer.requests ++ [request.asSent] } := by
  have usable : ¬ ((!request.url.withoutCredentials.isWeb) = true ∨
      (!request.url.withoutCredentials.host.all Host.isSendable) = true ∨
      requestLimit < request.asSent.url.text.utf8ByteSize) := by
    rw [request.url.isWeb_withoutCredentials, web, sendable.1]
    simpa using sendable.2
  unfold Network.send
  dsimp only
  rw [if_neg usable, stepFrom_bind, stepFrom_exchange]
  dsimp only
  split
  · rfl
  · rfl
  · rfl

end Send

namespace Endpoint

variable (endpoint : Endpoint)

def reportRequest (report : ResultReport) : Request :=
  { method := .post
    url := endpoint.url.below ["results"]
    body := some report.toJson
    timeoutMillis := endpoint.timeoutMillis }

variable {endpoint}

theorem resultsUrl_of_isBase (base : endpoint.url.isBase = true) :
    endpoint.resultsUrl = .ok (endpoint.url.below ["results"]) := by
  unfold resultsUrl address
  rw [if_pos base]
  rfl

theorem isWeb_of_parse {address : String} {millis : Nat}
    (accepted : parse address millis = .ok endpoint) : endpoint.url.isWeb = true :=
  (usable_of_parse accepted).2.1

/-- How a report is posted: once, or not at all for its address. -/
theorem runFrom_submit {address : String} {millis : Nat}
    (accepted : parse address millis = .ok endpoint) (peer : Peer) (report : ResultReport)
    (computer : Computer) :
    let request := endpoint.reportRequest report
    let submitted := runFrom (endpoint.submit (exchange peer) report) computer
    if request.Sendable then
      submitted.2 = { computer with requests := computer.requests ++ [request.asSent] }
    else
      submitted = (.error ((SendFault.unusable (some request.url.withoutCredentials)).failure
        request.url.text endpoint.seconds), computer) := by
  have addressed : runFrom (MonadExcept.ofExcept endpoint.resultsUrl :
      ExceptT Failure Machine Url) computer = (.ok (endpoint.url.below ["results"]), computer) := by
    rw [runFrom_ofExcept, resultsUrl_of_isBase (isBase_of_parse accepted)]
  intro request
  have same : ({ method := .post, url := endpoint.url.below ["results"]
                 body := some report.toJson, timeoutMillis := endpoint.timeoutMillis } : Request) =
      request := rfl
  unfold submit
  rw [runFrom_bind_ok addressed]
  dsimp only
  rw [runFrom_bind, runFrom_monadLift, same]
  split
  case isTrue sendable =>
    have web : request.url.isWeb = true :=
      (endpoint.url.isWeb_below ["results"]).trans (isWeb_of_parse accepted)
    have sent := @requests_send_of_sendable peer request web sendable computer
    rw [← sent]
    rcases stepFrom (Network.send (exchange peer) request) computer with ⟨answer, left⟩
    cases answer with
    | error fault => rfl
    | ok answer =>
        dsimp only
        split
        · rfl
        · rfl
  case isFalse refused =>
    rw [send_of_not_sendable refused]
    rfl

end Endpoint

end Courier
