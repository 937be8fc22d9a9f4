import Courier.Proofs.Digest.Checksum
import Courier.Proofs.Files.Access
import Courier.Proofs.Files.Nodes
import Courier.Web.Download
/-!
Downloads on a computer. A download asks the peer at most once; what a success leaves at the
destination is the body of the reply to that request, and it has every listed digest whose algorithm
is known. Main statements: every download is one of the ways of `Downloader.Downloads`, an accepted
one is sound, and a rejected one leaves no file.
-/

namespace Courier

open Computer

def fileRequest (url : Url) (timeoutMillis : Nat) : Request :=
  Request.asSent { url, timeoutMillis }

@[simp] theorem stepFrom_exchange (peer : Peer) (request : Request) (computer : Computer) :
    stepFrom (exchange peer request) computer =
      (peer (computer.requests ++ [request]),
        { computer with requests := computer.requests ++ [request] }) := rfl

theorem stepFrom_send_eq_ok {peer : Peer} {request : Request} {computer left : Computer}
    {answer : Answer}
    (answered : stepFrom (Network.send (exchange peer) request) computer = (.ok answer, left)) :
    left = { computer with requests := computer.requests ++ [request.asSent] } ∧
      peer (computer.requests ++ [request.asSent]) =
        .answered answer.status answer.body answer.complete := by
  unfold Network.send at answered
  dsimp only at answered
  split at answered
  · cases answered
  · rw [stepFrom_bind, stepFrom_exchange] at answered
    cases reply : peer (computer.requests ++ [request.asSent]) with
    | unreachable =>
        rw [reply] at answered
        cases answered
    | timedOut =>
        rw [reply] at answered
        cases answered
    | answered status body complete =>
        rw [reply] at answered
        cases answered
        exact ⟨rfl, rfl⟩

theorem stepFrom_fetch_eq_ok {peer : Peer} {address : String} {timeoutMillis : Nat}
    {computer left : Computer} {answer : Answer}
    (answered : stepFrom (Network.fetch (exchange peer) address timeoutMillis) computer =
      (.ok answer, left)) :
    ∃ url, Url.parse address = .ok url ∧
      left = { computer with requests := computer.requests ++ [fileRequest url timeoutMillis] } ∧
      peer (computer.requests ++ [fileRequest url timeoutMillis]) =
        .answered answer.status answer.body answer.complete := by
  unfold Network.fetch at answered
  cases spelled : Url.parse address with
  | error fault =>
      rw [spelled] at answered
      cases answered
  | ok url =>
      rw [spelled] at answered
      exact ⟨url, rfl, stepFrom_send_eq_ok answered⟩

theorem runFrom_orFail {α : Type} (failure : IoFault → Failure) (action : FileAction Machine α)
    (computer : Computer) :
    runFrom (Downloader.orFail failure action) computer =
      ((runFrom action computer).1.mapError failure, (runFrom action computer).2) := by
  unfold Downloader.orFail
  rw [runFrom_bind, runFrom_outcome]
  rcases runFrom action computer with ⟨ending, left⟩
  cases ending with
  | ok value => rfl
  | error fault => rfl

theorem runFrom_orFail_of_ok {α : Type} {failure : IoFault → Failure}
    {action : FileAction Machine α} {computer left : Computer} {value : α}
    (acted : runFrom action computer = (.ok value, left)) :
    runFrom (Downloader.orFail failure action) computer = (.ok value, left) := by
  rw [runFrom_orFail, acted]
  rfl

def Downloader.fill (target : Path) (answer : Answer) : ExceptT Failure Machine Unit := do
  orFail (.writeFailed target) ((FileSystem.access : FileAccess Machine).create target)
  orFail (.writeFailed target) ((FileSystem.access : FileAccess Machine).append target answer.body)
  if !answer.complete then throw (.http "Read error: request or response body error")

theorem read_of_fill {target : Path} {answer : Answer} {computer left : Computer}
    (stored : runFrom (Downloader.fill target answer) computer = (.ok (), left)) :
    answer.complete = true ∧ left.files.read target = .ok answer.body := by
  unfold Downloader.fill at stored
  rw [runFrom_bind] at stored
  cases created : computer.files.create target with
  | error fault =>
      rw [runFrom_orFail, FileSystem.runFrom_create, created] at stored
      cases stored
  | ok opened =>
      obtain ⟨filled, appended, reads⟩ :=
        FileSystem.append_read_of_create created answer.body
      have opens : runFrom ((FileSystem.access : FileAccess Machine).create target) computer =
          (.ok (), { computer with files := opened }) := by
        rw [FileSystem.runFrom_create, created]
        rfl
      have fills : runFrom ((FileSystem.access : FileAccess Machine).append target answer.body)
          { computer with files := opened } = (.ok (), { computer with files := filled }) := by
        rw [FileSystem.runFrom_append, appended]
        rfl
      rw [runFrom_orFail_of_ok opens] at stored
      dsimp only at stored
      rw [runFrom_bind, runFrom_orFail_of_ok fills] at stored
      dsimp only at stored
      cases whole : answer.complete with
      | false =>
          rw [whole] at stored
          cases stored
      | true =>
          rw [whole] at stored
          cases stored
          exact ⟨rfl, reads⟩

theorem read_of_store {target : Path} {answer : Answer} {computer left : Computer}
    (stored : runFrom (Downloader.store FileSystem.access target answer) computer =
      (.ok (), left)) :
    answer.complete = true ∧ left.files.read target = .ok answer.body := by
  unfold Downloader.store at stored
  cases upper : target.parent? with
  | none =>
      rw [upper] at stored
      exact read_of_fill stored
  | some parent =>
      rw [upper] at stored
      change runFrom (Downloader.orFail _ _ >>= _) computer = _ at stored
      rw [runFrom_bind] at stored
      rcases made : runFrom (Downloader.orFail (.createDirFailed parent)
        ((FileSystem.access : FileAccess Machine).makeDirectories parent)) computer with
        ⟨ending, ready⟩
      rw [made] at stored
      cases ending with
      | error failure => cases stored
      | ok done => exact read_of_fill stored

/-- Why a reply is not stored: it has nothing to do with digests. -/
def IsStoreFailure : Failure → Prop
  | .createDirFailed .. => True
  | .writeFailed .. => True
  | .http .. => True
  | _ => False

private theorem cause_of_orFail_bind {α β : Type} {failure : IoFault → Failure}
    {action : FileAction Machine α} {next : α → ExceptT Failure Machine β}
    {computer left : Computer} {cause : Failure}
    (fails : runFrom (Downloader.orFail failure action >>= next) computer =
      (.error cause, left)) :
    (∃ fault, cause = failure fault) ∨
      ∃ value reached, runFrom (next value) reached = (.error cause, left) := by
  rw [runFrom_bind, runFrom_orFail] at fails
  rcases acted : runFrom action computer with ⟨ending, reached⟩
  rw [acted] at fails
  cases ending with
  | error fault =>
      cases fails
      exact .inl ⟨fault, rfl⟩
  | ok value => exact .inr ⟨value, reached, fails⟩

theorem isStoreFailure_of_fill {target : Path} {answer : Answer}
    {computer left : Computer} {cause : Failure}
    (stored : runFrom (Downloader.fill target answer) computer = (.error cause, left)) :
    IsStoreFailure cause := by
  unfold Downloader.fill at stored
  rcases cause_of_orFail_bind stored with ⟨fault, same⟩ | ⟨-, opened, stored⟩
  · subst same
    trivial
  · rcases cause_of_orFail_bind stored with ⟨fault, same⟩ | ⟨-, filled, stored⟩
    · subst same
      trivial
    · cases whole : answer.complete with
      | false =>
          rw [whole] at stored
          cases stored
          trivial
      | true =>
          rw [whole] at stored
          cases stored

theorem isStoreFailure_of_store {target : Path} {answer : Answer} {computer left : Computer}
    {cause : Failure}
    (stored : runFrom (Downloader.store FileSystem.access target answer) computer =
      (.error cause, left)) :
    IsStoreFailure cause := by
  unfold Downloader.store at stored
  cases upper : target.parent? with
  | none =>
      rw [upper] at stored
      exact isStoreFailure_of_fill stored
  | some parent =>
      rw [upper] at stored
      dsimp only at stored
      rcases cause_of_orFail_bind stored with ⟨fault, same⟩ | ⟨-, ready, stored⟩
      · subst same
        trivial
      · exact isStoreFailure_of_fill stored

theorem runFrom_verifyChecksums {path : Path} {content : Bytes} {computer : Computer}
    (held : computer.files.read path = .ok content) (checksums : Table String) :
    (runFrom ((FileSystem.access : FileAccess Machine).verifyChecksums path checksums)
        computer).2 = computer ∧
      ∀ count, (runFrom ((FileSystem.access : FileAccess Machine).verifyChecksums path checksums)
          computer).1 = .ok count → HasDigests content checksums := by
  have reads : runFrom ((FileSystem.access : FileAccess Machine).read path) computer =
      (.ok content, computer) := by
    rw [FileSystem.runFrom_read, held]
  obtain ⟨verdict, checks, verdictOf⟩ := runFrom_verifyList reads checksums.toList
  change (runFrom (FileAccess.verifyList _ path checksums.toList) computer).2 = computer ∧
    ∀ count, (runFrom (FileAccess.verifyList _ path checksums.toList) computer).1 = .ok count → _
  rw [checks]
  refine ⟨rfl, ?_⟩
  intro count passed
  exact verdictOf.hasDigests passed

namespace Downloader

variable (downloader : Downloader) (peer : Peer) (request : DownloadRequest)

def target : Path :=
  destination downloader.directory request.sourceUrl

/-- The ways a download can go. -/
inductive Downloads (start : Computer) : Except Failure Path → Computer → Prop
  | unanswered {fault : SendFault} {left : Computer}
      (asked : stepFrom (Network.fetch (exchange peer) request.sourceUrl downloader.timeoutMillis)
        start = (.error fault, left)) :
      Downloads start (.error (fault.failure request.sourceUrl downloader.seconds)) left
  | refused {answer : Answer} {left : Computer}
      (asked : stepFrom (Network.fetch (exchange peer) request.sourceUrl downloader.timeoutMillis)
        start = (.ok answer, left))
      (status : isSuccessStatus answer.status = false) :
      Downloads start (.error (.http ("HTTP " ++ statusText answer.status ++ " from " ++
        request.sourceUrl))) left
  | unstored {answer : Answer} {cause : Failure} {answered left : Computer}
      (asked : stepFrom (Network.fetch (exchange peer) request.sourceUrl downloader.timeoutMillis)
        start = (.ok answer, answered))
      (status : isSuccessStatus answer.status = true)
      (stored : runFrom (store FileSystem.access (downloader.target request) answer) answered =
        (.error cause, left)) :
      Downloads start (.error cause) left
  | rejected {answer : Answer} {cause : Failure} {answered written : Computer}
      (asked : stepFrom (Network.fetch (exchange peer) request.sourceUrl downloader.timeoutMillis)
        start = (.ok answer, answered))
      (status : isSuccessStatus answer.status = true)
      (stored : runFrom (store FileSystem.access (downloader.target request) answer) answered =
        (.ok (), written))
      (checked : runFrom ((FileSystem.access : FileAccess Machine).verifyChecksums
        (downloader.target request) request.checksums) written = (.error cause, written)) :
      Downloads start (.error cause) (runFrom ((FileSystem.access : FileAccess Machine).remove
        (downloader.target request)) written).2
  | accepted {answer : Answer} {count : Nat} {answered left : Computer}
      (asked : stepFrom (Network.fetch (exchange peer) request.sourceUrl downloader.timeoutMillis)
        start = (.ok answer, answered))
      (status : isSuccessStatus answer.status = true)
      (stored : runFrom (store FileSystem.access (downloader.target request) answer) answered =
        (.ok (), left))
      (checked : runFrom ((FileSystem.access : FileAccess Machine).verifyChecksums
        (downloader.target request) request.checksums) left = (.ok count, left)) :
      Downloads start (.ok (downloader.target request)) left

theorem download_downloads (start : Computer) :
    downloader.Downloads peer request start
      (runFrom (downloader.download FileSystem.access (exchange peer) request) start).1
      (runFrom (downloader.download FileSystem.access (exchange peer) request) start).2 := by
  have placed : destination downloader.directory request.sourceUrl =
    downloader.target request := rfl
  unfold download
  dsimp only
  rw [placed, runFrom_bind, runFrom_monadLift]
  rcases asked : stepFrom (Network.fetch (exchange peer) request.sourceUrl
    downloader.timeoutMillis) start with ⟨reply, answered⟩
  cases reply with
  | error fault => exact .unanswered asked
  | ok answer =>
      cases status : isSuccessStatus answer.status with
      | false =>
          simp only [status, Bool.not_false, if_true]
          exact .refused asked status
      | true =>
          simp only [status, Bool.not_true, Bool.false_eq_true, if_false]
          rw [runFrom_bind]
          rcases stored : runFrom (store FileSystem.access (downloader.target request) answer)
            answered with ⟨ending, written⟩
          cases ending with
          | error cause => exact .unstored asked status stored
          | ok done =>
              obtain ⟨whole, held⟩ := read_of_store stored
              obtain ⟨unchanged, passes⟩ := runFrom_verifyChecksums held request.checksums
              dsimp only
              rw [runFrom_bind, runFrom_outcome]
              rcases checked : runFrom ((FileSystem.access : FileAccess Machine).verifyChecksums
                (downloader.target request) request.checksums) written with ⟨verdict, left⟩
              rw [checked] at unchanged
              have same : written = left := unchanged.symm
              subst same
              cases verdict with
              | ok count => exact .accepted asked status stored checked
              | error cause =>
                  dsimp only
                  rw [runFrom_bind, runFrom_outcome]
                  dsimp only
                  rw [runFrom_throw]
                  dsimp only
                  exact .rejected asked status stored checked

variable {downloader peer request}

/-- What a body is that a peer delivered for an address: the body of a complete reply that reports
success, to the request for what the address spells. -/
def Delivered (peer : Peer) (computer : Computer) (address : String) (timeoutMillis : Nat)
    (body : Bytes) : Prop :=
  ∃ url status, Url.parse address = .ok url ∧ isSuccessStatus status = true ∧
    peer (computer.requests ++ [fileRequest url timeoutMillis]) = .answered status body true

/-- An accepted download holds what was delivered, and has the digests it must have. -/
theorem Downloads.accepted_sound {start left : Computer} {path : Path}
    (ends : downloader.Downloads peer request start (.ok path) left) :
    path = downloader.target request ∧
      ∃ body, Delivered peer start request.sourceUrl downloader.timeoutMillis body ∧
        left.files.read path = .ok body ∧ HasDigests body request.checksums := by
  cases ends with
  | @accepted answer count _ _ asked status stored checked =>
      obtain ⟨whole, held⟩ := read_of_store stored
      obtain ⟨url, spelled, -, replied⟩ := stepFrom_fetch_eq_ok asked
      obtain ⟨-, passes⟩ := runFrom_verifyChecksums held request.checksums
      rw [checked] at passes
      rw [whole] at replied
      exact ⟨rfl, answer.body, ⟨url, answer.status, spelled, status, replied⟩, held,
        passes count rfl⟩

theorem Downloads.mismatch_removed {start left : Computer}
    {fileName algorithm expected actual : String}
    (ends : downloader.Downloads peer request start
      (.error (.checksumMismatch fileName algorithm expected actual)) left) :
    left.files.read (downloader.target request) = .error .noEntry := by
  -- No failure but that of the check is a mismatch.
  generalize mismatch : Failure.checksumMismatch fileName algorithm expected actual = cause at ends
  cases ends with
  | @unanswered fault _ asked =>
      cases fault with
      | unusable url => cases url <;> cases mismatch
      | failed url => cases mismatch
      | timedOut => cases mismatch
  | refused asked status => cases mismatch
  | unstored asked status stored =>
      have other := isStoreFailure_of_store stored
      rw [← mismatch] at other
      exact other.elim
  | rejected asked status stored checked =>
      obtain ⟨-, held⟩ := read_of_store stored
      obtain ⟨removed, removes, gone⟩ := FileSystem.read_of_remove held
      rw [FileSystem.runFrom_remove, removes]
      exact gone

end Downloader

end Courier
