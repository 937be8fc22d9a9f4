import Courier.Computer
import Courier.Proofs.Lockstep
import Courier.Proofs.Service.Course
import Courier.Proofs.Service.Reporting
/-!
Which failures a service hands on. Its parts may fail for any cause; what they report is passed on,
put into other words, or dropped. Main statement: a service over a control plane at an accepted
endpoint fails only in the ways that its operations are meant to fail, blames the archive only for
the package that was asked for, and never hands on why its cache could not be read.
-/

namespace Courier

variable {σ ε α β : Type}

namespace Failure

/-- The ways in which the download of a manifest fails. -/
inductive OfManifest (name version : String) : Failure → Prop
  | backend (reason : String) : OfManifest name version (.backend name version reason)
  | decode (reason : String) : OfManifest name version (.decode reason)
  | cacheWrite (resource key reason : String) :
      OfManifest name version (.cacheWrite resource key reason)

/-- The ways in which the download of an artifact fails. -/
inductive OfArtifact (name version : String) : Failure → Prop
  | manifest {failure : Failure} (unsupplied : OfManifest name version failure) :
      OfArtifact name version failure
  | environment (reason : String) : OfArtifact name version (.environment reason)
  | noMatch (platform platformVersion architecture : String) (level : SelectorLevel) :
      OfArtifact name version (.noMatch platform platformVersion architecture level)
  | fileNotFound (fileName : String) : OfArtifact name version (.fileNotFound fileName)
  | downloadFailed (url : String) (reason : Option String) :
      OfArtifact name version (.downloadFailed url reason)

/-- The ways in which no file is selected for a host. -/
inductive OfSelection : Failure → Prop
  | environment (reason : String) : OfSelection (.environment reason)
  | noMatch (platform platformVersion architecture : String) (level : SelectorLevel) :
      OfSelection (.noMatch platform platformVersion architecture level)
  | fileNotFound (fileName : String) : OfSelection (.fileNotFound fileName)

inductive OfReport : Failure → Prop
  | reportSubmission (reason : String) : OfReport (.reportSubmission reason)

/-- What only the parts of a service report, to the service. -/
def StaysInside : Failure → Prop
  | .readFailed .. | .writeFailed .. | .createDirFailed .. | .cacheMiss .. | .checksumMismatch ..
  | .invalidConfig .. | .http .. | .timeout .. => True
  | _ => False

variable {name version : String} {failure : Failure}

theorem OfSelection.ofArtifact (expected : OfSelection failure) (name version : String) :
    OfArtifact name version failure := by
  cases expected with
  | environment reason => exact .environment reason
  | noMatch platform platformVersion architecture level =>
      exact .noMatch platform platformVersion architecture level
  | fileNotFound fileName => exact .fileNotFound fileName

theorem OfManifest.not_staysInside (expected : OfManifest name version failure) :
    ¬ failure.StaysInside := by
  cases expected with
  | backend reason => exact id
  | decode reason => exact id
  | cacheWrite resource key reason => exact id

theorem OfArtifact.not_staysInside (expected : OfArtifact name version failure) :
    ¬ failure.StaysInside := by
  cases expected with
  | manifest unsupplied => exact unsupplied.not_staysInside
  | environment reason => exact id
  | noMatch platform platformVersion architecture level => exact id
  | fileNotFound fileName => exact id
  | downloadFailed url reason => exact id

theorem OfReport.not_staysInside (expected : OfReport failure) : ¬ failure.StaysInside := by
  cases expected with
  | reportSubmission reason => exact id

end Failure

/-- Whenever the action fails, its failure is an expected one. -/
def FailsWith (expected : ε → Prop) (action : ExceptT ε (StateM σ) α) : Prop :=
  ∀ start cause, (runFrom action start).1 = .error cause → expected cause

section FailsWith

variable {expected : ε → Prop}

theorem failsWith_pure (value : α) :
    FailsWith expected (pure value : ExceptT ε (StateM σ) α) := by
  intro start cause failed
  cases failed

theorem failsWith_throw {cause : ε} (known : expected cause) :
    FailsWith expected (throw cause : ExceptT ε (StateM σ) α) := by
  intro start other failed
  cases failed
  exact known

theorem failsWith_lift (action : StateM σ α) :
    FailsWith expected (liftM action : ExceptT ε (StateM σ) α) := by
  intro start cause failed
  cases failed

theorem failsWith_ofExcept {result : Except ε α}
    (known : ∀ cause, result = .error cause → expected cause) :
    FailsWith expected (MonadExcept.ofExcept result : ExceptT ε (StateM σ) α) := by
  intro start cause failed
  rw [runFrom_ofExcept] at failed
  exact known cause failed

theorem FailsWith.bind {action : ExceptT ε (StateM σ) α} {next : α → ExceptT ε (StateM σ) β}
    (first : FailsWith expected action) (later : ∀ value, FailsWith expected (next value)) :
    FailsWith expected (action >>= next) := by
  intro start cause failed
  rw [runFrom_bind] at failed
  rcases ran : runFrom action start with ⟨ending, left⟩
  rw [ran] at failed
  cases ending with
  | ok value => exact later value left cause failed
  | error early =>
      cases failed
      exact first start cause (congrArg Prod.fst ran)

end FailsWith

def BlamesFor (name version : String) (failure : Failure) : Prop :=
  ∃ reason, failure = .backend name version reason

structure ControlPlane.Blames (plane : ControlPlane (StateM σ)) : Prop where
  manifest : ∀ name version, FailsWith (BlamesFor name version) (plane.getManifest name version)
  document : ∀ name version, FailsWith (BlamesFor name version) (plane.getDocument name version)

structure Archive.Blames (archive : Archive (StateM σ)) : Prop where
  bytes : ∀ name version, FailsWith (BlamesFor name version) (archive.manifestBytes name version)
  location : ∀ file name version,
    FailsWith (BlamesFor name version) (archive.location file name version)

namespace Endpoint

theorem usable_of_parse {address : String} {millis : Nat} {endpoint : Endpoint}
    (accepted : parse address millis = .ok endpoint) :
    Url.parse address = .ok endpoint.url ∧ endpoint.url.isWeb = true ∧
      endpoint.url.isBase = true := by
  unfold parse at accepted
  split at accepted
  · cases accepted
  · next url reads =>
      split at accepted
      · next usable =>
          cases accepted
          exact ⟨reads, usable⟩
      · cases accepted

theorem isBase_of_parse {address : String} {millis : Nat} {endpoint : Endpoint}
    (accepted : parse address millis = .ok endpoint) : endpoint.url.isBase = true :=
  (usable_of_parse accepted).2.2

variable {endpoint : Endpoint}

theorem failsWith_address (base : endpoint.url.isBase = true) {expected : Failure → Prop}
    (names : List String) (version : String) :
    FailsWith expected
      (MonadExcept.ofExcept (endpoint.address names version) : ExceptT Failure (StateM σ) Url) := by
  apply failsWith_ofExcept
  intro cause failed
  unfold address at failed
  rw [if_pos base] at failed
  cases failed

theorem failsWith_ask (network : Network (StateM σ)) (reader : Json.Reader α) (url : Url)
    (name version : String) :
    FailsWith (BlamesFor name version) (endpoint.ask network reader url name version) := by
  unfold ask
  refine (failsWith_lift _).bind fun answer => ?_
  cases answer with
  | error fault => exact failsWith_throw ⟨_, rfl⟩
  | ok answer =>
      dsimp only
      split
      · exact failsWith_pure _
      · exact failsWith_throw ⟨_, rfl⟩

theorem controlPlane_blames (base : endpoint.url.isBase = true) (network : Network (StateM σ)) :
    (endpoint.controlPlane network).Blames := by
  constructor
  · intro name version
    exact (failsWith_address base _ version).bind fun url =>
      failsWith_ask network _ url name version
  · intro name version
    exact (failsWith_address base _ version).bind fun url =>
      failsWith_ask network _ url name version

end Endpoint

namespace ControlPlane

variable {plane : ControlPlane (StateM σ)}

theorem failsWith_fetchDocument [MonadStateOf DocumentMemory (StateM σ)] (blames : plane.Blames)
    (name version : String) :
    FailsWith (BlamesFor name version) (plane.fetchDocument name version) :=
  (blames.document name version).bind fun _ => (failsWith_lift _).bind fun _ => failsWith_pure _

theorem documentArchive_blames [MonadStateOf DocumentMemory (StateM σ)] (blames : plane.Blames) :
    plane.documentArchive.Blames := by
  constructor
  · intro name version
    exact (failsWith_fetchDocument blames name version).bind fun _ => failsWith_pure _
  · intro file name version
    have attachments : FailsWith (BlamesFor name version) (plane.attachments name version) := by
      refine (failsWith_lift _).bind fun memory => ?_
      cases memory.attachments? name version with
      | some attachments => exact failsWith_pure _
      | none =>
          exact (failsWith_fetchDocument blames name version).bind fun _ => failsWith_pure _
    refine attachments.bind fun attachments => failsWith_ofExcept ?_
    intro cause failed
    unfold attachmentUrl at failed
    split at failed
    · cases failed
    · cases failed
      exact ⟨_, rfl⟩

theorem repositoryArchive_blames [MonadStateOf RepositoryMemory (StateM σ)] (blames : plane.Blames)
    (supplied : Option String) : (plane.repositoryArchive supplied).Blames := by
  constructor
  · intro name version
    unfold repositoryArchive
    dsimp only
    split
    · exact (failsWith_lift _).bind fun _ => failsWith_pure _
    · exact (blames.manifest name version).bind fun _ =>
        (failsWith_lift _).bind fun _ => failsWith_pure _
  · intro file name version
    refine failsWith_ofExcept ?_
    intro cause failed
    unfold listedUrl at failed
    split at failed
    · cases failed
    · cases failed
      exact ⟨_, rfl⟩

end ControlPlane

/-! ### Operations -/

theorem Manifest.parse_eq_error {bytes : Bytes} {failure : Failure}
    (unread : Manifest.parse bytes = .error failure) : ∃ reason, failure = .decode reason := by
  unfold Manifest.parse at unread
  split at unread
  · cases unread
  · cases unread
    exact ⟨_, rfl⟩

theorem asCacheWrite_eq (resource version : String) (failure : Failure) :
    ∃ filed key reason, asCacheWrite resource version failure = .cacheWrite filed key reason := by
  unfold asCacheWrite
  split
  · exact ⟨_, _, _, rfl⟩
  · exact ⟨_, _, _, rfl⟩

theorem asEnvironment_eq (failure : Failure) :
    ∃ reason, asEnvironment failure = .environment reason := by
  unfold asEnvironment
  split
  · exact ⟨_, rfl⟩
  · exact ⟨_, rfl⟩

theorem Manifest.select_eq_error {manifest : Manifest} {host : HostEnvironment} {failure : Failure}
    (unselected : manifest.select host = .error failure) : failure.OfSelection := by
  unfold Manifest.select at unselected
  cases resolves : manifest.resolveVariant host.operatingSystem.platform
    host.operatingSystem.platformVersion host.operatingSystem.architecture with
  | error cause =>
      simp only [resolves, bind, Except.bind] at unselected
      cases unselected
      unfold Manifest.resolveVariant at resolves
      dsimp only at resolves
      split at resolves
      · split at resolves
        · split at resolves
          · cases resolves
          · cases resolves
            exact .noMatch _ _ _ _
        · cases resolves
          exact .noMatch _ _ _ _
      · cases resolves
        exact .noMatch _ _ _ _
  | ok variant =>
      simp only [resolves, bind, Except.bind, Manifest.locateFile] at unselected
      split at unselected
      · cases unselected
      · cases unselected
        exact .fileNotFound _

namespace Service

variable {service : Service (StateM σ)} {tracer : StateM σ Int64} {name version : String}
  {start left : σ} {failure : Failure}

theorem ofManifest_of_fetch (blames : service.archive.Blames)
    (failed : runFrom (service.store.fetch name version) start = (.error failure, left)) :
    failure.OfManifest name version := by
  have ways := service.store.fetch_fetches name version start
  rw [failed] at ways
  cases ways with
  | refused asked =>
      obtain ⟨reason, rfl⟩ := blames.bytes name version start failure (congrArg Prod.fst asked)
      exact .backend reason
  | malformed asked unread =>
      obtain ⟨reason, rfl⟩ := Manifest.parse_eq_error unread
      exact .decode reason
  | @unfiled _ manifest resource _ cause _ _ _ _ asked spelled identified looked kept =>
      obtain ⟨filed, key, reason, same⟩ := asCacheWrite_eq resource manifest.version cause
      rw [same]
      exact .cacheWrite filed key reason

theorem ofArtifact_of_selects (blames : service.archive.Blames)
    (selects : service.Selects tracer name version start (.error failure) left) :
    failure.OfArtifact name version := by
  cases selects with
  | unsupplied unheld fetches => exact .manifest (ofManifest_of_fetch blames fetches)
  | @searched manifest _ supplied _ supplies searches =>
      rw [runFrom_search] at searches
      have found := congrArg Prod.fst searches
      dsimp only at found
      cases described : (runFrom service.collect (tick tracer supplied)).1 with
      | error cause =>
          rw [described] at found
          obtain ⟨reason, same⟩ := asEnvironment_eq cause
          cases found
          rw [same]
          exact .environment reason
      | ok host =>
          rw [described] at found
          exact (Manifest.select_eq_error found).ofArtifact name version

theorem ofArtifact_of_course (blames : service.archive.Blames)
    (course : service.Course tracer name version start (.error failure) left) :
    failure.OfArtifact name version := by
  cases course with
  | unselected selects => exact ofArtifact_of_selects blames selects
  | @unlocated file _ selected _ selects locates =>
      obtain ⟨reason, rfl⟩ := blames.location file name version
        (tick tracer (tick tracer selected)) failure (congrArg Prod.fst locates)
      exact .manifest (.backend reason)
  | undelivered selects locates downloads => exact .downloadFailed _ _
  | unplaced selects locates downloads nowhere => exact .downloadFailed _ _

theorem ofManifest_of_downloadManifest (blames : service.archive.Blames) {trace : Trace}
    (failed : (runTraced (service.downloadManifest tracer name version) trace start).1 =
      .error failure) : failure.OfManifest name version := by
  unfold downloadManifest at failed
  rw [runTraced_bind, runTraced_pure,
    (service.store.runTraced_resolve tracer name version trace start).1] at failed
  rcases fetches : runFrom (service.store.fetch name version) (tick tracer start) with
    ⟨ending, left⟩
  rw [fetches] at failed
  cases ending with
  | ok resolved => cases failed
  | error cause =>
      cases failed
      exact ofManifest_of_fetch blames fetches

theorem ofReport_of_report {result : PackageResult} {trace : Trace}
    (failed : (runTraced (service.report tracer result) trace start).1 = .error failure) :
    failure.OfReport := by
  unfold report at failed
  rw [Reporter.runTraced_report] at failed
  dsimp only at failed
  generalize runFrom (service.reporter.submit _) _ = submitted at failed
  rcases submitted with ⟨ending, left⟩
  cases ending with
  | ok done => cases failed
  | error cause =>
      cases failed
      exact .reportSubmission _

/-! ### Causes that are dropped -/

end Service

/-- The cache, but with other causes for what cannot be looked up in it: what cannot be read, and
what is read and spells no manifest. -/
def ManifestCache.blaming {m : Type → Type} [Monad m] (cache : ManifestCache m)
    (blame : Failure → Failure) : ManifestCache m where
  read resource version := do
    match ← outcome (cache.read resource version) with
    | .ok bytes =>
      match Manifest.parse bytes with
      | .ok _ => return bytes
      | .error cause => throw (blame cause)
    | .error cause => throw (blame cause)
  write := cache.write

namespace Service

variable {σ : Type} (service : Service (StateM σ)) (blame : Failure → Failure)

def blaming : Service (StateM σ) :=
  { service with cache := service.cache.blaming blame }

theorem runFrom_cached_blaming (resource version : String) (start : σ) :
    runFrom ((service.blaming blame).store.cached resource version) start =
      ((runFrom (service.store.cached resource version) start).1.mapError blame,
        (runFrom (service.store.cached resource version) start).2) := by
  rw [Store.runFrom_cached, Store.runFrom_cached]
  change ((runFrom ((service.cache.blaming blame).read resource version) start).1.bind _,
    (runFrom ((service.cache.blaming blame).read resource version) start).2) =
      (((runFrom (service.cache.read resource version) start).1.bind _).mapError blame,
        (runFrom (service.cache.read resource version) start).2)
  unfold ManifestCache.blaming
  dsimp only
  rw [runFrom_bind, runFrom_outcome]
  rcases runFrom (service.cache.read resource version) start with ⟨read, left⟩
  cases read with
  | error cause => rfl
  | ok bytes =>
      dsimp only [Except.bind]
      cases spelled : Manifest.parse bytes with
      | error cause => rfl
      | ok manifest =>
          change (Manifest.parse bytes, left) = _
          rw [spelled]
          rfl

/-- No answer of a service depends on why something could not be looked up in the cache. -/
theorem alike_blaming : Alike Eq (service.blaming blame) service := by
  constructor
  case cached =>
      rintro resource version start _ rfl
      have looked := service.runFrom_cached_blaming blame resource version start
      change SameFinding (runFrom ((service.blaming blame).store.cached resource version) start).1
          (runFrom (service.store.cached resource version) start).1 ∧
        (runFrom ((service.blaming blame).store.cached resource version) start).2 =
          (runFrom (service.store.cached resource version) start).2
      rw [looked]
      refine ⟨?_, rfl⟩
      unfold SameFinding
      cases (runFrom (service.store.cached resource version) start).1 with
      | ok manifest => rfl
      | error cause => rfl
  all_goals intros
  all_goals exact lockstep_refl _

end Service

section

variable [MonadStateOf DocumentMemory (StateM σ)] [MonadStateOf RepositoryMemory (StateM σ)]

/-- The archive is one of the two that a control plane serves. -/
inductive ControlPlane.Serves (plane : ControlPlane (StateM σ)) : Archive (StateM σ) → Prop
  | documents : Serves plane plane.documentArchive
  | repository (supplied : Option String) : Serves plane (plane.repositoryArchive supplied)

theorem ControlPlane.Serves.blames {plane : ControlPlane (StateM σ)} {archive : Archive (StateM σ)}
    (serves : plane.Serves archive) (blames : plane.Blames) : archive.Blames := by
  cases serves with
  | documents => exact documentArchive_blames blames
  | repository supplied => exact repositoryArchive_blames blames supplied

/-- Operations fail in their own ways only, and blame the archive for nothing but the package that
was asked for. What the parts of the service report stays inside; in particular the cause of a
failed look-up in the cache has no part in how an operation ends and in what it does. -/
theorem Service.failures_closed {address : String} {millis : Nat} {endpoint : Endpoint}
    (accepted : Endpoint.parse address millis = .ok endpoint) {network : Network (StateM σ)}
    {service : Service (StateM σ)}
    (serves : (endpoint.controlPlane network).Serves service.archive) (tracer : StateM σ Int64)
    (name version : String) (result : PackageResult) (trace : Trace) (start : σ) :
    (∀ failure,
      (runTraced (service.downloadManifest tracer name version) trace start).1 = .error failure →
        failure.OfManifest name version ∧ ¬ failure.StaysInside) ∧
    (∀ failure,
      (runTraced (service.downloadArtifact tracer name version) trace start).1 = .error failure →
        failure.OfArtifact name version ∧ ¬ failure.StaysInside) ∧
    (∀ failure, (runTraced (service.report tracer result) trace start).1 = .error failure →
        failure.OfReport ∧ ¬ failure.StaysInside) ∧
    ∀ blame,
      TracedLockstep Eq Eq ((service.blaming blame).downloadManifest tracer name version)
        (service.downloadManifest tracer name version) ∧
      TracedLockstep Eq Eq ((service.blaming blame).downloadArtifact tracer name version)
        (service.downloadArtifact tracer name version) ∧
      (service.blaming blame).report tracer result = service.report tracer result := by
  have blames : service.archive.Blames :=
    serves.blames (Endpoint.controlPlane_blames (Endpoint.isBase_of_parse accepted) network)
  refine ⟨?manifest, ?artifact, ?report, ?dropped⟩
  case manifest =>
    intro failure failed
    have expected := ofManifest_of_downloadManifest blames failed
    exact ⟨expected, expected.not_staysInside⟩
  case artifact =>
    intro failure failed
    have course := service.downloadArtifact_course tracer name version trace start
    rw [failed] at course
    have expected := ofArtifact_of_course blames course
    exact ⟨expected, expected.not_staysInside⟩
  case report =>
    intro failure failed
    have expected := ofReport_of_report failed
    exact ⟨expected, expected.not_staysInside⟩
  case dropped =>
    intro blame
    have readings : Lockstep Eq Eq tracer tracer := lockstep_refl tracer
    have alike := service.alike_blaming blame
    exact ⟨alike.downloadManifest readings name version,
      alike.downloadArtifact readings name version, rfl⟩

end

/-- Nothing works here: the archive does not answer in time, the cache says that it is not
configured, and there is no host. -/
theorem Service.failures_closed_stranded :
    let endpoint : Endpoint :=
      { url := { scheme := "http", host := some (.ipv4 2130706433), path := .segments [""] }
        timeoutMillis := 1000 }
    let network : Network Machine := Computer.exchange fun _ => .timedOut
    let service : Service Machine :=
      { archive := (endpoint.controlPlane network).documentArchive
        cache :=
          { read := fun _ _ => throw (.invalidConfig "no cache")
            write := fun _ _ _ => throw (.invalidConfig "no cache") }
        collect := throw (.http "no host")
        download := fun request => throw (.timeout request.sourceUrl 1)
        submit := endpoint.submit network
        clock := Clock.read }
    let failure := Failure.backend "pkg" "1.0"
      "request to http://127.0.0.1/documents/pkg?version=1.0 timed out after 1s"
    Endpoint.parse "http://127.0.0.1" 1000 = .ok endpoint ∧
      (endpoint.controlPlane network).Serves service.archive ∧
      (runTraced (service.downloadArtifact Clock.read "pkg" "1.0") [] {}).1 = .error failure ∧
      failure.OfArtifact "pkg" "1.0" ∧ ¬ failure.StaysInside := by
  intro endpoint network service failure
  have accepted : Endpoint.parse "http://127.0.0.1" 1000 = .ok endpoint := by decide +kernel
  have serves : (endpoint.controlPlane network).Serves service.archive := .documents
  have failed : (runTraced (service.downloadArtifact Clock.read "pkg" "1.0") [] {}).1 =
      .error failure := by decide +kernel
  obtain ⟨-, artifact, -, -⟩ :=
    Service.failures_closed accepted serves Clock.read "pkg" "1.0" {} [] {}
  exact ⟨accepted, serves, failed, artifact failure failed⟩

end Courier
