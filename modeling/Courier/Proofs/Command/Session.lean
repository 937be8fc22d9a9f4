import Courier.Proofs.Service.Dates
/-!
Sessions on a computer. Settings are loaded, files are read and a service is built without a change
of the computer; a log is the only file that a command makes before its own work begins. Main
statements: what the steps of a command come to that all commands share, and that nothing is sent or
printed before the work of a command begins.
-/

namespace Courier

open Computer

def FileSystem.holding (nodes : List (Place × Node)) : FileSystem :=
  nodes.foldl (fun files (place, node) => files.put place node) {}

theorem ServiceConfig.service_eq_ok {config : ServiceConfig} {around : Surroundings Machine}
    {service : Service Machine} (serves : config.service around = .ok service) :
    ∃ endpoint, config.controlEndpoint = .ok endpoint ∧
      service = config.serviceAt around endpoint := by
  unfold ServiceConfig.service at serves
  cases accepted : config.controlEndpoint with
  | error failure =>
      rw [accepted] at serves
      cases serves
  | ok endpoint =>
      rw [accepted] at serves
      cases serves
      exact ⟨endpoint, rfl, rfl⟩

theorem ServiceConfig.controlEndpoint_eq_ok {config : ServiceConfig} {endpoint : Endpoint}
    (accepted : config.controlEndpoint = .ok endpoint) :
    ∃ address, config.endpoint = some address ∧
      Endpoint.parse address config.serviceTimeoutMillis = .ok endpoint := by
  unfold controlEndpoint at accepted
  split at accepted
  · next address given => exact ⟨address, given, accepted⟩
  · cases accepted

namespace HostSource

variable (source : HostSource) (overrides : HostEnvironment)

def describedOn (computer : Computer) : Except Failure HostEnvironment :=
  (runFrom (source.collect FileSystem.access overrides) computer).1

theorem runFrom_collect (computer : Computer) :
    runFrom (source.collect FileSystem.access overrides) computer =
      (source.describedOn overrides computer, computer) := by
  have left : computer = (runFrom (source.collect FileSystem.access overrides) computer).2 :=
    passes_collect source overrides computer
  exact Prod.ext rfl left.symm

theorem describedOn_congr {left right : Computer}
    (same : left.files.read source.releasePath = right.files.read source.releasePath) :
    source.describedOn overrides left = source.describedOn overrides right := by
  have texts : (runFrom ((FileSystem.access : FileAccess Machine).readText source.releasePath)
      left).1 = (runFrom ((FileSystem.access : FileAccess Machine).readText source.releasePath)
      right).1 := by
    unfold FileAccess.readText
    rw [runFrom_bind, runFrom_bind, FileSystem.runFrom_read, FileSystem.runFrom_read, same]
    cases right.files.read source.releasePath with
    | error fault => rfl
    | ok bytes =>
        dsimp only
        cases Utf8.decode? bytes with
        | none => rfl
        | some text => rfl
  unfold describedOn collect
  split
  case isTrue => rfl
  case isFalse =>
    simp only [runFrom_bind, runFrom_outcome]
    rw [texts]
    cases (runFrom ((FileSystem.access : FileAccess Machine).readText source.releasePath) right).1
    with
    | ok content => rfl
    | error fault => rfl

end HostSource

variable {passage : Computer → Computer → Prop}

namespace Session

variable (peer : Peer) (host : HostSource) (places : Places)

theorem runFrom_print (lines : List String) (computer : Computer) :
    runFrom ((session peer host places).print lines) computer =
      (.ok (), { computer with printed := computer.printed ++ lines }) := by
  unfold print
  induction lines generalizing computer with
  | nil =>
      rw [List.append_nil]
      rfl
  | cons line rest ih =>
      have said : runFrom (ExceptT.lift ((session peer host places).say line) :
          CommandAction Machine Unit) computer =
          (.ok (), { computer with printed := computer.printed ++ [line] }) := rfl
      change runFrom (_ >>= fun _ => rest.forM _) computer = _
      rw [runFrom_bind_ok said, ih]
      simp only [List.append_assoc, List.singleton_append]

section Passage

variable [Passage passage]

theorem passes_settings (named : Option Path) :
    PassesOrFails passage ((session peer host places).settings named) := by
  refine PassesOrFails.adapt ?_ _
  refine (passes_present _).lift.bind fun there => ?_
  cases there with
  | false => exact passesOrFails_pure _
  | true =>
      refine (passes_readText _).outcome.bind fun ending => ?_
      cases ending with
      | ok text => exact passesOrFails_ofExcept _
      | error fault => exact passesOrFails_throw _

theorem passes_readText (path : Path) :
    PassesOrFails passage ((session peer host places).readText path) :=
  (Courier.passes_readText path).adapt _

theorem passes_service (settings : Settings) (options : ServiceOptions) :
    PassesOrFails passage ((session peer host places).service settings options) := by
  have configs : PassesOrFails passage
      ((session peer host places).serviceConfig settings options) := by
    unfold serviceConfig
    dsimp only
    split
    · exact passesOrFails_pure _
    · split
      · exact (passesOrFails_throw _).bind fun _ =>
          (passes_readText peer host places _).bind fun _ => passesOrFails_pure _
      · exact (passes_readText peer host places _).bind fun _ => passesOrFails_pure _
  exact configs.bind fun _ => PassesOrFails.adapt (passesOrFails_ofExcept _) _

end Passage

theorem passes_begin [FilePassage passage] (invocation : Invocation) :
    PassesOrFails passage ((session peer host places).begin invocation) := by
  unfold begin
  refine (passes_settings peer host places _).bind fun settings => ?_
  split
  · refine PassesOrFails.bind ?_ fun _ => passesOrFails_pure _
    exact PassesOrFails.adapt ((passes_makeDirectories _).bind fun _ => passes_change _) _
  · exact passesOrFails_pure _

theorem runFrom_begin_unlogged {invocation : Invocation} (unlogged : invocation.log = false)
    (computer : Computer) :
    runFrom ((session peer host places).begin invocation) computer =
      ((runFrom ((session peer host places).settings invocation.config) computer).1, computer) := by
  have kept : computer = (runFrom ((session peer host places).settings invocation.config)
      computer).2 := passes_settings peer host places invocation.config computer
  unfold begin
  rw [runFrom_bind]
  rcases loaded : runFrom ((session peer host places).settings invocation.config) computer with
    ⟨ending, left⟩
  rw [loaded] at kept
  dsimp only at kept
  rw [← kept]
  cases ending with
  | error fault => rfl
  | ok settings =>
      dsimp only
      rw [unlogged]
      rfl

theorem runFrom_orFail {α : Type} (ending : Except Failure α) (computer : Computer) :
    runFrom (orFail ending : CommandAction Machine α) computer =
      (ending.mapError CommandFault.service, computer) := by
  unfold orFail
  rw [runFrom_adapt, runFrom_ofExcept]

theorem serviceConfig_eq_ok {settings : Settings} {options : ServiceOptions}
    {config : ServiceConfig} {computer left : Computer}
    (configures : runFrom ((session peer host places).serviceConfig settings options) computer =
      (.ok config, left)) :
    ∃ inHand, config = { options.override (ServiceConfig.ofSettings settings) with
      repositoryManifest := inHand } := by
  unfold serviceConfig at configures
  dsimp only at configures
  split at configures
  · cases configures
    exact ⟨none, rfl⟩
  · split at configures
    · cases configures
    · next path _ _ =>
        rw [runFrom_bind] at configures
        rcases read : runFrom ((session peer host places).readText path) computer with
          ⟨ending, left⟩
        rw [read] at configures
        cases ending with
        | error fault => cases configures
        | ok text =>
            cases configures
            exact ⟨some text, rfl⟩

/-- A service that a session works with is the one that the settings and the options describe,
perhaps with a manifest already in hand. -/
theorem service_eq_ok {settings : Settings} {options : ServiceOptions} {service : Service Machine}
    {computer served : Computer}
    (serves : runFrom ((session peer host places).service settings options) computer =
      (.ok service, served)) :
    ∃ (inHand : Option String) (endpoint : Endpoint),
      (options.override (ServiceConfig.ofSettings settings)).controlEndpoint = .ok endpoint ∧
      service = ServiceConfig.serviceAt { options.override (ServiceConfig.ofSettings settings) with
        repositoryManifest := inHand } (surroundings peer host) endpoint := by
  unfold Session.service at serves
  rw [runFrom_bind] at serves
  rcases configured : runFrom ((session peer host places).serviceConfig settings options)
    computer with ⟨ending, left⟩
  rw [configured] at serves
  cases ending with
  | error fault => cases serves
  | ok config =>
      obtain ⟨inHand, same⟩ := serviceConfig_eq_ok peer host places configured
      dsimp only at serves
      rw [runFrom_orFail] at serves
      cases described : config.service (session peer host places).around with
      | error failure =>
          rw [described] at serves
          cases serves
      | ok found =>
          rw [described] at serves
          cases serves
          obtain ⟨endpoint, parsed, rfl⟩ := ServiceConfig.service_eq_ok described
          subst same
          exact ⟨inHand, endpoint, parsed, rfl⟩

theorem runFrom_readText {file : Path} {computer : Computer} {text : String}
    (holds : computer.files.read file = .ok (Utf8.encode text)) :
    runFrom ((session peer host places).readText file) computer = (.ok text, computer) := by
  change runFrom (ExceptT.adapt _ ((FileSystem.access : FileAccess Machine).readText file))
    computer = _
  rw [runFrom_adapt, FileSystem.runFrom_readText_of_read holds]
  rfl

theorem runFrom_shown (shown : Bool) (lines : List String)
    (rest : CommandAction Machine Unit) (computer : Computer) :
    ∃ printed, runFrom (do
      if shown then (session peer host places).print lines
      rest : CommandAction Machine Unit) computer =
        runFrom rest { computer with printed := computer.printed ++ printed } := by
  cases shown with
  | false => exact ⟨[], by rw [List.append_nil]; rfl⟩
  | true =>
      refine ⟨lines, ?_⟩
      rw [if_pos rfl, runFrom_bind_ok (runFrom_print peer host places lines computer)]

end Session

namespace Computer

/-- The clock goes on, and nothing is sent or printed. -/
structure Quiet (before after : Computer) : Prop where
  precedes : before.Precedes after
  requests : after.requests = before.requests
  printed : after.printed = before.printed

instance : FilePassage Quiet where
  refl computer := ⟨Passage.refl computer, rfl, rfl⟩
  trans early late :=
    { precedes := Passage.trans early.precedes late.precedes
      requests := late.requests.trans early.requests
      printed := late.printed.trans early.printed }
  files computer files := ⟨FilePassage.files computer files, rfl, rfl⟩

variable (computer : Computer) (peer : Peer) (host : HostSource) (places : Places)

def endingOf : Except CommandFault Unit → Ending
  | .ok () => {}
  | .error fault => { exitCode := 1, complaints := fault.lines }

theorem execute_eq {arguments : List String} {invocation : Invocation}
    (asks : Invocation.read arguments = .ok invocation) :
    computer.execute peer host places arguments =
      let ran := runFrom ((session peer host places).run invocation) computer.fresh
      (endingOf ran.1, ran.2) := by
  unfold execute Session.perform
  rw [asks]
  change stepFrom (_ >>= _) computer.fresh = _
  rcases ran : runFrom ((session peer host places).run invocation) computer.fresh with
    ⟨ending, left⟩
  have steps : stepFrom (ExceptT.run ((session peer host places).run invocation)) computer.fresh =
      (ending, left) := ran
  rw [stepFrom_bind, steps]
  cases ending with
  | ok done => rfl
  | error fault => rfl

theorem execute_of_run {arguments : List String} {invocation : Invocation}
    (asks : Invocation.read arguments = .ok invocation) {ended : Except CommandFault Unit}
    {left : Computer}
    (runs : runFrom ((session peer host places).run invocation) computer.fresh = (ended, left)) :
    computer.execute peer host places arguments = (endingOf ended, left) := by
  rw [computer.execute_eq peer host places asks, runs]

end Computer

end Courier
