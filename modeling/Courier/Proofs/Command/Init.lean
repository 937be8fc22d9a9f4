import Courier.Proofs.Command.Session
import Courier.Proofs.Config.Initial
/-!
The command that writes the initial settings. It refuses to replace what is there unless it is
forced to, and otherwise it comes to saving the initial settings. Main statement: a refusal leaves
every file as it is, and after a success all commands find the settings that they would find without
a file.
-/

namespace Courier

open Computer

/-- The settings that commands find, whoever answers them and whatever their host is. -/
def Computer.Finds (computer : Computer) (places : Places) (named : Option Path)
    (settings : Settings) : Prop :=
  ∀ peer host,
    runFrom ((session peer host places).settings named) computer = (.ok settings, computer)

def refusal (path : Path) : CommandFault :=
  .misconfigured (path.text ++ " already exists. Use --force to overwrite it.")

namespace Session

variable (peer : Peer) (host : HostSource) (places : Places) {path : Path} {computer : Computer}

theorem finds_of_load {named : Option Path} {settings : Settings}
    (loads : runFrom (Settings.load FileSystem.access places (named.getD places.configFile))
      computer = (.ok settings, computer)) : computer.Finds places named settings := by
  intro peer host
  change runFrom (ExceptT.adapt _ (Settings.load FileSystem.access places
    (named.getD places.configFile))) computer = _
  rw [runFrom_adapt, loads]
  rfl

theorem runFrom_ensureExists_of_present (there : computer.files.present path = true) :
    runFrom (Settings.ensureExists FileSystem.access places path) computer =
      (.ok false, computer) := by
  unfold Settings.ensureExists
  rw [runFrom_bind, runFrom_monadLift, FileSystem.stepFrom_present, there]
  rfl

theorem runFrom_ensureExists_of_absent (absent : computer.files.present path = false)
    {ending : Except ConfigFault Unit} {saved : Computer}
    (saves : runFrom ((Settings.initial places).save FileSystem.access places path) computer =
      (ending, saved)) :
    runFrom (Settings.ensureExists FileSystem.access places path) computer =
      (ending.map fun _ => true, saved) := by
  unfold Settings.ensureExists
  rw [runFrom_bind, runFrom_monadLift, FileSystem.stepFrom_present, absent]
  cases ending with
  | ok done => exact runFrom_bind_ok saves _
  | error fault => exact runFrom_bind_error saves _

theorem runFrom_initSettings_refused (there : computer.files.present path = true) :
    runFrom ((session peer host places).initSettings path false) computer =
      (.error (refusal path), computer) := by
  have ensured : runFrom (ExceptT.adapt CommandFault.config
      (Settings.ensureExists FileSystem.access places path)) computer = (.ok false, computer) := by
    rw [runFrom_adapt, runFrom_ensureExists_of_present places there]
    rfl
  exact (runFrom_bind_ok ensured _).trans rfl

theorem runFrom_initSettings_of_free {force : Bool}
    (free : force = true ∨ computer.files.present path = false)
    {ending : Except ConfigFault Unit} {saved : Computer}
    (saves : runFrom ((Settings.initial places).save FileSystem.access places path) computer =
      (ending, saved)) :
    ∃ lines, runFrom ((session peer host places).initSettings path force) computer =
      (ending.mapError CommandFault.config, { saved with printed := saved.printed ++ lines }) := by
  have adapted : ∀ {α : Type} {action : ExceptT ConfigFault Machine α}
      {ending : Except ConfigFault α}, runFrom action computer = (ending, saved) →
      runFrom (ExceptT.adapt CommandFault.config action) computer =
        (ending.mapError CommandFault.config, saved) := by
    intro α action ending ends
    rw [runFrom_adapt, ends]
  have silent : saved = { saved with printed := saved.printed ++ [] } := by
    rw [List.append_nil]
  unfold initSettings
  cases force with
  | true =>
      have written := adapted saves
      cases ending with
      | ok done =>
          exact ⟨_, (runFrom_bind_ok written _).trans (runFrom_print peer host places _ saved)⟩
      | error fault => exact ⟨[], silent ▸ runFrom_bind_error written _⟩
  | false =>
      have ensured := adapted (runFrom_ensureExists_of_absent places
        (free.resolve_left Bool.false_ne_true) saves)
      cases ending with
      | ok done =>
          exact ⟨_, (runFrom_bind_ok ensured _).trans (runFrom_print peer host places _ saved)⟩
      | error fault => exact ⟨[], silent ▸ runFrom_bind_error ensured _⟩

end Session

namespace Computer

variable {computer : Computer} {peer : Peer} {host : HostSource} {places : Places}
  {arguments : List String} {invocation : Invocation} {force : Bool}

theorem execute_init (asks : Invocation.read arguments = .ok invocation)
    (inits : invocation.command = .config (.init force)) {ended : Except CommandFault Unit}
    {left : Computer}
    (ran : runFrom ((session peer host places).initSettings
      (invocation.config.getD places.configFile) force) computer.fresh = (ended, left)) :
    computer.execute peer host places arguments = (endingOf ended, left) := by
  refine computer.execute_of_run peer host places asks ?_
  unfold Session.run
  rw [inits]
  exact ran

/-- Without force, the command fails where something is, and every file stays as it is. Everywhere
else it succeeds if and only if the initial settings can be saved. After a success, whoever finds
what was written then at the same path finds the initial settings, with directories compared as
paths; without a file they are found as they are. The home may have any characters and be above
the directory of temporary files. -/
theorem init_safe (legible : places.Legible) (asks : Invocation.read arguments = .ok invocation)
    (inits : invocation.command = .config (.init force)) :
    let path := invocation.config.getD places.configFile
    let ran := computer.execute peer host places arguments
    let saves := runFrom ((Settings.initial places).save FileSystem.access places path)
      computer.fresh
    (force = false → computer.files.present path = true →
      ran.1 = { exitCode := 1, complaints := (refusal path).lines } ∧
      ran.2.files = computer.files) ∧
    (ran.1.exitCode = 0 ↔
      (force = true ∨ computer.files.present path = false) ∧ saves.1 = .ok ()) ∧
    (ran.1.exitCode = 0 → ∀ (later : Computer) (named : Option Path),
      named.getD places.configFile = path → later.files.read path = ran.2.files.read path →
      ∃ loaded, later.Finds places named loaded ∧ loaded.Same (Settings.initial places)) ∧
    ∀ (bare : Computer) (named : Option Path), named.getD places.configFile = path →
      bare.files.present path = false → bare.Finds places named (Settings.initial places) := by
  intro path ran saves
  have refused : force = false → computer.files.present path = true →
      ran.1 = { exitCode := 1, complaints := (refusal path).lines } ∧
      ran.2.files = computer.files := by
    rintro rfl there
    have refuses := @Session.runFrom_initSettings_refused peer host places path computer.fresh there
    have ended : ran = (endingOf (.error (refusal path)), computer.fresh) :=
      execute_init asks inits refuses
    rw [ended]
    exact ⟨rfl, rfl⟩
  have acts : force = true ∨ computer.files.present path = false → ∃ lines,
      ran = (endingOf (saves.1.mapError CommandFault.config),
        { saves.2 with printed := saves.2.printed ++ lines }) := by
    intro free
    obtain ⟨lines, ends⟩ := @Session.runFrom_initSettings_of_free peer host places path
      computer.fresh force free saves.1 saves.2 rfl
    exact ⟨lines, execute_init asks inits ends⟩
  have succeeds : ran.1.exitCode = 0 ↔
      (force = true ∨ computer.files.present path = false) ∧ saves.1 = .ok () := by
    by_cases free : force = true ∨ computer.files.present path = false
    · obtain ⟨lines, ends⟩ := acts free
      rw [ends]
      cases saves.1 with
      | ok done => exact iff_of_true rfl ⟨free, rfl⟩
      | error fault =>
          exact iff_of_false (by decide : (1 : UInt32) ≠ 0) fun ⟨_, saved⟩ => nomatch saved
    · obtain ⟨unforced, there⟩ := not_or.mp free
      obtain ⟨fails, -⟩ := refused (by simpa using unforced) (by simpa using there)
      rw [fails]
      exact iff_of_false (by decide : (1 : UInt32) ≠ 0) fun ⟨either, _⟩ => free either
  refine ⟨refused, succeeds, ?found, ?bare⟩
  case found =>
    intro success later named aims reads
    obtain ⟨free, saved⟩ := succeeds.mp success
    obtain ⟨lines, ends⟩ := acts free
    -- What can be saved does not hang on what is saved, so the file holds these settings.
    obtain ⟨written, again, holds⟩ := Settings.runFrom_save_again saved (Settings.initial places)
    have left : ran.2.files = written.files := by
      rw [ends]
      change saves.2.files = _
      rw [show saves = _ from again]
    rw [left, holds] at reads
    obtain ⟨loaded, loads, same⟩ := Settings.load_initial legible reads
    exact ⟨loaded, Session.finds_of_load places (aims ▸ loads), same⟩
  case bare =>
    intro bare named aims absent
    exact Session.finds_of_load places (Settings.runFrom_load_of_absent (aims.symm ▸ absent))

/-- A relative home with a quote in front and a blank behind, in which a backslash begins what would
be an escape in the settings. -/
theorem init_safe_quoted_home :
    let places : Places := { home := ⟨"'my\\x41 home "⟩ }
    let arguments := ["config", "init"]
    let first := ({} : Computer).execute Peer.absent {} places arguments
    let second := first.2.execute Peer.absent {} places arguments
    first.1.exitCode = 0 ∧
      (∃ loaded, first.2.Finds places none loaded ∧ loaded.Same (Settings.initial places)) ∧
      second.1.exitCode = 1 ∧ second.2.files = first.2.files := by
  intro places arguments first second
  have legible : places.Legible := Places.legible_of_home (by decide)
  have asks : Invocation.read arguments = .ok { command := .config (.init false) } := by
    decide +kernel
  have succeeds : first.1.exitCode = 0 := by decide +kernel
  have there : first.2.files.present places.configFile = true := by decide +kernel
  have ranFirst : ({} : Computer).execute Peer.absent {} places arguments = first := rfl
  have ranSecond : first.2.execute Peer.absent {} places arguments = second := rfl
  -- From here on nothing is to be carried out again.
  clear_value second first
  have safeFirst := @init_safe {} Peer.absent {} places arguments _ false legible asks rfl
  have safeSecond := @init_safe first.2 Peer.absent {} places arguments _ false legible asks rfl
  rw [ranFirst] at safeFirst
  rw [ranSecond] at safeSecond
  obtain ⟨-, -, found, -⟩ := safeFirst
  obtain ⟨refused, -⟩ := safeSecond
  obtain ⟨fails, kept⟩ := refused rfl there
  exact ⟨succeeds, found succeeds first.2 none rfl rfl, congrArg Ending.exitCode fails, kept⟩

end Computer

end Courier
