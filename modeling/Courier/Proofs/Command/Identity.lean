import Courier.Proofs.Command.Resolve
import Courier.Proofs.Config.Accepted
import Courier.Proofs.Host.Release
/-!
The identity of the host that the resolve command selects for. Options, settings and the system each
may describe a field of it, and each field is settled without a look at the other two; only whether
the system's file has to be read is decided for all of them at once. Main statement: where every
field comes from, and that resolution fails for the environment just where a field is left to a file
that is no text.
-/

namespace Courier

open Computer

/-- What is said of a field of the host: by an option of the command, and by the settings. -/
structure HostField where
  option : Option String
  setting : Option String

namespace HostField

variable (field : HostField) (shape : String → String) (detected : String)

/-- Whether the field is left to detection. An option decides this, also when it is empty. -/
def IsOpen : Prop :=
  match field.option with
  | some given => given = ""
  | none => field.setting = none

instance : Decidable field.IsOpen := by
  unfold IsOpen
  split
  · infer_instance
  · infer_instance

/-- The field in the shape that it is kept in: the option's value, unless it is empty, or without an
option that of the settings, or else what is detected. -/
def resolved : String :=
  match field.option with
  | some given => if given = "" then detected else shape given
  | none => (field.setting.map shape).getD detected

/-- What stands in the overrides for the field; it is empty where detection is to fill it in. -/
def overriding : String :=
  (field.option.map shape).getD ((field.setting.map shape).getD "")

variable {shape}

/-- Shaping makes nothing empty that was not, and nothing of an empty text. -/
structure Shapes (shape : String → String) : Prop where
  empty : shape "" = ""
  filled : ∀ value, value ≠ "" → shape value ≠ ""

theorem shapes_id : Shapes id :=
  ⟨rfl, fun _ filled => filled⟩

theorem shapes_lower : Shapes Text.lower :=
  ⟨rfl, fun _ => Text.lower_ne_empty⟩

theorem overriding_eq_empty_iff (shapes : Shapes shape) (filled : field.setting ≠ some "") :
    field.overriding shape = "" ↔ field.IsOpen := by
  obtain ⟨option, setting⟩ := field
  cases option with
  | some given =>
      change shape given = "" ↔ given = ""
      constructor
      · intro none
        by_contra something
        exact shapes.filled given something none
      · intro none
        rw [none, shapes.empty]
  | none =>
      cases setting with
      | none => exact ⟨fun _ => rfl, fun _ => rfl⟩
      | some value =>
          have something : value ≠ "" := fun none => filled (congrArg some none)
          change shape value = "" ↔ some value = none
          exact ⟨fun none => absurd none (shapes.filled value something), fun none => nomatch none⟩

theorem preferred_overriding (shapes : Shapes shape) (filled : field.setting ≠ some "") :
    preferred (field.overriding shape) detected = field.resolved shape detected := by
  have opens := field.overriding_eq_empty_iff shapes filled
  unfold preferred
  obtain ⟨option, setting⟩ := field
  by_cases isOpen : IsOpen ⟨option, setting⟩
  · rw [if_pos (String.isEmpty_iff.mpr (opens.mpr isOpen))]
    cases option with
    | some given => exact (if_pos isOpen).symm
    | none =>
        obtain rfl : setting = none := isOpen
        rfl
  · rw [if_neg fun none => isOpen (opens.mp (String.isEmpty_iff.mp none))]
    cases option with
    | some given => exact (if_neg isOpen).symm
    | none =>
        cases setting with
        | some value => rfl
        | none => exact absurd rfl isOpen

theorem resolved_of_not_isOpen (settled : ¬ field.IsOpen) (shape : String → String)
    (detected other : String) : field.resolved shape detected = field.resolved shape other := by
  obtain ⟨option, setting⟩ := field
  cases option with
  | some given => exact (if_neg settled).trans (if_neg settled).symm
  | none =>
      cases setting with
      | some value => rfl
      | none => exact absurd rfl settled

end HostField

theorem OperatingSystem.isComplete_iff (system : OperatingSystem) :
    system.isComplete = true ↔
      ¬ (system.platform = "" ∨ system.platformVersion = "" ∨ system.architecture = "") := by
  unfold isComplete
  simp only [Bool.and_eq_true, Bool.not_eq_true', ← Bool.not_eq_true, String.isEmpty_iff, not_or,
    and_assoc]

namespace HostSource

variable (source : HostSource) (overrides : HostEnvironment) (computer : Computer)

def release? : Option String :=
  (computer.files.read source.releasePath).toOption.bind Utf8.decode?

def detectedBy (content : String) : OperatingSystem :=
  { platform := ((OsRelease.lastField? "ID=" content).map OsRelease.platformOf).getD "linux"
    platformVersion :=
      ((OsRelease.lastField? "VERSION_ID=" content).map OsRelease.versionOf).getD ""
    architecture := normalizeArchitecture source.architecture }

theorem describedOn_of_isComplete (complete : overrides.operatingSystem.isComplete = true) :
    source.describedOn overrides computer =
      .ok { operatingSystem := ({} : OperatingSystem).overriddenBy overrides.operatingSystem
            cloud := overrides.cloud } := by
  unfold describedOn collect
  rw [if_pos complete]
  rfl

theorem runFrom_readText_of_released {content : String}
    (released : source.release? computer = some content) :
    runFrom ((FileSystem.access : FileAccess Machine).readText source.releasePath) computer =
      (.ok content, computer) := by
  obtain ⟨bytes, found, spelled⟩ := Option.bind_eq_some_iff.mp released
  unfold FileAccess.readText
  rw [runFrom_bind, FileSystem.runFrom_read]
  cases reads : computer.files.read source.releasePath with
  | error fault =>
      rw [reads] at found
      cases found
  | ok held =>
      rw [reads] at found
      cases found
      dsimp only
      rw [spelled]
      rfl

theorem runFrom_readText_of_unreleased (unreleased : source.release? computer = none) :
    ∃ fault, runFrom ((FileSystem.access : FileAccess Machine).readText source.releasePath)
      computer = (.error fault, computer) := by
  unfold release? at unreleased
  unfold FileAccess.readText
  rw [runFrom_bind, FileSystem.runFrom_read]
  cases reads : computer.files.read source.releasePath with
  | error fault => exact ⟨fault, rfl⟩
  | ok bytes =>
      rw [reads] at unreleased
      dsimp only
      rw [show Utf8.decode? bytes = none from unreleased]
      exact ⟨_, rfl⟩

theorem describedOn_of_not_isComplete (partly : ¬ overrides.operatingSystem.isComplete = true) :
    match source.release? computer with
    | some content => source.describedOn overrides computer =
        .ok { operatingSystem := (source.detectedBy content).overriddenBy overrides.operatingSystem
              cloud := overrides.cloud }
    | none => ∃ reason, source.describedOn overrides computer = .error (.environment reason) := by
  unfold describedOn collect
  simp only [if_neg partly, runFrom_bind, runFrom_outcome]
  cases released : source.release? computer with
  | none =>
      obtain ⟨fault, unread⟩ := runFrom_readText_of_unreleased source computer released
      rw [unread]
      exact ⟨_, rfl⟩
  | some content =>
      rw [runFrom_readText_of_released source computer released]
      dsimp only
      rw [OsRelease.parse_eq]
      rfl

end HostSource

/-! ### All fields -/

theorem Settings.host_of_parse {places : Places} {text : String} {settings : Settings}
    (parses : parse places text = .ok settings) :
    ∃ ini, Ini.read text = .ok ini ∧ settings.host = readHost ini := by
  unfold parse at parses
  split at parses
  · next ini read =>
      obtain ⟨service, -, parses⟩ := bind_eq_ok parses
      obtain ⟨download, -, parses⟩ := bind_eq_ok parses
      obtain rfl := Except.ok.inj parses
      exact ⟨ini, read, rfl⟩
  · cases parses

/-- The three fields of a host that the options and the section of an INI text describe. -/
structure HostFields where
  platform : HostField
  version : HostField
  architecture : HostField

namespace HostFields

def of (options : ResolveOptions) (ini : Ini) : HostFields :=
  let setting := Settings.value? ini "host"
  { platform := ⟨options.platform, setting "platform"⟩
    version := ⟨options.platformVersion, setting "platform_version"⟩
    architecture := ⟨options.architecture, setting "architecture"⟩ }

variable (fields : HostFields)

def AnyOpen : Prop :=
  fields.platform.IsOpen ∨ fields.version.IsOpen ∨ fields.architecture.IsOpen

instance : Decidable fields.AnyOpen :=
  inferInstanceAs (Decidable (_ ∨ _))

def system (detected : OperatingSystem) : OperatingSystem :=
  { platform := fields.platform.resolved Text.lower detected.platform
    platformVersion := fields.version.resolved id detected.platformVersion
    architecture := fields.architecture.resolved id detected.architecture }

def overriding : OperatingSystem :=
  { platform := fields.platform.overriding Text.lower
    platformVersion := fields.version.overriding id
    architecture := fields.architecture.overriding id }

variable {fields} in
theorem system_of_not_anyOpen (settled : ¬ fields.AnyOpen) (detected other : OperatingSystem) :
    fields.system detected = fields.system other := by
  obtain ⟨platform, version, architecture⟩ : ¬ fields.platform.IsOpen ∧ ¬ fields.version.IsOpen ∧
      ¬ fields.architecture.IsOpen := by simpa only [AnyOpen, not_or] using settled
  unfold system
  rw [fields.platform.resolved_of_not_isOpen platform _ detected.platform other.platform,
    fields.version.resolved_of_not_isOpen version _ detected.platformVersion
      other.platformVersion,
    fields.architecture.resolved_of_not_isOpen architecture _ detected.architecture
      other.architecture]

variable (options : ResolveOptions) (ini : Ini)

theorem setting_ne_empty (key : String) : Settings.value? ini "host" key ≠ some "" :=
  fun blank => (Settings.isTrimmed_of_value? blank).1 rfl

theorem overriddenBy_overriding (detected : OperatingSystem) :
    detected.overriddenBy (of options ini).overriding = (of options ini).system detected := by
  have platform := (of options ini).platform.preferred_overriding detected.platform
    HostField.shapes_lower (setting_ne_empty ini "platform")
  have version := (of options ini).version.preferred_overriding detected.platformVersion
    HostField.shapes_id (setting_ne_empty ini "platform_version")
  have architecture := (of options ini).architecture.preferred_overriding detected.architecture
    HostField.shapes_id (setting_ne_empty ini "architecture")
  unfold OperatingSystem.overriddenBy system
  rw [OperatingSystem.mk.injEq]
  exact ⟨platform, version, architecture⟩

theorem isComplete_overriding :
    (of options ini).overriding.isComplete = true ↔ ¬ (of options ini).AnyOpen := by
  have platform := (of options ini).platform.overriding_eq_empty_iff HostField.shapes_lower
    (setting_ne_empty ini "platform")
  have version := (of options ini).version.overriding_eq_empty_iff HostField.shapes_id
    (setting_ne_empty ini "platform_version")
  have architecture := (of options ini).architecture.overriding_eq_empty_iff HostField.shapes_id
    (setting_ne_empty ini "architecture")
  rw [OperatingSystem.isComplete_iff]
  unfold AnyOpen
  rw [← platform, ← version, ← architecture]
  rfl

variable {ini} in
theorem operatingSystem_overrides {settings : Settings}
    (host : settings.host = Settings.readHost ini) :
    (options.overrides settings).operatingSystem = (of options ini).overriding := by
  unfold ResolveOptions.overrides overriding HostField.overriding
  rw [host, Option.map_id_fun]
  rfl

end HostFields

namespace Session

/-- For a resolution with any options, under the settings that a text is read as. Every field of the
host that is selected for is the option's if that is given and not empty, else, without an option,
that of the section for the host, and else the detected one. The host cannot be described, which is
the environment's fault, just where a field is left to the system's file and that cannot be read as
text. The attributes of the instance are those of the section alone. -/
theorem resolveHost_precedence {places : Places} {text : String} {settings : Settings}
    (parses : Settings.parse places text = .ok settings) (peer : Peer) (source : HostSource)
    (options : ResolveOptions) (computer : Computer) :
    let resolved := runFrom ((session peer source places).resolveHost settings options) computer
    ∃ ini, Ini.read text = .ok ini ∧
      let fields := HostFields.of options ini
      let release := source.release? computer
      let described (key : String) := (Settings.value? ini "host" key).getD ""
      resolved.2 = computer ∧
      (if fields.AnyOpen ∧ release = none then
        ∃ reason, resolved.1 = .error (.environment reason)
      else
        resolved.1 = .ok
          { operatingSystem := fields.system (source.detectedBy (release.getD ""))
            cloud :=
              { instanceId := described "instance_id"
                instanceType := described "instance_type"
                region := described "region"
                availabilityZone := described "availability_zone" } }) ∧
      ∀ content manifest, Manifest.parse (Utf8.encode content) = .ok manifest →
        computer.files.read options.manifest = .ok (Utf8.encode content) →
        (runFrom ((session peer source places).runResolve settings options) computer).1 =
          ((resolved.1.bind manifest.select).map fun _ => ()).mapError CommandFault.service := by
  intro resolved
  obtain ⟨ini, read, host⟩ := Settings.host_of_parse parses
  refine ⟨ini, read, ?_⟩
  intro fields release described
  have resolves : resolved = (source.describedOn (options.overrides settings) computer,
      computer) := source.runFrom_collect (options.overrides settings) computer
  have known : (options.overrides settings).operatingSystem = fields.overriding :=
    HostFields.operatingSystem_overrides options host
  have settles : ∀ detected : OperatingSystem,
      detected.overriddenBy (options.overrides settings).operatingSystem =
        fields.system detected := by
    rw [known]
    exact HostFields.overriddenBy_overriding options ini
  have cloud : (options.overrides settings).cloud =
      { instanceId := described "instance_id"
        instanceType := described "instance_type"
        region := described "region"
        availabilityZone := described "availability_zone" } := by
    unfold ResolveOptions.overrides
    rw [host]
    rfl
  rw [resolves]
  refine ⟨rfl, ?collected, ?selected⟩
  case collected =>
    rw [← cloud]
    by_cases isOpen : fields.AnyOpen
    · have partly : ¬ (options.overrides settings).operatingSystem.isComplete = true := by
        rw [known, HostFields.isComplete_overriding]
        exact not_not_intro isOpen
      have reading := source.describedOn_of_not_isComplete _ computer partly
      cases reads : release with
      | none =>
          rw [if_pos ⟨isOpen, rfl⟩]
          rw [show source.release? computer = none from reads] at reading
          exact reading
      | some content =>
          rw [if_neg fun unread => Option.some_ne_none content unread.2]
          rw [show source.release? computer = some content from reads] at reading
          dsimp only at reading
          rw [settles] at reading
          exact reading
    · have complete : (options.overrides settings).operatingSystem.isComplete = true := by
        rw [known, HostFields.isComplete_overriding]
        exact isOpen
      -- Every field has an override, so that nothing of the system shows, read or not.
      rw [if_neg fun both => isOpen both.1, source.describedOn_of_isComplete _ computer complete,
        settles, HostFields.system_of_not_anyOpen isOpen {}]
  case selected =>
    intro content manifest spelled holds
    rw [runFrom_runResolve peer source places spelled holds]
    rfl

/-- The settings name the platform, although in capitals, the option for the architecture wins over
them, and the option for the version is empty, so that the last line of the system's file counts. -/
theorem resolveHost_precedence_mixed :
    let places : Places := { home := ⟨"/home"⟩ }
    let text := "[host]\nplatform = Debian \nplatform_version = 5\narchitecture = x86_64\n"
    let settings : Settings :=
      { Settings.initial places with
        host := { platform := some "debian", platformVersion := some "5"
                  architecture := some "x86_64" } }
    let options : ResolveOptions :=
      { manifest := ⟨"/m"⟩, platformVersion := some "", architecture := some "arm64" }
    let release := "VERSION_ID=11\nID=ubuntu\n VERSION_ID=\"12\" \n"
    let computer : Computer := { files := .holding [(["etc"], .directory),
      (["etc", "os-release"], .file (Utf8.encode release))] }
    Settings.parse places text = .ok settings ∧
      (runFrom ((session Peer.absent {} places).resolveHost settings options) computer).1 =
        .ok { operatingSystem := ⟨"debian", "12", "arm64"⟩ } := by
  intro places text settings options release computer
  have parses : Settings.parse places text = .ok settings := by decide +kernel
  obtain ⟨ini, read, -, resolves, -⟩ :=
    resolveHost_precedence parses Peer.absent {} options computer
  let known : Ini := ⟨[{}, { name := some "host", entries := [("platform", "Debian"),
    ("platform_version", "5"), ("architecture", "x86_64")] }]⟩
  have reads : Ini.read text = .ok known := by decide +kernel
  obtain rfl : ini = known := Except.ok.inj (read.symm.trans reads)
  have readable : HostSource.release? {} computer = some release := by decide +kernel
  have identity : (HostFields.of options known).system (HostSource.detectedBy {} release) =
      ⟨"debian", "12", "arm64"⟩ := by decide +kernel
  refine ⟨parses, ?_⟩
  rw [readable, if_neg fun unread => Option.some_ne_none release unread.2, Option.getD_some,
    identity] at resolves
  exact resolves

end Session

end Courier
