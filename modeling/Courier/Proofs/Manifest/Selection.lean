import Courier.Host.Basic
import Courier.Manifest.Selector
/-!
Selection of a variant, level by level. A host takes one entry of each level, its own or the
wildcard's, and goes on inside it. Main statement: where this walk ends is the outcome of the
selection, and an edit of the tree changes the outcome of no host that passes by what it edits.
-/

namespace Courier

variable {α β : Type}

/-- The entry that a value takes at a level: its own, or that of the wildcard where it has none. -/
inductive Takes (level : Table α) (value : String) (entry : α) : Prop where
  | own (listed : level[value]? = some entry)
  | wildcard (unlisted : value ∉ level) (listed : level[anySelector]? = some entry)

/-- A level that has nothing for a value. -/
def Lacks (level : Table α) (value : String) : Prop :=
  value ∉ level ∧ anySelector ∉ level

theorem mem_of_matchKey? {value key : String} {level : Table α}
    (matched : matchKey? value level = some key) : key ∈ level := by
  unfold matchKey? at matched
  split at matched
  case isTrue listed => cases matched; exact listed
  case isFalse =>
      split at matched
      case isTrue listed => cases matched; exact listed
      case isFalse => cases matched

theorem not_mem_iff {key : String} {level : Table α} : key ∉ level ↔ level[key]? = none := by
  simp only [Std.ExtTreeMap.mem_iff_isSome_getElem?, Bool.not_eq_true, Option.isSome_eq_false_iff,
    Option.isNone_iff_eq_none]

theorem choose?_eq_or (value : String) (level : Table α) :
    choose? value level = level[value]?.or level[anySelector]? := by
  unfold choose? matchKey?
  by_cases own : value ∈ level
  · simp [own]
  · by_cases wildcard : anySelector ∈ level
    · simp [own, wildcard]
    · simp [own, wildcard]

theorem choose?_of_takes {value : String} {level : Table α} {entry : α}
    (takes : Takes level value entry) : choose? value level = some entry := by
  rw [choose?_eq_or]
  cases takes with
  | own listed => rw [listed, Option.some_or]
  | wildcard unlisted listed => rw [not_mem_iff.mp unlisted, Option.none_or, listed]

theorem choose?_of_lacks {value : String} {level : Table α} (lacks : Lacks level value) :
    choose? value level = none := by
  rw [choose?_eq_or, not_mem_iff.mp lacks.1, not_mem_iff.mp lacks.2, Option.none_or]

theorem takes_or_lacks (level : Table α) (value : String) :
    (∃ entry, Takes level value entry) ∨ Lacks level value := by
  cases own : level[value]? with
  | some entry => exact .inl ⟨entry, .own own⟩
  | none =>
      cases wildcard : level[anySelector]? with
      | some entry => exact .inl ⟨entry, .wildcard (not_mem_iff.mpr own) wildcard⟩
      | none => exact .inr ⟨not_mem_iff.mpr own, not_mem_iff.mpr wildcard⟩

/-- Where a host gets in a selector tree: to a variant, or to the first level that has nothing for
it. Nothing that a level was left for is ever returned to. -/
inductive Walk (tree : SelectorTree) (host : OperatingSystem) :
    Except SelectorLevel PackageVariant → Prop where
  | noPlatform (lacks : Lacks tree host.platform) : Walk tree host (.error .platform)
  | noPlatformVersion {versions : Table (Table PackageVariant)}
      (platform : Takes tree host.platform versions)
      (lacks : Lacks versions host.platformVersion) : Walk tree host (.error .platformVersion)
  | noArchitecture {versions : Table (Table PackageVariant)} {architectures : Table PackageVariant}
      (platform : Takes tree host.platform versions)
      (platformVersion : Takes versions host.platformVersion architectures)
      (lacks : Lacks architectures host.architecture) : Walk tree host (.error .architecture)
  | arrives {versions : Table (Table PackageVariant)} {architectures : Table PackageVariant}
      {variant : PackageVariant}
      (platform : Takes tree host.platform versions)
      (platformVersion : Takes versions host.platformVersion architectures)
      (architecture : Takes architectures host.architecture variant) : Walk tree host (.ok variant)

theorem Walk.total (tree : SelectorTree) (host : OperatingSystem) :
    ∃ ending, Walk tree host ending := by
  obtain ⟨versions, platform⟩ | lacks := takes_or_lacks tree host.platform
  case inr => exact ⟨_, .noPlatform lacks⟩
  obtain ⟨architectures, platformVersion⟩ | lacks := takes_or_lacks versions host.platformVersion
  case inr => exact ⟨_, .noPlatformVersion platform lacks⟩
  obtain ⟨variant, architecture⟩ | lacks := takes_or_lacks architectures host.architecture
  case inr => exact ⟨_, .noArchitecture platform platformVersion lacks⟩
  exact ⟨_, .arrives platform platformVersion architecture⟩

def Manifest.variantFor (manifest : Manifest) (host : OperatingSystem) :
    Except Failure PackageVariant :=
  manifest.resolveVariant host.platform host.platformVersion host.architecture

def OperatingSystem.noMatch (host : OperatingSystem) (level : SelectorLevel) : Failure :=
  .noMatch host.platform host.platformVersion host.architecture level

theorem Walk.variantFor {manifest : Manifest} {host : OperatingSystem}
    {ending : Except SelectorLevel PackageVariant} (walk : Walk manifest.packages host ending) :
    manifest.variantFor host = ending.mapError host.noMatch := by
  cases walk with
  | noPlatform lacks =>
      simp only [Manifest.variantFor, Manifest.resolveVariant, choose?_of_lacks lacks]
      rfl
  | noPlatformVersion platform lacks =>
      simp only [Manifest.variantFor, Manifest.resolveVariant, choose?_of_takes platform,
        choose?_of_lacks lacks]
      rfl
  | noArchitecture platform platformVersion lacks =>
      simp only [Manifest.variantFor, Manifest.resolveVariant, choose?_of_takes platform,
        choose?_of_takes platformVersion, choose?_of_lacks lacks]
      rfl
  | arrives platform platformVersion architecture =>
      simp only [Manifest.variantFor, Manifest.resolveVariant, choose?_of_takes platform,
        choose?_of_takes platformVersion, choose?_of_takes architecture]
      rfl

theorem Manifest.variantFor_eq_ok_iff (manifest : Manifest) (host : OperatingSystem)
    (variant : PackageVariant) :
    manifest.variantFor host = .ok variant ↔ Walk manifest.packages host (.ok variant) := by
  constructor
  · intro resolved
    obtain ⟨ending, walk⟩ := Walk.total manifest.packages host
    have outcome := walk.variantFor
    rw [resolved] at outcome
    cases ending with
    | error level => cases outcome
    | ok reached => cases outcome; exact walk
  · exact Walk.variantFor

theorem Manifest.variantFor_eq_error_iff (manifest : Manifest) (host : OperatingSystem)
    (failure : Failure) :
    manifest.variantFor host = .error failure ↔
      ∃ level, failure = host.noMatch level ∧ Walk manifest.packages host (.error level) := by
  constructor
  · intro unresolved
    obtain ⟨ending, walk⟩ := Walk.total manifest.packages host
    have outcome := walk.variantFor
    rw [unresolved] at outcome
    cases ending with
    | error level => cases outcome; exact ⟨level, rfl, walk⟩
    | ok reached => cases outcome
  · rintro ⟨level, rfl, walk⟩
    exact walk.variantFor

/-- What a host finds at each level, as far as it gets. -/
def reach (host : OperatingSystem) (tree : SelectorTree) :
    Option (Option (Option PackageVariant)) :=
  (choose? host.platform tree).map fun versions =>
    (choose? host.platformVersion versions).map (choose? host.architecture)

theorem Manifest.variantFor_congr {manifest other : Manifest} {host : OperatingSystem}
    (same : reach host other.packages = reach host manifest.packages) :
    other.variantFor host = manifest.variantFor host := by
  have decided (manifest : Manifest) : manifest.variantFor host =
      match reach host manifest.packages with
      | none => .error (host.noMatch .platform)
      | some none => .error (host.noMatch .platformVersion)
      | some (some none) => .error (host.noMatch .architecture)
      | some (some (some variant)) => .ok variant := by
    unfold Manifest.variantFor Manifest.resolveVariant reach
    cases choose? host.platform manifest.packages with
    | none => rfl
    | some versions =>
        simp only [Option.map_some]
        cases choose? host.platformVersion versions with
        | none => rfl
        | some architectures =>
            simp only [Option.map_some]
            cases choose? host.architecture architectures <;> rfl
  rw [decided, decided, same]

section Level

variable {level : Table α} {value key : String}

theorem choose?_alter {change : Option α → Option α} (another : value ≠ key)
    (listed : key = anySelector → value ∈ level) :
    choose? value (level.alter key change) = choose? value level := by
  have own : (level.alter key change)[value]? = level[value]? := by
    simp [Std.ExtTreeMap.getElem?_alter, another.symm]
  rw [choose?_eq_or, choose?_eq_or, own]
  by_cases wildcard : key = anySelector
  · -- The wildcard is not looked at: the value is listed itself.
    obtain ⟨entry, found⟩ := Option.isSome_iff_exists.mp
      (Std.ExtTreeMap.mem_iff_isSome_getElem?.mp (listed wildcard))
    rw [found, Option.some_or, Option.some_or]
  · simp [Std.ExtTreeMap.getElem?_alter, wildcard]

theorem map_choose?_modify {change : α → α} {view : α → β}
    (unseen : ∀ entry, level[key]? = some entry → view (change entry) = view entry) :
    (choose? value (level.modify key change)).map view = (choose? value level).map view := by
  have entries (name : String) :
      (level.modify key change)[name]?.map view = level[name]?.map view := by
    rw [Std.ExtTreeMap.getElem?_modify]
    split
    case isTrue same =>
        obtain rfl := Std.LawfulEqCmp.eq_of_compare same
        cases listed : level[key]? with
        | none => rfl
        | some entry => simp [unseen entry listed]
    case isFalse => rfl
  simp only [choose?_eq_or, Option.map_or, entries]

end Level

/-- An edit of what lies below one key: it is put there, taken away or replaced. The keys above it
say in which subtree. -/
inductive Edit where
  | platform (key : String)
      (change : Option (Table (Table PackageVariant)) → Option (Table (Table PackageVariant)))
  | platformVersion (above key : String)
      (change : Option (Table PackageVariant) → Option (Table PackageVariant))
  | architecture (top above key : String) (change : Option PackageVariant → Option PackageVariant)

namespace Edit

def level : Edit → SelectorLevel
  | .platform .. => .platform
  | .platformVersion .. => .platformVersion
  | .architecture .. => .architecture

def key : Edit → String
  | .platform key _ => key
  | .platformVersion _ key _ => key
  | .architecture _ _ key _ => key

def apply (tree : SelectorTree) : Edit → SelectorTree
  | .platform key change => tree.alter key change
  | .platformVersion above key change =>
    tree.modify above fun versions => versions.alter key change
  | .architecture top above key change =>
    tree.modify top fun versions =>
      versions.modify above fun architectures => architectures.alter key change

/-- A value is a key at the level of an edit, in the subtree that is edited. -/
def Lists (tree : SelectorTree) (value : String) : Edit → Prop
  | .platform _ _ => value ∈ tree
  | .platformVersion above _ _ => ∃ versions, tree[above]? = some versions ∧ value ∈ versions
  | .architecture top above _ _ =>
    ∃ versions, tree[top]? = some versions ∧
      ∃ architectures, versions[above]? = some architectures ∧ value ∈ architectures

end Edit

def OperatingSystem.value (host : OperatingSystem) : SelectorLevel → String
  | .platform => host.platform
  | .platformVersion => host.platformVersion
  | .architecture => host.architecture

namespace Edit

/-- A host that an edit is none of the business of: its own value is another one, and is listed
itself where the edit is of the wildcard. -/
def Spares (host : OperatingSystem) (tree : SelectorTree) (edit : Edit) : Prop :=
  host.value edit.level ≠ edit.key ∧
    (edit.key = anySelector → edit.Lists tree (host.value edit.level))

theorem reach_apply {host : OperatingSystem} {tree : SelectorTree} {edit : Edit}
    (spares : edit.Spares host tree) : reach host (edit.apply tree) = reach host tree := by
  obtain ⟨another, listed⟩ := spares
  cases edit with
  | platform key change =>
      exact congrArg (Option.map _) (choose?_alter another listed)
  | platformVersion above key change =>
      refine map_choose?_modify fun versions found => ?_
      refine congrArg (Option.map _) (choose?_alter another ?_)
      intro wildcard
      obtain ⟨_, again, member⟩ := listed wildcard
      cases found.symm.trans again
      exact member
  | architecture top above key change =>
      refine map_choose?_modify fun versions found => ?_
      refine map_choose?_modify fun architectures inside => ?_
      refine choose?_alter another ?_
      intro wildcard
      obtain ⟨_, again, _, insideAgain, member⟩ := listed wildcard
      cases found.symm.trans again
      cases inside.symm.trans insideAgain
      exact member

def applyAll (tree : SelectorTree) (edits : List Edit) : SelectorTree :=
  edits.foldl apply tree

/-- Each edit in turn spares the host in the tree that it is made in. -/
def AllSpare (host : OperatingSystem) : SelectorTree → List Edit → Prop
  | _, [] => True
  | tree, edit :: rest => edit.Spares host tree ∧ AllSpare host (edit.apply tree) rest

theorem reach_applyAll {host : OperatingSystem} {tree : SelectorTree} {edits : List Edit}
    (spare : AllSpare host tree edits) : reach host (applyAll tree edits) = reach host tree := by
  -- Each edit finds the tree that the edits before it leave, and spares the host there.
  induction edits generalizing tree with
  | nil => rfl
  | cons edit rest ih => exact (ih spare.2).trans (reach_apply spare.1)

end Edit

/-- The outcome of a selection is where the walk of the host ends, no level is ever asked for a key
that it does not have, and edits that spare the host leave its outcome as it is. -/
theorem Manifest.variantFor_local (manifest : Manifest) (host : OperatingSystem) :
    (∀ variant,
      manifest.variantFor host = .ok variant ↔ Walk manifest.packages host (.ok variant)) ∧
    (∀ failure,
      manifest.variantFor host = .error failure ↔
        ∃ level, failure = host.noMatch level ∧ Walk manifest.packages host (.error level)) ∧
    (∀ (α : Type) (level : Table α) (value key : String),
      matchKey? value level = some key → key ∈ level) ∧
    ∀ (edits : List Edit) (other : Manifest),
      Edit.AllSpare host manifest.packages edits →
      other.packages = Edit.applyAll manifest.packages edits →
        other.variantFor host = manifest.variantFor host := by
  refine ⟨manifest.variantFor_eq_ok_iff host, manifest.variantFor_eq_error_iff host,
    fun _ _ _ _ => mem_of_matchKey?, fun edits other spare edited => ?_⟩
  refine Manifest.variantFor_congr ?_
  rw [edited]
  exact Edit.reach_applyAll spare

/-- A host that only the wildcard has an architecture for. Neither its neighbours nor the wildcards
that it goes past are its business. -/
theorem Manifest.variantFor_local_past_wildcards :
    let variant : PackageVariant := { fileName := "pkg.zip" }
    let architectures : Table PackageVariant := .ofList [(anySelector, variant)]
    let versions : Table (Table PackageVariant) := .ofList [("5.0", architectures)]
    let manifest : Manifest := { packages := .ofList [("linux", versions)] }
    let host : OperatingSystem := ⟨"linux", "5.0", "x86_64"⟩
    let edits : List Edit :=
      [.platform anySelector fun _ => some ∅, .platform "windows" fun _ => some versions,
        .platformVersion "linux" anySelector fun _ => some ∅,
        .architecture "linux" "5.0" "arm64" fun _ => some {}]
    Edit.AllSpare host manifest.packages edits ∧
    Edit.applyAll manifest.packages edits ≠ manifest.packages ∧
    Walk manifest.packages host (.ok variant) ∧
    ({ packages := Edit.applyAll manifest.packages edits } : Manifest).variantFor host =
      .ok variant := by
  intro variant architectures versions manifest host edits
  have spare : Edit.AllSpare host manifest.packages edits := by
    refine ⟨⟨by decide, fun _ => (by decide +kernel : "linux" ∈ manifest.packages)⟩,
      ⟨by decide, fun wildcard => absurd wildcard (by decide)⟩,
      ⟨by decide, fun _ => ⟨versions, by decide +kernel, by decide +kernel⟩⟩,
      ⟨by decide, fun wildcard => absurd wildcard (by decide)⟩, trivial⟩
  have walk : Walk manifest.packages host (.ok variant) :=
    .arrives (.own (by decide +kernel : manifest.packages["linux"]? = some versions))
      (.own (by decide +kernel : versions["5.0"]? = some architectures))
      (.wildcard (by decide +kernel) (by decide +kernel))
  obtain ⟨walks, -, -, unchanged⟩ := manifest.variantFor_local host
  exact ⟨spare, by decide +kernel, walk,
    (unchanged edits _ spare rfl).trans ((walks variant).mpr walk)⟩

end Courier
