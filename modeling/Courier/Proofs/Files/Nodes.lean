import Courier.Files.System
/-!
What the operations on a file system do to its nodes. A path is looked up through directories alone,
so it leads to the same place as long as no directory is lost. Main statement: a file that was made
can be filled, and then reading it gives exactly what it was filled with.
-/

namespace Courier.FileSystem

variable {system files : FileSystem}

theorem node?_of_ne_nil {place : Place} (named : place ≠ []) :
    system.node? place = system.nodes[place]? := by
  cases place with
  | nil => exact absurd rfl named
  | cons name rest => rfl

theorem node?_put_self {place : Place} (named : place ≠ []) (node : Node) :
    (system.put place node).node? place = some node := by
  rw [node?_of_ne_nil named, put, Std.ExtTreeMap.getElem?_insert_self]

theorem node?_put_of_ne {place other : Place} (differ : place ≠ other) (node : Node) :
    (system.put place node).node? other = system.node? other := by
  cases other with
  | nil => rfl
  | cons name rest =>
      have named := List.cons_ne_nil name rest
      rw [node?_of_ne_nil named, node?_of_ne_nil named, put, Std.ExtTreeMap.getElem?_insert,
        if_neg (by simpa using differ)]

theorem node?_erase_self {place : Place} (named : place ≠ []) :
    (system.erase place).node? place = none := by
  rw [node?_of_ne_nil named, erase, Std.ExtTreeMap.getElem?_erase_self]

theorem node?_erase_of_ne {place other : Place} (differ : place ≠ other) :
    (system.erase place).node? other = system.node? other := by
  cases other with
  | nil => rfl
  | cons name rest =>
      have named := List.cons_ne_nil name rest
      rw [node?_of_ne_nil named, node?_of_ne_nil named, erase, Std.ExtTreeMap.getElem?_erase,
        if_neg (by simpa using differ)]

/-- A file system that has the directories of another one, and perhaps more. -/
structure KeepsDirectories (before after : FileSystem) : Prop where
  directories : ∀ place, before.node? place = some .directory →
    after.node? place = some .directory
  start : after.workingDirectory = before.workingDirectory

theorem KeepsDirectories.refl (system : FileSystem) : KeepsDirectories system system :=
  ⟨fun _ directory => directory, rfl⟩

theorem KeepsDirectories.trans {first second third : FileSystem}
    (early : KeepsDirectories first second) (late : KeepsDirectories second third) :
    KeepsDirectories first third :=
  ⟨fun place directory => late.directories place (early.directories place directory),
    late.start.trans early.start⟩

theorem keepsDirectories_of_others {before after : FileSystem} {place : Place}
    (plain : before.node? place ≠ some .directory)
    (others : ∀ other, place ≠ other → after.node? other = before.node? other)
    (start : after.workingDirectory = before.workingDirectory) :
    KeepsDirectories before after := by
  refine ⟨?_, start⟩
  intro other directory
  have differ : place ≠ other := by
    intro same
    rw [same] at plain
    exact plain directory
  rw [others other differ]
  exact directory

theorem keepsDirectories_put {place : Place} (plain : system.node? place ≠ some .directory)
    (node : Node) : KeepsDirectories system (system.put place node) :=
  keepsDirectories_of_others plain (fun _ differ => node?_put_of_ne differ node) rfl

theorem keepsDirectories_erase {place : Place} (plain : system.node? place ≠ some .directory) :
    KeepsDirectories system (system.erase place) :=
  keepsDirectories_of_others plain (fun _ differ => node?_erase_of_ne differ) rfl

theorem keepsDirectories_of_put {place : Place} (named : place ≠ []) (content : Bytes) :
    KeepsDirectories (system.put place (.file content)) system := by
  refine keepsDirectories_of_others ?_ (fun _ differ => (node?_put_of_ne differ _).symm) rfl
  rw [node?_put_self named]
  intro directory
  cases directory

theorem keepsDirectories_of_erase {place : Place} (named : place ≠ []) :
    KeepsDirectories (system.erase place) system := by
  refine keepsDirectories_of_others ?_ (fun _ differ => (node?_erase_of_ne differ).symm) rfl
  rw [node?_erase_self named]
  intro directory
  cases directory

theorem directory_of_step {place next : Place} {piece : List Char}
    (leads : system.step place piece = .ok next) : system.node? place = some .directory := by
  unfold step at leads
  split at leads
  · cases leads
  · cases leads
  · assumption

theorem stepUp_of_directory {place : Place}
    (directory : system.node? place.dropLast = some .directory) :
    system.stepUp place = .ok place.dropLast := by
  rw [stepUp, directory]

theorem stepUp_eq_ok {place next : Place} (leads : system.stepUp place = .ok next) :
    next = place.dropLast ∧ system.node? place.dropLast = some .directory := by
  unfold stepUp at leads
  split at leads
  · cases leads
  · cases leads
  · next directory => exact ⟨(Except.ok.inj leads).symm, directory⟩

theorem step_up {place : Place} (directory : system.node? place = some .directory) :
    system.step place ['.', '.'] = system.stepUp place := by
  rw [step, directory]
  rfl

theorem step_congr {before after : FileSystem} {place : Place} {piece : List Char}
    (down : piece ≠ ['.', '.']) (same : before.node? place = after.node? place) :
    before.step place piece = after.step place piece := by
  have other : (piece == ['.', '.']) = false := by simpa using down
  unfold step
  rw [same]
  simp only [other, Bool.false_eq_true, if_false]

theorem KeepsDirectories.stepUp {before after : FileSystem} (keeps : KeepsDirectories before after)
    {place next : Place} (leads : before.stepUp place = .ok next) :
    after.stepUp place = .ok next := by
  obtain ⟨rfl, directory⟩ := stepUp_eq_ok leads
  exact stepUp_of_directory (keeps.directories _ directory)

theorem KeepsDirectories.step {before after : FileSystem} (keeps : KeepsDirectories before after)
    {place next : Place} {piece : List Char} (leads : before.step place piece = .ok next) :
    after.step place piece = .ok next := by
  have directory := directory_of_step leads
  have still := keeps.directories place directory
  by_cases up : piece = ['.', '.']
  · subst up
    rw [step_up directory] at leads
    rw [step_up still]
    exact keeps.stepUp leads
  · rw [← step_congr up (directory.trans still.symm)]
    exact leads

theorem KeepsDirectories.walk {before after : FileSystem} (keeps : KeepsDirectories before after)
    {place last : Place} {pieces : List (List Char)}
    (leads : pieces.foldlM before.step place = .ok last) :
    pieces.foldlM after.step place = .ok last := by
  induction pieces generalizing place with
  | nil => exact leads
  | cons piece rest ih =>
      rw [List.foldlM_cons] at leads ⊢
      cases first : before.step place piece with
      | error fault =>
          rw [first] at leads
          cases leads
      | ok next =>
          rw [first] at leads
          rw [keeps.step first]
          exact ih leads

theorem locate_eq_ok_iff {text : List Char} {place : Place} :
    system.locate text = .ok place ↔
      '\x00' ∉ text ∧ text ≠ [] ∧ (String.ofList text).utf8ByteSize < pathLimit ∧
        (Text.pieces (· == '/') text).foldlM system.step
          (if text.head? == some '/' then [] else system.workingDirectory) = .ok place := by
  unfold locate
  by_cases dirty : '\x00' ∈ text
  · simp [dirty]
  · by_cases empty : text = []
    · simp [empty]
    · by_cases long : pathLimit ≤ (String.ofList text).utf8ByteSize
      · simp [dirty, empty, long, Nat.not_lt.mpr long]
      · simp [dirty, empty, long, Nat.lt_of_not_le long]

theorem KeepsDirectories.locate {before after : FileSystem} (keeps : KeepsDirectories before after)
    {text : List Char} {place : Place} (leads : before.locate text = .ok place) :
    after.locate text = .ok place := by
  rw [locate_eq_ok_iff] at leads ⊢
  obtain ⟨clean, filled, short, walks⟩ := leads
  rw [keeps.start]
  exact ⟨clean, filled, short, keeps.walk walks⟩

/-! ### Files -/

theorem withoutSlashes_of_getLast? {path : Path}
    (bare : path.text.toList.getLast? ≠ some '/') : withoutSlashes path = path.text.toList := by
  have same : Text.dropBack (· == '/') path.text.toList = path.text.toList := by
    unfold Text.dropBack
    rw [Text.dropWhile_eq_self, List.reverse_reverse]
    intro char found
    rw [List.head?_reverse] at found
    by_cases slash : char = '/'
    · rw [slash] at found
      exact absurd found bare
    · simpa using slash
  unfold withoutSlashes
  rw [same]
  split
  · next empty => rw [empty]; rfl
  · rfl

theorem find_of_locate {path : Path} {place : Place} {node : Node}
    (leads : system.locate path.text.toList = .ok place) (there : system.node? place = some node) :
    system.find path = .ok node := by
  unfold find
  simp only [leads, bind, Except.bind, there]
  rfl

theorem read_of_locate {path : Path} {place : Place} {content : Bytes}
    (leads : system.locate path.text.toList = .ok place)
    (there : system.node? place = some (.file content)) : system.read path = .ok content := by
  unfold read
  rw [find_of_locate leads there]
  rfl

theorem read_eq_ok {path : Path} {content : Bytes} (reads : system.read path = .ok content) :
    ∃ place, system.locate path.text.toList = .ok place ∧ place ≠ [] ∧
      system.node? place = some (.file content) := by
  unfold read find at reads
  cases leads : system.locate path.text.toList with
  | error fault =>
      rw [leads] at reads
      cases reads
  | ok place =>
      simp only [leads, bind, Except.bind] at reads
      cases there : system.node? place with
      | none =>
          rw [there] at reads
          cases reads
      | some node =>
          rw [there] at reads
          cases node with
          | directory => cases reads
          | file held =>
              cases reads
              refine ⟨place, rfl, ?_, there⟩
              intro root
              rw [root] at there
              cases there

theorem present_of_read {path : Path} {content : Bytes} (reads : system.read path = .ok content) :
    system.present path = true := by
  obtain ⟨place, leads, -, there⟩ := read_eq_ok reads
  unfold present
  rw [find_of_locate leads there]
  rfl

theorem find_of_free {path : Path} {place : Place}
    (leads : system.locate path.text.toList = .ok place) (free : system.node? place = none) :
    system.find path = .error .noEntry := by
  unfold find
  simp only [leads, bind, Except.bind, free]
  rfl

theorem create_of_locate {path : Path} {place : Place}
    (bare : path.text.toList.getLast? ≠ some '/')
    (leads : system.locate path.text.toList = .ok place)
    (plain : system.node? place ≠ some .directory) :
    system.create path = .ok (system.put place (.file [])) := by
  unfold create
  rw [withoutSlashes_of_getLast? bare, leads]
  simp only [beq_iff_eq, bare, if_false, bind, Except.bind, pure, Except.pure]

theorem rename_of_locate {source target : Path} {origin place : Place} {content : Bytes}
    (leads : system.locate source.text.toList = .ok origin)
    (leadsOn : system.locate target.text.toList = .ok place)
    (there : system.node? origin = some (.file content))
    (plain : system.node? place ≠ some .directory) :
    system.rename source target = .ok ((system.erase origin).put place (.file content)) := by
  unfold rename
  simp only [leads, leadsOn, bind, Except.bind, there]
  cases taken : system.node? place with
  | none => rfl
  | some node =>
      cases node with
      | file content => rfl
      | directory => exact absurd taken plain

theorem append_of_locate {path : Path} {place : Place} {content : Bytes}
    (leads : system.locate path.text.toList = .ok place)
    (there : system.node? place = some (.file content)) (bytes : Bytes) :
    system.append path bytes = .ok (system.put place (.file (content ++ bytes))) := by
  unfold append
  simp only [leads, bind, Except.bind, there]
  rfl

theorem create_eq_ok {path : Path} (created : system.create path = .ok files) :
    ∃ place, system.locate path.text.toList = .ok place ∧ place ≠ [] ∧
      system.node? place ≠ some .directory ∧ files = system.put place (.file []) := by
  unfold create at created
  by_cases slash : path.text.toList.getLast? = some '/'
  · cases leads : system.locate (withoutSlashes path) with
    | error fault =>
        rw [leads] at created
        cases created
    | ok place =>
        rw [leads] at created
        simp [slash] at created
        cases created
  · rw [withoutSlashes_of_getLast? slash] at created
    cases leads : system.locate path.text.toList with
    | error fault =>
        rw [leads] at created
        cases created
    | ok place =>
        simp only [leads, beq_iff_eq, slash, if_false, bind, Except.bind, pure, Except.pure]
          at created
        split at created
        · cases created
        · next free =>
          refine ⟨place, rfl, ?_, free, (Except.ok.inj created).symm⟩
          intro root
          rw [root] at free
          exact free rfl

theorem append_eq_ok {path : Path} {bytes : Bytes}
    (appended : system.append path bytes = .ok files) :
    ∃ place content, system.locate path.text.toList = .ok place ∧
      system.node? place = some (.file content) ∧
      files = system.put place (.file (content ++ bytes)) := by
  unfold append at appended
  cases leads : system.locate path.text.toList with
  | error fault =>
      rw [leads] at appended
      cases appended
  | ok place =>
      simp only [leads, bind, Except.bind] at appended
      split at appended
      · next content there => exact ⟨place, content, rfl, there, (Except.ok.inj appended).symm⟩
      · cases appended
      · cases appended

theorem remove_eq_ok {path : Path} (removed : system.remove path = .ok files) :
    ∃ place content, system.locate path.text.toList = .ok place ∧
      system.node? place = some (.file content) ∧ files = system.erase place := by
  unfold remove at removed
  cases leads : system.locate path.text.toList with
  | error fault =>
      rw [leads] at removed
      cases removed
  | ok place =>
      simp only [leads, bind, Except.bind] at removed
      split at removed
      · cases removed
      · cases removed
      · next content there => exact ⟨place, content, rfl, there, (Except.ok.inj removed).symm⟩

theorem rename_eq_ok {source target : Path} (renamed : system.rename source target = .ok files) :
    ∃ origin place content, system.locate source.text.toList = .ok origin ∧
      system.locate target.text.toList = .ok place ∧
      system.node? origin = some (.file content) ∧ system.node? place ≠ some .directory ∧
      files = (system.erase origin).put place (.file content) := by
  unfold rename at renamed
  cases leads : system.locate source.text.toList with
  | error fault =>
      rw [leads] at renamed
      cases renamed
  | ok origin =>
      cases leadsOn : system.locate target.text.toList with
      | error fault =>
          rw [leads, leadsOn] at renamed
          cases renamed
      | ok place =>
          simp only [leads, leadsOn, bind, Except.bind] at renamed
          split at renamed
          · cases renamed
          · cases renamed
          · cases renamed
          · next content there free =>
              exact ⟨origin, place, content, rfl, rfl, there, free, (Except.ok.inj renamed).symm⟩

theorem read_of_create {path : Path} (created : system.create path = .ok files) :
    files.read path = .ok [] := by
  obtain ⟨place, leads, named, free, rfl⟩ := create_eq_ok created
  exact read_of_locate ((keepsDirectories_put free _).locate leads) (node?_put_self named _)

theorem read_of_create_other {path other : Path} {content : Bytes}
    (reads : system.read path = .ok content) (created : system.create other = .ok files) :
    files.read path = .ok content ∨ files.read path = .ok [] := by
  obtain ⟨place, leads, named, there⟩ := read_eq_ok reads
  obtain ⟨made, -, -, plain, rfl⟩ := create_eq_ok created
  have leadsStill := (keepsDirectories_put plain (.file [])).locate leads
  by_cases same : made = place
  · right
    subst same
    exact read_of_locate leadsStill (node?_put_self named _)
  · left
    exact read_of_locate leadsStill ((node?_put_of_ne same _).trans there)

theorem read_of_append {path : Path} {content bytes : Bytes}
    (reads : system.read path = .ok content) (appended : system.append path bytes = .ok files) :
    files.read path = .ok (content ++ bytes) := by
  obtain ⟨place, leads, named, there⟩ := read_eq_ok reads
  rw [append_of_locate leads there] at appended
  obtain rfl := Except.ok.inj appended
  have plain : system.node? place ≠ some .directory := by
    rw [there]
    simp
  exact read_of_locate ((keepsDirectories_put plain _).locate leads) (node?_put_self named _)

theorem append_read_of_create {path : Path} (created : system.create path = .ok files)
    (bytes : Bytes) :
    ∃ filled, files.append path bytes = .ok filled ∧ filled.read path = .ok bytes := by
  have empty := read_of_create created
  obtain ⟨place, leads, -, there⟩ := read_eq_ok empty
  have appended := append_of_locate leads there bytes
  exact ⟨_, appended, read_of_append empty appended⟩

theorem read_of_remove {path : Path} {content : Bytes} (reads : system.read path = .ok content) :
    ∃ left, system.remove path = .ok left ∧ left.read path = .error .noEntry := by
  obtain ⟨place, leads, named, there⟩ := read_eq_ok reads
  refine ⟨system.erase place, ?_, ?_⟩
  · unfold remove
    simp only [leads, bind, Except.bind, there]
    rfl
  · have plain : system.node? place ≠ some .directory := by
      rw [there]
      simp
    have leadsStill := (keepsDirectories_erase plain).locate leads
    unfold read find
    simp only [leadsStill, bind, Except.bind, node?_erase_self named]
    rfl

end Courier.FileSystem
