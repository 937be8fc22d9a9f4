import Courier.Proofs.Files.Access
import Courier.Proofs.Files.Paths
/-!
The making of directories. A directory is made with those above it that are missing, and nothing
that was there is lost or changed, so that a path that can be followed afterwards could be followed
before up to a place where something was missing. Main statements: what was made is a directory, and
a path through it was not blocked before.
-/

namespace Courier

open Computer

namespace FileSystem

variable {system : FileSystem}

/-- A file system that has all that another one has, and perhaps more. -/
structure Adds (before after : FileSystem) : Prop where
  nodes : ∀ place, before.node? place = after.node? place ∨ before.node? place = none
  start : after.workingDirectory = before.workingDirectory

theorem Adds.refl (system : FileSystem) : Adds system system :=
  ⟨fun _ => .inl rfl, rfl⟩

theorem Adds.trans {first second third : FileSystem} (early : Adds first second)
    (late : Adds second third) : Adds first third := by
  refine ⟨?_, late.start.trans early.start⟩
  intro place
  rcases early.nodes place with same | free
  · rw [same]
    exact late.nodes place
  · exact .inr free

theorem adds_put {place : Place} (free : system.node? place = none) (node : Node) :
    Adds system (system.put place node) := by
  refine ⟨?_, rfl⟩
  intro other
  by_cases same : place = other
  · subst same
    exact .inr free
  · exact .inl (node?_put_of_ne same node).symm

theorem Adds.keepsDirectories {before after : FileSystem} (adds : Adds before after) :
    KeepsDirectories before after := by
  refine ⟨?_, adds.start⟩
  intro place directory
  rcases adds.nodes place with same | free
  · rw [← same]
    exact directory
  · rw [free] at directory
    cases directory

theorem Adds.read {before after : FileSystem} (adds : Adds before after) {path : Path}
    {content : Bytes} (reads : before.read path = .ok content) :
    after.read path = .ok content := by
  obtain ⟨place, leads, -, there⟩ := read_eq_ok reads
  refine read_of_locate (adds.keepsDirectories.locate leads) ?_
  rcases adds.nodes place with same | free
  · rw [← same]
    exact there
  · rw [free] at there
    cases there

theorem Adds.stepUp {before after : FileSystem} (adds : Adds before after) {place next : Place}
    (leads : after.stepUp place = .ok next) :
    before.stepUp place = .ok next ∨ before.stepUp place = .error .noEntry := by
  obtain ⟨rfl, directory⟩ := stepUp_eq_ok leads
  rcases adds.nodes place.dropLast with same | free
  · exact .inl (stepUp_of_directory (same.trans directory))
  · right
    rw [FileSystem.stepUp, free]

theorem Adds.step {before after : FileSystem} (adds : Adds before after) {place next : Place}
    {piece : List Char} (leads : after.step place piece = .ok next) :
    before.step place piece = .ok next ∨ before.step place piece = .error .noEntry := by
  rcases adds.nodes place with same | free
  · have directory := directory_of_step leads
    by_cases up : piece = ['.', '.']
    · subst up
      rw [step_up directory] at leads
      rw [step_up (same.trans directory)]
      exact adds.stepUp leads
    · exact .inl ((step_congr up same).trans leads)
  · exact .inr (step_of_free free piece)

theorem Adds.walk {before after : FileSystem} (adds : Adds before after) {place last : Place}
    {pieces : List (List Char)} (leads : pieces.foldlM after.step place = .ok last) :
    pieces.foldlM before.step place = .ok last ∨
      pieces.foldlM before.step place = .error .noEntry := by
  induction pieces generalizing place with
  | nil => exact .inl leads
  | cons piece rest ih =>
      rw [List.foldlM_cons] at leads ⊢
      cases first : after.step place piece with
      | error fault =>
          rw [first] at leads
          cases leads
      | ok next =>
          rw [first] at leads
          rcases adds.step first with led | missing
          · rw [led]
            exact ih leads
          · right
            rw [missing]
            rfl

theorem Adds.reaches {before after : FileSystem} (adds : Adds before after) {base : Path}
    {place : Place} (leads : after.enter base = .ok place) : Reaches before base place := by
  unfold Reaches
  unfold FileSystem.enter at leads ⊢
  rw [adds.start] at leads
  split at leads
  · cases leads
  · next clean =>
      rw [if_neg clean]
      exact adds.walk leads

theorem isDirectory_of_locate {path : Path} {place : Place}
    (leads : system.locate path.text.toList = .ok place)
    (there : system.node? place = some .directory) : system.isDirectory path = true := by
  unfold isDirectory
  rw [find_of_locate leads there]

theorem node?_of_isDirectory {path : Path} {place : Place}
    (leads : system.locate path.text.toList = .ok place)
    (directory : system.isDirectory path = true) : system.node? place = some .directory := by
  unfold isDirectory find at directory
  simp only [leads, bind, Except.bind] at directory
  cases there : system.node? place with
  | none =>
      rw [there] at directory
      cases directory
  | some node =>
      rw [there] at directory
      cases node with
      | file content => cases directory
      | directory => rfl

theorem makeDirectory_eq_ok {path : Path} {files : FileSystem}
    (made : system.makeDirectory path = .ok files) :
    ∃ place, system.locate (withoutSlashes path) = .ok place ∧ system.node? place = none ∧
      files = system.put place .directory := by
  unfold makeDirectory at made
  cases leads : system.locate (withoutSlashes path) with
  | error fault =>
      rw [leads] at made
      cases made
  | ok place =>
      simp only [leads, bind, Except.bind] at made
      cases there : system.node? place with
      | some node =>
          rw [there] at made
          cases made
      | none =>
          rw [there] at made
          cases made
          exact ⟨place, rfl, there, rfl⟩

theorem makeDirectory_spec {path : Path} {files : FileSystem}
    (made : system.makeDirectory path = .ok files) :
    Adds system files ∧
      (path.text.toList.getLast? ≠ some '/' → files.isDirectory path = true) := by
  obtain ⟨place, leads, free, rfl⟩ := makeDirectory_eq_ok made
  refine ⟨adds_put free .directory, ?_⟩
  intro bare
  rw [withoutSlashes_of_getLast? bare] at leads
  have named : place ≠ [] := by
    intro root
    rw [root] at free
    cases free
  exact isDirectory_of_locate ((adds_put free .directory).keepsDirectories.locate leads)
    (node?_put_self named _)

theorem runFrom_isDirectory_or_throw (path : Path) (fault : IoFault) (computer : Computer) :
    runFrom (do
      if ← (access : FileAccess Machine).isDirectory path then return else throw fault :
      FileAction Machine Unit) computer =
      (if computer.files.isDirectory path then .ok () else .error fault, computer) := by
  rw [runFrom_bind, runFrom_monadLift, stepFrom_isDirectory]
  cases computer.files.isDirectory path with
  | false => rfl
  | true => rfl

theorem runFrom_ensureDirectory (path : Path) (computer : Computer) :
    runFrom ((access : FileAccess Machine).ensureDirectory path) computer =
      match computer.files.makeDirectory path with
      | .ok files => (.ok (), { computer with files })
      | .error fault =>
        (if computer.files.isDirectory path then .ok () else .error fault, computer) := by
  unfold FileAccess.ensureDirectory
  rw [runFrom_bind, runFrom_outcome, runFrom_makeDirectory]
  cases computer.files.makeDirectory path with
  | ok files => rfl
  | error fault => exact runFrom_isDirectory_or_throw path fault computer

theorem ensureDirectory_spec {path : Path} {computer left : Computer}
    (ensured : runFrom ((access : FileAccess Machine).ensureDirectory path) computer =
      (.ok (), left)) :
    Adds computer.files left.files ∧
      (path.text.toList.getLast? ≠ some '/' → left.files.isDirectory path = true) := by
  rw [runFrom_ensureDirectory] at ensured
  cases made : computer.files.makeDirectory path with
  | ok files =>
      rw [made] at ensured
      cases ensured
      exact makeDirectory_spec made
  | error fault =>
      rw [made] at ensured
      cases there : computer.files.isDirectory path with
      | true =>
          simp only [there, if_true] at ensured
          cases ensured
          exact ⟨Adds.refl _, fun _ => there⟩
      | false =>
          simp only [there, Bool.false_eq_true, if_false] at ensured
          cases ensured

/-- The ways in which a directory is made, and those above it where the way to it is missing. -/
inductive Making : Nat → Path → Computer → Except IoFault Unit → Computer → Prop
  | exhausted {path : Path} {computer : Computer} :
      Making 0 path computer (.error .noRootToStartFrom) computer
  | nothing {levels : Nat} {path : Path} {computer : Computer} (empty : path.isEmpty = true) :
      Making (levels + 1) path computer (.ok ()) computer
  | made {levels : Nat} {path : Path} {computer : Computer} {files : FileSystem}
      (makes : computer.files.makeDirectory path = .ok files) :
      Making (levels + 1) path computer (.ok ()) { computer with files }
  | found {levels : Nat} {path : Path} {computer : Computer}
      (there : computer.files.isDirectory path = true) :
      Making (levels + 1) path computer (.ok ()) computer
  | refused {levels : Nat} {path : Path} {computer : Computer} {fault : IoFault}
      (filled : path.isEmpty = false) (lacks : computer.files.isDirectory path = false) :
      Making (levels + 1) path computer (.error fault) computer
  | rootless {levels : Nat} {path : Path} {computer : Computer} {fault : IoFault}
      (filled : path.isEmpty = false) (fails : computer.files.makeDirectory path = .error fault)
      (missing : fault.isNotFound = true) (top : path.parent? = none) :
      Making (levels + 1) path computer (.error .noRootToStartFrom) computer
  | stopped {levels : Nat} {path parent : Path} {computer reached : Computer}
      {fault cause : IoFault} (filled : path.isEmpty = false)
      (fails : computer.files.makeDirectory path = .error fault)
      (missing : fault.isNotFound = true) (upper : path.parent? = some parent)
      (above : Making levels parent computer (.error cause) reached) :
      Making (levels + 1) path computer (.error cause) reached
  | ensured {levels : Nat} {path parent : Path} {computer reached : Computer}
      (filled : path.isEmpty = false) (upper : path.parent? = some parent)
      (above : Making levels parent computer (.ok ()) reached) :
      Making (levels + 1) path computer
        (runFrom ((access : FileAccess Machine).ensureDirectory path) reached).1
        (runFrom ((access : FileAccess Machine).ensureDirectory path) reached).2

theorem makeDirectoriesWithin_making (levels : Nat) (path : Path) (computer : Computer) :
    Making levels path computer
      (runFrom ((access : FileAccess Machine).makeDirectoriesWithin levels path) computer).1
      (runFrom ((access : FileAccess Machine).makeDirectoriesWithin levels path) computer).2 := by
  -- Only where the way is missing does a level lead to the one above it.
  induction levels generalizing path computer with
  | zero => exact .exhausted
  | succ levels ih =>
      unfold FileAccess.makeDirectoriesWithin
      cases empty : path.isEmpty with
      | true => exact .nothing empty
      | false =>
          simp only [Bool.false_eq_true, if_false]
          rw [runFrom_bind, runFrom_outcome, runFrom_makeDirectory]
          cases ended : computer.files.makeDirectory path with
          | ok files => exact .made ended
          | error fault =>
              simp only [changed]
              cases missing : fault.isNotFound with
              | true =>
                  simp only [if_true]
                  cases upper : path.parent? with
                  | none => exact .rootless empty ended missing upper
                  | some parent =>
                      dsimp only
                      rw [runFrom_bind]
                      have above := ih parent computer
                      rcases run : runFrom ((access : FileAccess Machine).makeDirectoriesWithin
                        levels parent) computer with ⟨ending, reached⟩
                      rw [run] at above
                      cases ending with
                      | error cause => exact .stopped empty ended missing upper above
                      | ok done => exact .ensured empty upper above
              | false =>
                  simp only [Bool.false_eq_true, if_false]
                  rw [runFrom_isDirectory_or_throw]
                  cases there : computer.files.isDirectory path with
                  | true => exact .found there
                  | false => exact .refused empty there

/-- Nothing is lost when directories are made, and the last of them is there. -/
theorem makeDirectoriesWithin_spec {levels : Nat} {path : Path} {computer left : Computer}
    (made : runFrom ((access : FileAccess Machine).makeDirectoriesWithin levels path) computer =
      (.ok (), left)) :
    Adds computer.files left.files ∧
      (path.isEmpty = false → path.text.toList.getLast? ≠ some '/' →
        left.files.isDirectory path = true) := by
  have making : Making levels path computer (.ok ()) left := by
    have way := makeDirectoriesWithin_making levels path computer
    rwa [made] at way
  generalize ended : Except.ok () = ending at making
  clear made
  induction making with
  | exhausted => cases ended
  | nothing empty =>
      refine ⟨Adds.refl _, fun filled => ?_⟩
      rw [empty] at filled
      cases filled
  | made makes =>
      obtain ⟨adds, there⟩ := makeDirectory_spec makes
      exact ⟨adds, fun _ => there⟩
  | found there => exact ⟨Adds.refl _, fun _ _ => there⟩
  | refused filled lacks => cases ended
  | rootless filled fails missing top => cases ended
  | stopped filled fails missing upper above ih => cases ended
  | ensured filled upper above ih =>
      obtain ⟨late, there⟩ := ensureDirectory_spec (Prod.ext ended.symm rfl)
      exact ⟨(ih rfl).1.trans late, fun _ => there⟩

theorem makeDirectory_of_locate {path : Path} {place : Place}
    (bare : path.text.toList.getLast? ≠ some '/')
    (leads : system.locate path.text.toList = .ok place) :
    system.makeDirectory path =
      match system.node? place with
      | some _ => .error .entryExists
      | none => .ok (system.put place .directory) := by
  unfold makeDirectory
  rw [withoutSlashes_of_getLast? bare, leads]
  rfl

theorem runFrom_makeDirectories_of_free {path : Path} {place : Place} {computer : Computer}
    (filled : path.isEmpty = false) (bare : path.text.toList.getLast? ≠ some '/')
    (leads : computer.files.locate path.text.toList = .ok place)
    (free : computer.files.node? place = none) (levels : Nat) :
    runFrom ((access : FileAccess Machine).makeDirectoriesWithin (levels + 1) path) computer =
      (.ok (), { computer with files := computer.files.put place .directory }) := by
  unfold FileAccess.makeDirectoriesWithin
  simp only [filled, Bool.false_eq_true, if_false]
  rw [runFrom_bind, runFrom_outcome, runFrom_makeDirectory, makeDirectory_of_locate bare leads,
    free]
  rfl

theorem runFrom_makeDirectories_of_directory {path : Path} {place : Place} {computer : Computer}
    (filled : path.isEmpty = false) (bare : path.text.toList.getLast? ≠ some '/')
    (leads : computer.files.locate path.text.toList = .ok place)
    (there : computer.files.node? place = some .directory) (levels : Nat) :
    runFrom ((access : FileAccess Machine).makeDirectoriesWithin (levels + 1) path) computer =
      (.ok (), computer) := by
  unfold FileAccess.makeDirectoriesWithin
  simp only [filled, Bool.false_eq_true, if_false]
  rw [runFrom_bind, runFrom_outcome, runFrom_makeDirectory, makeDirectory_of_locate bare leads,
    there]
  simp only [changed, IoFault.isNotFound, Bool.false_eq_true, if_false, runFrom_bind,
    runFrom_monadLift, stepFrom_isDirectory, isDirectory_of_locate leads there, if_true,
    runFrom_pure]

theorem runFrom_makeDirectories_of_missing {path parent : Path} {place : Place} {levels : Nat}
    {computer reached : Computer} (filled : path.isEmpty = false)
    (bare : path.text.toList.getLast? ≠ some '/') (upper : path.parent? = some parent)
    (missing : computer.files.locate path.text.toList = .error .noEntry)
    (above : runFrom ((access : FileAccess Machine).makeDirectoriesWithin levels parent) computer =
      (.ok (), reached))
    (leads : reached.files.locate path.text.toList = .ok place)
    (free : reached.files.node? place = none) :
    runFrom ((access : FileAccess Machine).makeDirectoriesWithin (levels + 1) path) computer =
      (.ok (), { reached with files := reached.files.put place .directory }) := by
  have fails : computer.files.makeDirectory path = .error .noEntry := by
    unfold makeDirectory
    rw [withoutSlashes_of_getLast? bare, missing]
    rfl
  unfold FileAccess.makeDirectoriesWithin
  simp only [filled, Bool.false_eq_true, if_false]
  rw [runFrom_bind, runFrom_outcome, runFrom_makeDirectory, fails]
  simp only [changed, IoFault.isNotFound, if_true, upper]
  rw [runFrom_bind_ok above]
  unfold FileAccess.ensureDirectory
  rw [runFrom_bind, runFrom_outcome, runFrom_makeDirectory, makeDirectory_of_locate bare leads,
    free]
  rfl

/-! ### A chain of directories -/

def chain (base : Path) : List String → Path
  | [] => base
  | name :: above => (chain base above).join name

theorem length_le_components_chain {base : Path} {names : List String}
    (named : ∀ name ∈ names, IsName name) :
    names.length ≤ (chain base names).components.length := by
  induction names with
  | nil => exact Nat.zero_le _
  | cons name above ih =>
      have nameIs := named name List.mem_cons_self
      have fewer := ih fun other member => named other (List.mem_cons_of_mem name member)
      cases above with
      | nil => exact Path.length_components_join_pos base nameIs
      | cons upper rest =>
          have upperIs := named upper (List.mem_cons_of_mem name List.mem_cons_self)
          unfold chain at fewer ⊢
          rw [chain, Path.length_components_join_join _ upperIs nameIs]
          exact Nat.succ_le_succ fewer

/-- A base that leads to a directory below which no part of a chain is there. -/
structure Clear (system : FileSystem) (base : Path) (place : Place) (names : List String) :
    Prop where
  enters : system.enter base = .ok place
  directory : system.node? place = some .directory
  free : ∀ upper, upper <:+ names → upper ≠ [] → system.node? (place ++ upper.reverse) = none

theorem Clear.above {base : Path} {place : Place} {name : String} {above : List String}
    (clear : Clear system base place (name :: above)) : Clear system base place above :=
  ⟨clear.enters, clear.directory,
    fun upper part => clear.free upper (part.trans (List.suffix_cons name above))⟩

theorem Clear.reaches_chain {base : Path} {place : Place} {names : List String}
    (clear : Clear system base place names) (named : ∀ name ∈ names, IsName name) :
    Reaches system (chain base names) (place ++ names.reverse) := by
  induction names with
  | nil =>
      left
      rw [List.reverse_nil, List.append_nil]
      exact clear.enters
  | cons name above ih =>
      have reached := ih clear.above
        fun other member => named other (List.mem_cons_of_mem name member)
      have passable : system.node? (place ++ above.reverse) = none ∨
          system.node? (place ++ above.reverse) = some .directory := by
        cases above with
        | nil =>
            right
            rw [List.reverse_nil, List.append_nil]
            exact clear.directory
        | cons upper rest =>
            left
            exact clear.free _ (List.suffix_cons name _) (List.cons_ne_nil _ _)
      rw [List.reverse_cons, ← List.append_assoc]
      exact reached.join (named name List.mem_cons_self) passable

theorem node?_chain_of_there {place : Place} {names : List String}
    (directory : system.node? place = some .directory)
    (there : ∀ upper, upper <:+ names → upper ≠ [] →
      system.node? (place ++ upper.reverse) = some .directory) :
    system.node? (place ++ names.reverse) = some .directory := by
  cases names with
  | nil =>
      rw [List.reverse_nil, List.append_nil]
      exact directory
  | cons name above => exact there _ (List.suffix_refl _) (List.cons_ne_nil _ _)

theorem enter_chain_of_there {base : Path} {place : Place} {names : List String}
    (named : ∀ name ∈ names, IsName name) (enters : system.enter base = .ok place)
    (directory : system.node? place = some .directory)
    (there : ∀ upper, upper <:+ names → upper ≠ [] →
      system.node? (place ++ upper.reverse) = some .directory) :
    system.enter (chain base names) = .ok (place ++ names.reverse) := by
  induction names with
  | nil =>
      rw [List.reverse_nil, List.append_nil]
      exact enters
  | cons name above ih =>
      have thereAbove : ∀ upper, upper <:+ above → upper ≠ [] →
          system.node? (place ++ upper.reverse) = some .directory :=
        fun upper part => there upper (part.trans (List.suffix_cons name above))
      have reached := ih (fun other member => named other (List.mem_cons_of_mem name member))
        thereAbove
      rw [List.reverse_cons, ← List.append_assoc]
      exact enter_join_of_directory (named name List.mem_cons_self) reached
        (node?_chain_of_there directory thereAbove)

theorem locate_chain_of_there {base : Path} {place : Place} {name : String} {above : List String}
    (named : ∀ other ∈ name :: above, IsName other) (enters : system.enter base = .ok place)
    (directory : system.node? place = some .directory)
    (there : ∀ upper, upper <:+ above → upper ≠ [] →
      system.node? (place ++ upper.reverse) = some .directory)
    (room : (chain base (name :: above)).text.utf8ByteSize < pathLimit) :
    system.locate (chain base (name :: above)).text.toList =
      .ok (place ++ (name :: above).reverse) := by
  have reached := enter_chain_of_there
    (fun other member => named other (List.mem_cons_of_mem name member)) enters directory there
  rw [List.reverse_cons, ← List.append_assoc]
  exact locate_join_of_directory (named name List.mem_cons_self) room reached
    (node?_chain_of_there directory there)

/-- A file system in which a chain was made, and nothing else. -/
structure Built (place : Place) (names : List String) (before after : FileSystem) : Prop where
  there : ∀ upper, upper <:+ names → upper ≠ [] →
    after.node? (place ++ upper.reverse) = some .directory
  others : ∀ other, after.node? other = before.node? other ∨
    ∃ upper, upper <:+ names ∧ upper ≠ [] ∧ other = place ++ upper.reverse
  start : after.workingDirectory = before.workingDirectory

theorem Built.keepsDirectories {place : Place} {names : List String} {before after : FileSystem}
    (built : Built place names before after) : KeepsDirectories before after := by
  refine ⟨?_, built.start⟩
  intro other directory
  rcases built.others other with same | ⟨upper, part, filled, same⟩
  · rw [same]
    exact directory
  · rw [same]
    exact built.there upper part filled

theorem Built.put {place : Place} {name : String} {above : List String} {before after : FileSystem}
    (built : Built place above before after) :
    Built place (name :: above) before
      (after.put (place ++ (name :: above).reverse) .directory) := by
  have ended : place ++ (name :: above).reverse ≠ [] := by simp
  refine ⟨?_, ?_, built.start⟩
  · intro upper part filled
    rcases List.suffix_cons_iff.mp part with whole | shorter
    · rw [whole]
      exact node?_put_self ended _
    · rw [node?_put_of_ne]
      · exact built.there upper shorter filled
      · intro same
        have lengths := congrArg List.length (List.append_cancel_left same)
        have bound := shorter.length_le
        simp only [List.length_reverse, List.length_cons] at lengths
        omega
  · intro other
    by_cases same : place ++ (name :: above).reverse = other
    · exact .inr ⟨name :: above, List.suffix_refl _, List.cons_ne_nil _ _, same.symm⟩
    · rw [node?_put_of_ne same]
      rcases built.others other with kept | ⟨upper, part, filled, reached⟩
      · exact .inl kept
      · exact .inr ⟨upper, part.trans (List.suffix_cons name above), filled, reached⟩

theorem Built.node?_end {place : Place} {name : String} {above : List String}
    {before after : FileSystem} (built : Built place above before after) :
    after.node? (place ++ (name :: above).reverse) =
      before.node? (place ++ (name :: above).reverse) := by
  rcases built.others (place ++ (name :: above).reverse) with same | ⟨upper, part, -, same⟩
  · exact same
  · have lengths := congrArg List.length (List.append_cancel_left same)
    have bound := part.length_le
    simp only [List.length_reverse, List.length_cons] at lengths
    omega

theorem runFrom_makeDirectories_chain {base : Path} {place : Place} {name : String}
    {above : List String} {computer : Computer}
    (clear : Clear computer.files base place (name :: above))
    (named : ∀ other ∈ name :: above, IsName other)
    (room : (chain base (name :: above)).text.utf8ByteSize < pathLimit) {levels : Nat}
    (enough : above.length < levels) :
    ∃ made, runFrom ((access : FileAccess Machine).makeDirectoriesWithin levels
        (chain base (name :: above))) computer = (.ok (), { computer with files := made }) ∧
      Built place (name :: above) computer.files made := by
  have nameIs := named name List.mem_cons_self
  have filled : (chain base (name :: above)).isEmpty = false :=
    String.isEmpty_eq_false_iff.mpr (Path.join_ne_empty _ nameIs)
  have bare := Path.getLast?_toList_join (chain base above) nameIs
  have free := clear.free (name :: above) (List.suffix_refl _) (List.cons_ne_nil _ _)
  -- Each directory but the topmost finds its way missing, and has the rest of the chain made first.
  induction above generalizing name levels with
  | nil =>
      cases levels with
      | zero => cases enough
      | succ levels =>
          have leads := locate_chain_of_there named clear.enters clear.directory
            (fun upper part filled => absurd (List.suffix_nil.mp part) filled) room
          have nothing : Built place [] computer.files computer.files := by
            refine ⟨?_, fun _ => .inl rfl, rfl⟩
            intro upper part filled
            exact absurd (List.suffix_nil.mp part) filled
          exact ⟨_, runFrom_makeDirectories_of_free filled bare leads free levels, nothing.put⟩
  | cons upper rest ih =>
      cases levels with
      | zero => cases enough
      | succ levels =>
          have upperIs := named upper (List.mem_cons_of_mem name List.mem_cons_self)
          have namedAbove : ∀ other ∈ upper :: rest, IsName other :=
            fun other member => named other (List.mem_cons_of_mem name member)
          have roomAbove : (chain base (upper :: rest)).text.utf8ByteSize < pathLimit := by
            unfold chain at room ⊢
            rw [chain, Path.text_join_join _ upperIs nameIs, String.utf8ByteSize_append,
              String.utf8ByteSize_append] at room
            omega
          obtain ⟨reached, above, built⟩ := ih clear.above namedAbove roomAbove
            (Nat.lt_of_succ_lt_succ enough) upperIs
            (String.isEmpty_eq_false_iff.mpr (Path.join_ne_empty _ upperIs))
            (Path.getLast?_toList_join _ upperIs)
            (clear.above.free _ (List.suffix_refl _) (List.cons_ne_nil _ _))
          have missing : computer.files.locate (chain base (name :: upper :: rest)).text.toList =
              .error .noEntry :=
            (clear.above.reaches_chain namedAbove).locate_join_of_free nameIs room
              (clear.above.free _ (List.suffix_refl _) (List.cons_ne_nil _ _))
          have leads := locate_chain_of_there named
            (built.keepsDirectories.enter clear.enters)
            (built.keepsDirectories.directories place clear.directory) built.there room
          have made := runFrom_makeDirectories_of_missing filled bare
            (Path.parent?_join_join (chain base rest) upperIs nameIs) missing above leads
            (built.node?_end.trans free)
          exact ⟨_, made, built.put⟩

end FileSystem

end Courier
