import Courier.Proofs.Files.Directories
/-!
Directories that are added to a tree. Whatever is in a tree stands in a directory, so that new
directories have nothing below them. Main statement: they open no way to what was there before,
unless the path steps up out of a directory that was missing.
-/

namespace Courier.FileSystem

variable {system before after : FileSystem}

/-- Whatever is there stands in a directory. -/
def WellFormed (system : FileSystem) : Prop :=
  ∀ place name, system.node? (place ++ [name]) ≠ none → system.node? place = some .directory

theorem wellFormed_empty : WellFormed {} := by
  intro place name there
  exact absurd (node?_of_ne_nil (List.concat_ne_nil name place)) there

theorem WellFormed.put {place : Place} {name : String} {node : Node}
    (wellFormed : system.WellFormed) (house : system.node? place = some .directory)
    (plain : node = .directory ∨ system.node? (place ++ [name]) ≠ some .directory) :
    (system.put (place ++ [name]) node).WellFormed := by
  have filled : place ++ [name] ≠ [] := List.concat_ne_nil name place
  have keeps : ∀ other, system.node? other = some .directory →
      (system.put (place ++ [name]) node).node? other = some .directory := by
    intro other directory
    by_cases same : place ++ [name] = other
    · rw [← same, node?_put_self filled]
      rcases plain with rfl | plain
      · rfl
      · rw [← same] at directory
        exact absurd directory plain
    · rw [node?_put_of_ne same]
      exact directory
  intro upper last there
  by_cases same : place ++ [name] = upper ++ [last]
  · obtain ⟨rfl, -⟩ := List.append_inj' same rfl
    exact keeps place house
  · rw [node?_put_of_ne same] at there
    exact keeps upper (wellFormed upper last there)

theorem WellFormed.above {place : Place} (wellFormed : system.WellFormed) {below : Place}
    (there : system.node? (place ++ below) ≠ none) : system.node? place ≠ none := by
  induction below generalizing place with
  | nil =>
      rw [List.append_nil] at there
      exact there
  | cons name rest ih =>
      rw [List.append_cons] at there
      rw [wellFormed place name (ih there)]
      exact Option.some_ne_none _

def start (system : FileSystem) (base : Path) : Place :=
  if base.text.toList.head? == some '/' then [] else system.workingDirectory

/-- The way of a path does not step up where a directory is missing. -/
def Straight (system : FileSystem) (base : Path) : Prop :=
  ∀ front rest, base.way = front ++ ['.', '.'] :: rest →
    (front ++ [['.', '.']]).foldlM system.step (system.start base) ≠ .error .noEntry

theorem straight_of_not_mem {base : Path} (direct : ['.', '.'] ∉ base.way) :
    system.Straight base := by
  intro front rest cut
  rw [cut] at direct
  exact absurd (List.mem_append_right front List.mem_cons_self) direct

theorem prefix_of_step {place next : Place} {piece : List Char} (down : piece ≠ ['.', '.'])
    (leads : system.step place piece = .ok next) : place <+: next := by
  have directory := directory_of_step leads
  unfold step at leads
  rw [directory] at leads
  dsimp only at leads
  split at leads
  · exact Except.ok.inj leads ▸ List.prefix_refl place
  · split at leads
    · next up => exact absurd (eq_of_beq up) down
    · split at leads
      · cases leads
      · rw [← Except.ok.inj leads]
        exact List.prefix_append place _

theorem prefix_of_walk {place last : Place} {pieces : List (List Char)}
    (down : ['.', '.'] ∉ pieces) (leads : pieces.foldlM system.step place = .ok last) :
    place <+: last := by
  induction pieces generalizing place with
  | nil => exact Except.ok.inj leads ▸ List.prefix_refl place
  | cons piece rest ih =>
      rw [List.mem_cons, not_or] at down
      rw [List.foldlM_cons] at leads
      cases first : system.step place piece with
      | error fault =>
          rw [first] at leads
          cases leads
      | ok next =>
          rw [first] at leads
          exact (prefix_of_step (Ne.symm down.1) first).trans (ih down.2 leads)

/-- A file system that has all that another one has, and perhaps more directories. -/
structure AddsDirectories (before after : FileSystem) : Prop extends Adds before after where
  fresh : ∀ place, before.node? place = none →
    after.node? place = none ∨ after.node? place = some .directory

theorem AddsDirectories.refl (system : FileSystem) : AddsDirectories system system :=
  ⟨Adds.refl system, fun _ free => .inl free⟩

theorem AddsDirectories.trans {first second third : FileSystem}
    (early : AddsDirectories first second) (late : AddsDirectories second third) :
    AddsDirectories first third := by
  refine ⟨early.toAdds.trans late.toAdds, ?_⟩
  intro place free
  rcases early.fresh place free with still | made
  · exact late.fresh place still
  · right
    rcases late.nodes place with same | gone
    · rw [← same]
      exact made
    · rw [gone] at made
      cases made

theorem addsDirectories_makeDirectory {path : Path} {files : FileSystem}
    (made : system.makeDirectory path = .ok files) : AddsDirectories system files := by
  obtain ⟨place, -, free, rfl⟩ := makeDirectory_eq_ok made
  refine ⟨adds_put free .directory, ?_⟩
  intro other freeOther
  by_cases same : place = other
  · right
    subst same
    refine node?_put_self ?_ _
    intro root
    rw [root] at free
    cases free
  · left
    rw [node?_put_of_ne same]
    exact freeOther

theorem AddsDirectories.file (adds : AddsDirectories before after) {place : Place}
    {content : Bytes} (there : after.node? place = some (.file content)) :
    before.node? place = some (.file content) := by
  rcases adds.nodes place with same | free
  · rw [same]
    exact there
  · rcases adds.fresh place free with still | made
    · rw [still] at there
      cases there
    · rw [made] at there
      cases there

theorem AddsDirectories.step_eq (adds : AddsDirectories before after)
    (wellFormed : before.WellFormed) {place : Place} (piece : List Char)
    (there : before.node? place ≠ none) :
    before.step place piece = after.step place piece := by
  have same : before.node? place = after.node? place := by
    rcases adds.nodes place with same | free
    · exact same
    · exact absurd free there
  by_cases up : piece = ['.', '.']
  · subst up
    have above : before.node? place.dropLast = some .directory := by
      rcases List.eq_nil_or_concat place with rfl | ⟨upper, name, rfl⟩
      · rfl
      · rw [List.concat_eq_append] at there ⊢
        rw [List.dropLast_concat]
        exact wellFormed upper name there
    unfold step
    rw [same, stepUp_of_directory above,
      stepUp_of_directory (adds.keepsDirectories.directories _ above)]
  · exact step_congr up same

/-- A walk to what was there before went through what was there before. -/
theorem AddsDirectories.walk (adds : AddsDirectories before after)
    (wellFormed : before.WellFormed) {place last : Place} {pieces : List (List Char)}
    (straight : ∀ front rest, pieces = front ++ ['.', '.'] :: rest →
      (front ++ [['.', '.']]).foldlM before.step place ≠ .error .noEntry)
    (leads : pieces.foldlM after.step place = .ok last) (there : before.node? last ≠ none) :
    pieces.foldlM before.step place = .ok last := by
  induction pieces generalizing place with
  | nil => exact leads
  | cons piece rest ih =>
      cases node : before.node? place with
      | none =>
          -- From here on no step is up, so what the walk leads to is below what is missing.
          have down : ['.', '.'] ∉ piece :: rest := by
            intro member
            obtain ⟨front, later, cut⟩ := List.append_of_mem member
            refine straight front later cut ?_
            cases front with
            | nil => exact congrArg (· >>= _) (step_of_free node ['.', '.'])
            | cons first others => exact congrArg (· >>= _) (step_of_free node first)
          obtain ⟨below, rfl⟩ := prefix_of_walk down leads
          exact absurd node (wellFormed.above there)
      | some held =>
          have steps : before.step place piece = after.step place piece :=
            adds.step_eq wellFormed piece (by rw [node]; exact Option.some_ne_none _)
          rw [List.foldlM_cons] at leads ⊢
          rw [steps]
          cases first : after.step place piece with
          | error fault =>
              rw [first] at leads
              cases leads
          | ok next =>
              rw [first] at leads
              refine ih ?_ leads
              intro front later cut
              have whole := straight (piece :: front) later (congrArg (piece :: ·) cut)
              rw [List.cons_append, List.foldlM_cons, steps, first] at whole
              exact whole

theorem AddsDirectories.enter (adds : AddsDirectories before after)
    (wellFormed : before.WellFormed) {base : Path} (straight : before.Straight base)
    {place : Place} (leads : after.enter base = .ok place) (there : before.node? place ≠ none) :
    before.enter base = .ok place := by
  unfold FileSystem.enter at leads ⊢
  rw [adds.start] at leads
  split at leads
  · cases leads
  · next clean =>
      rw [if_neg clean]
      exact adds.walk wellFormed straight leads there

end Courier.FileSystem
