import Courier.Proofs.Files.Below
import Courier.Proofs.Files.Trees
/-!
The directories above a path. A path that leads anywhere goes through its parent, so that it leads
nowhere when its parent cannot be made. Main statements: what is made on the way to a path are
directories above it that were missing, and where the way cannot be made the path is not there.
-/

namespace Courier

open Computer

namespace Path

theorem toList_of_parent? {path parent : Path} (upper : path.parent? = some parent) :
    parent.text = "/" ∨ parent.text = "" ∨
      ∃ rest, path.text.toList = parent.text.toList ++ '/' :: rest := by
  unfold parent? at upper
  split at upper
  · cases upper
  · next piece rest idle =>
      split at upper
      · obtain rfl := Option.some.inj upper
        cases path.isAbsolute with
        | true => exact .inl rfl
        | false => exact .inr (.inl rfl)
      · next front shorter filled =>
          obtain rfl := Option.some.inj upper
          obtain ⟨dropped, back⟩ := dropIdle_isPrefix (piece :: rest).dropLast
          obtain ⟨trailing, whole⟩ := dropIdle_isPrefix path.pieces
          rw [idle] at whole
          obtain ⟨more, goesOn, cut⟩ : ∃ more, more ≠ [] ∧
              path.pieces = dropIdle (piece :: rest).dropLast ++ more := by
            refine ⟨dropped ++ (piece :: rest).getLast (List.cons_ne_nil piece rest) :: trailing,
              by simp, ?_⟩
            calc
              path.pieces = (piece :: rest) ++ trailing := whole.symm
              _ = (piece :: rest).dropLast ++
                  (piece :: rest).getLast (List.cons_ne_nil piece rest) :: trailing := by
                rw [List.append_cons, List.dropLast_concat_getLast]
              _ = _ := by rw [← List.append_assoc, back]
          right
          right
          refine ⟨List.intercalate ['/'] (more.map Piece.text), ?_⟩
          have spelled := Text.intercalate_pieces '/' path.text.toList
          rw [← map_text_pieces, cut, List.map_append, Text.intercalate_append '/'
            (by simpa using filled) (by simpa using goesOn)] at spelled
          rw [ofPieces, String.toList_ofList, ← spelled]

/-- The paths that are met when a path is left for its parent, once or again and again. -/
inductive Above : Path → Path → Prop
  | parent {path parent : Path} (upper : path.parent? = some parent) : Above path parent
  | further {path parent way : Path} (upper : path.parent? = some parent)
      (above : Above parent way) : Above path way

end Path

namespace FileSystem

variable {system before after : FileSystem}

theorem directory_of_walk {place last : Place} {pieces : List (List Char)} (goesOn : pieces ≠ [])
    (leads : pieces.foldlM system.step place = .ok last) :
    system.node? place = some .directory := by
  obtain ⟨piece, rest, rfl⟩ := List.exists_cons_of_ne_nil goesOn
  rw [List.foldlM_cons] at leads
  cases first : system.step place piece with
  | error fault =>
      rw [first] at leads
      cases leads
  | ok next => exact directory_of_step first

theorem locate_front {front rest : List Char} {place : Place} (filled : front ≠ [])
    (leads : system.locate (front ++ '/' :: rest) = .ok place) :
    ∃ house, system.locate front = .ok house ∧ system.node? house = some .directory := by
  obtain ⟨clean, -, short, walks⟩ := locate_eq_ok_iff.mp leads
  have head : (front ++ '/' :: rest).head? = front.head? := by
    obtain ⟨char, more, rfl⟩ := List.exists_cons_of_ne_nil filled
    rfl
  rw [Text.pieces_append_cons (by rfl), List.foldlM_append, head] at walks
  cases reached : (Text.pieces (· == '/') front).foldlM system.step
    (if front.head? == some '/' then [] else system.workingDirectory) with
  | error fault =>
      rw [reached] at walks
      cases walks
  | ok house =>
      rw [reached] at walks
      refine ⟨house, locate_eq_ok_iff.mpr ⟨fun dirty => clean (List.mem_append_left _ dirty),
        filled, ?_, reached⟩, directory_of_walk (Text.pieces_ne_nil rest) walks⟩
      rw [String.ofList_append, String.utf8ByteSize_append] at short
      exact Nat.lt_of_le_of_lt (Nat.le_add_right _ _) short

theorem isDirectory_parent {path parent : Path} (upper : path.parent? = some parent)
    (filled : parent.isEmpty = false) {place : Place}
    (leads : system.locate path.text.toList = .ok place) : system.isDirectory parent = true := by
  have spelled : parent.text ≠ "" := String.isEmpty_eq_false_iff.mp filled
  rcases Path.toList_of_parent? upper with root | start | ⟨rest, goesOn⟩
  · have same : parent = ⟨"/"⟩ := congrArg Path.mk root
    rw [same]
    rfl
  · exact absurd start spelled
  · rw [goesOn] at leads
    obtain ⟨house, led, directory⟩ :=
      locate_front (mt String.toList_eq_nil_iff.mp spelled) leads
    exact isDirectory_of_locate led directory

/-- A file system to which directories were added at places that certain paths lead to. -/
structure Opens (ways : Path → Prop) (before after : FileSystem) : Prop where
  nodes : ∀ place, after.node? place = before.node? place ∨
    before.node? place = none ∧ after.node? place = some .directory ∧
      ∃ way, ways way ∧ after.locate (withoutSlashes way) = .ok place
  start : after.workingDirectory = before.workingDirectory

namespace Opens

variable {ways others : Path → Prop}

theorem refl (system : FileSystem) : Opens ways system system :=
  ⟨fun _ => .inl rfl, rfl⟩

theorem keepsDirectories (opens : Opens ways before after) : KeepsDirectories before after := by
  refine ⟨?_, opens.start⟩
  intro place directory
  rcases opens.nodes place with same | ⟨free, -, -⟩
  · rw [same]
    exact directory
  · rw [free] at directory
    cases directory

theorem mono (opens : Opens ways before after) (wider : ∀ way, ways way → others way) :
    Opens others before after := by
  refine ⟨fun place => ?_, opens.start⟩
  rcases opens.nodes place with same | ⟨free, made, way, on, leads⟩
  · exact .inl same
  · exact .inr ⟨free, made, way, wider way on, leads⟩

theorem trans {first second third : FileSystem} (early : Opens ways first second)
    (late : Opens ways second third) : Opens ways first third := by
  refine ⟨fun place => ?_, late.start.trans early.start⟩
  rcases late.nodes place with same | ⟨free, made, way, on, leads⟩
  · rw [same]
    rcases early.nodes place with still | ⟨free, made, way, on, leads⟩
    · exact .inl still
    · exact .inr ⟨free, made, way, on, late.keepsDirectories.locate leads⟩
  · rcases early.nodes place with still | ⟨-, taken, -⟩
    · exact .inr ⟨still ▸ free, made, way, on, leads⟩
    · rw [taken] at free
      cases free

end Opens

theorem opens_makeDirectory {path : Path} {files : FileSystem}
    (made : system.makeDirectory path = .ok files) : Opens (· = path) system files := by
  obtain ⟨place, leads, free, rfl⟩ := makeDirectory_eq_ok made
  have named : place ≠ [] := by
    intro root
    rw [root] at free
    cases free
  refine ⟨fun other => ?_, rfl⟩
  by_cases same : place = other
  · subst same
    exact .inr ⟨free, node?_put_self named _, path, rfl,
      (adds_put free .directory).keepsDirectories.locate leads⟩
  · exact .inl (node?_put_of_ne same _)

theorem opens_ensureDirectory (path : Path) (computer : Computer) :
    Opens (· = path) computer.files
      (runFrom ((access : FileAccess Machine).ensureDirectory path) computer).2.files := by
  rw [runFrom_ensureDirectory]
  cases made : computer.files.makeDirectory path with
  | ok files => exact opens_makeDirectory made
  | error fault => exact Opens.refl _

/-- However far the making of directories gets, it makes nothing but these. -/
theorem Making.opens {levels : Nat} {path : Path} {computer left : Computer}
    {ending : Except IoFault Unit} (making : Making levels path computer ending left) :
    Opens (fun way => way = path ∨ Path.Above path way) computer.files left.files := by
  induction making with
  | exhausted => exact Opens.refl _
  | nothing => exact Opens.refl _
  | made makes => exact (opens_makeDirectory makes).mono fun _ => .inl
  | found => exact Opens.refl _
  | refused => exact Opens.refl _
  | rootless => exact Opens.refl _
  | stopped filled fails missing upper above ih =>
      refine ih.mono fun way on => .inr ?_
      rcases on with rfl | further
      · exact .parent upper
      · exact .further upper further
  | ensured filled upper above ih =>
      refine Opens.trans (ih.mono fun way on => .inr ?_)
        ((opens_ensureDirectory _ _).mono fun _ => .inl)
      rcases on with rfl | further
      · exact .parent upper
      · exact .further upper further

theorem exists_slashes (text : List Char) :
    ∃ count, text = Text.dropBack (· == '/') text ++ List.replicate count '/' := by
  have slashes : ∀ char ∈ text.reverse.takeWhile (· == '/'), char = '/' :=
    fun char member => eq_of_beq (List.all_eq_true.mp List.all_takeWhile char member)
  refine ⟨(text.reverse.takeWhile (· == '/')).length, ?_⟩
  rw [← List.reverse_replicate, ← List.eq_replicate_of_mem slashes, Text.dropBack,
    ← List.reverse_append, List.takeWhile_append_dropWhile, List.reverse_reverse]

theorem locate_of_isDirectory {path : Path} (directory : system.isDirectory path = true) :
    ∃ place, system.locate path.text.toList = .ok place ∧
      system.node? place = some .directory := by
  cases leads : system.locate path.text.toList with
  | error fault =>
      unfold isDirectory find at directory
      rw [leads] at directory
      cases directory
  | ok place => exact ⟨place, rfl, node?_of_isDirectory leads directory⟩

theorem locate_withoutSlashes {path : Path} (directory : system.isDirectory path = true) :
    ∃ place, system.locate (withoutSlashes path) = .ok place ∧
      system.node? place = some .directory := by
  obtain ⟨place, leads, there⟩ := locate_of_isDirectory directory
  obtain ⟨count, spelled⟩ := exists_slashes path.text.toList
  unfold withoutSlashes
  cases bare : Text.dropBack (· == '/') path.text.toList with
  | nil =>
      rw [bare, List.nil_append] at spelled
      dsimp only
      rw [spelled] at leads ⊢
      cases count with
      | zero => exact ⟨place, leads, there⟩
      | succ count => exact ⟨[], rfl, rfl⟩
  | cons char rest =>
      rw [bare] at spelled
      dsimp only
      rw [spelled] at leads
      cases count with
      | zero =>
          rw [List.replicate_zero, List.append_nil] at leads
          exact ⟨place, leads, there⟩
      | succ count => exact locate_front (List.cons_ne_nil char rest) leads

theorem not_isDirectory_of_missing {path : Path} {fault : IoFault}
    (fails : system.makeDirectory path = .error fault) (missing : fault.isNotFound = true) :
    system.isDirectory path = false := by
  cases directory : system.isDirectory path with
  | false => rfl
  | true =>
      obtain ⟨place, leads, there⟩ := locate_withoutSlashes directory
      unfold makeDirectory at fails
      simp only [leads, bind, Except.bind, there] at fails
      cases fails
      cases missing

theorem Making.lacks {levels : Nat} {path : Path} {computer left : Computer} {cause : IoFault}
    (making : Making levels path computer (.error cause) left) (deep : levels ≠ 0) :
    path.isEmpty = false ∧ left.files.isDirectory path = false := by
  generalize fails : Except.error cause = ending at making
  induction making with
  | exhausted => exact absurd rfl deep
  | nothing => cases fails
  | made => cases fails
  | found => cases fails
  | refused filled lacks => exact ⟨filled, lacks⟩
  | rootless filled unmade missing top =>
      exact ⟨filled, not_isDirectory_of_missing unmade missing⟩
  | @stopped levels path parent computer reached fault stop filled unmade missing upper above ih =>
      refine ⟨filled, ?_⟩
      cases levels with
      | zero =>
          cases above
          exact not_isDirectory_of_missing unmade missing
      | succ levels =>
          obtain ⟨spelled, lacks⟩ := ih (Nat.succ_ne_zero levels) fails
          cases directory : reached.files.isDirectory path with
          | false => rfl
          | true =>
              obtain ⟨place, leads, -⟩ := locate_of_isDirectory directory
              rw [isDirectory_parent upper spelled leads] at lacks
              cases lacks
  | @ensured levels path parent computer reached filled upper above ih =>
      rw [runFrom_ensureDirectory] at fails ⊢
      cases made : reached.files.makeDirectory path with
      | ok files =>
          rw [made] at fails
          cases fails
      | error fault =>
          rw [made] at fails
          cases there : reached.files.isDirectory path with
          | true =>
              simp only [there, if_true] at fails
              cases fails
          | false => exact ⟨filled, rfl⟩

end FileSystem

end Courier
