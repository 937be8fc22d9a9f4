import Courier.Proofs.Cache.Steps
/-!
A root that is absent or empty. Its directories are made when something is written for the first
time, and until then nothing is found. Main statements: calls over a vacant root, and when a root is
vacant: below a directory that is there, every chain of names is, unless something is in its way or
below it.
-/

namespace Courier

open Computer

namespace FileCache

/-- A root that is absent or empty, and lies in reach: the directory of any resource can be made
below it, and then there is nothing else below it. -/
def Vacant (cache : FileCache) (place : Place) (start : Computer) : Prop :=
  ∀ resource, ∃ ready,
    runFrom ((FileSystem.access : FileAccess Machine).makeDirectories
      (cache.resourceDirectory resource)) start = (.ok (), ready) ∧
    ready.files.locate (cache.resourceDirectory resource).text.toList =
      .ok (directoryPlace place resource) ∧
    ∀ below, below ≠ [] → ready.files.node? (place ++ below) ≠ none →
      below = [resourceDigest resource]

variable {cache : FileCache} {place : Place} {used : List String} {start : Computer}

theorem Vacant.mirrors_ready (used : List String) {resource : String} {ready : Computer}
    (makes : runFrom ((FileSystem.access : FileAccess Machine).makeDirectories
      (cache.resourceDirectory resource)) start = (.ok (), ready))
    (leads : ready.files.locate (cache.resourceDirectory resource).text.toList =
      .ok (directoryPlace place resource))
    (empty : ∀ below, below ≠ [] → ready.files.node? (place ++ below) ≠ none →
      below = [resourceDigest resource]) :
    Mirrors cache place used {} ready.files ∧
      ready.files.node? (directoryPlace place resource) = some .directory := by
  have named := isName_resourceDigest resource
  obtain ⟨base, enters, directory, same⟩ := FileSystem.locate_join_eq_ok named leads
  have placed : base = place := (List.append_cancel_right same).symm
  subst placed
  have made : ready.files.isDirectory (cache.resourceDirectory resource) = true :=
    (FileSystem.makeDirectoriesWithin_spec makes).2
      (String.isEmpty_eq_false_iff.mpr (Path.join_ne_empty _ named))
      (Path.getLast?_toList_join _ named)
  have house : ready.files.node? (directoryPlace base resource) = some .directory :=
    FileSystem.node?_of_isDirectory leads made
  have free : ∀ other name, ready.files.node? (filePlace base other name) = none := by
    intro other name
    cases taken : ready.files.node? (filePlace base other name) with
    | none => rfl
    | some node =>
        have short := empty [resourceDigest other, name] (List.cons_ne_nil _ _) (by
          rw [show base ++ [resourceDigest other, name] = filePlace base other name from rfl, taken]
          exact Option.some_ne_none node)
        simp at short
  refine ⟨⟨enters, directory, ?_, ?_, ?_, ?_⟩, house⟩
  · intro other _
    by_cases taken : ready.files.node? (directoryPlace base other) = none
    · exact .inl taken
    · have same := empty [resourceDigest other] (List.cons_ne_nil _ _) taken
      right
      rw [directoryPlace, same]
      exact house
  · intro other _ name
    rw [free]
    intro nothing
    cases nothing
  · intro other _ version
    rw [free, MemoryCache.get?_empty]
    rfl
  · intro other _ version bytes found
    rw [MemoryCache.get?_empty] at found
    cases found

theorem Vacant.runFrom_read (vacant : Vacant cache place start) {resource version : String}
    (fits : Fits cache resource version) :
    runFrom (cache.read (FileSystem.access : FileAccess Machine) resource version) start =
      (MemoryCache.answer resource version none, start) := by
  -- A read makes no directory. That it could be made tells that nothing is in the way now.
  obtain ⟨ready, makes, leads, empty⟩ := vacant resource
  obtain ⟨mirrors, house⟩ := Vacant.mirrors_ready [resource] makes leads empty
  have adds := (FileSystem.makeDirectoriesWithin_spec makes).1
  have before : ∀ other, ready.files.node? other = some .directory →
      start.files.node? other = none ∨ start.files.node? other = some .directory := by
    intro other directory
    rcases adds.nodes other with same | free
    · rw [same]
      exact .inr directory
    · exact .inl free
  have gone : start.files.node? (filePlace place resource (manifestName version)) = none := by
    have later := mirrors.manifests resource List.mem_cons_self version
    rw [MemoryCache.get?_empty] at later
    rcases adds.nodes (filePlace place resource (manifestName version)) with same | free
    · rw [same, later]
      rfl
    · exact free
  apply runFrom_read_of_find
  exact find_file_of_free (adds.reaches mirrors.enters) (before place mirrors.base)
    (before _ house) (isName_manifestName fits.name) fits.manifest gone

theorem Vacant.runFrom_write (vacant : Vacant cache place start) (apart : Apart used)
    (entry : Entry) (known : entry.resource ∈ used)
    (fits : Fits cache entry.resource entry.version) (other : entry.version ≠ ".") :
    ∃ left, runFrom (cache.write FileSystem.access entry) start = (.ok (), left) ∧
      Mirrors cache place used
        (({} : MemoryCache).insert entry.resource entry.version entry.bytes) left.files := by
  obtain ⟨ready, makes, leads, empty⟩ := vacant entry.resource
  obtain ⟨mirrors, house⟩ := Vacant.mirrors_ready used makes leads empty
  obtain ⟨written, writes, mirrorsWritten⟩ :=
    runFrom_steps_of_directory ready mirrors apart known house fits other
  have first : runFrom (cache.runStep FileSystem.access entry .makeDirectory) start =
      (.ok (), ready) := runFrom_orCannot_ok makes
  refine ⟨{ ready with files := written }, ?_, mirrorsWritten⟩
  unfold write
  exact (runFrom_forM_cons first).trans writes

theorem vacant_chain {base : Path} {names : List String}
    (clear : FileSystem.Clear start.files base place names)
    (named : ∀ name ∈ names, IsName name)
    (empty : ∀ below, below ≠ [] →
      start.files.node? (place ++ names.reverse ++ below) = none)
    (room : (FileSystem.chain base names).text.utf8ByteSize + 33 < FileSystem.pathLimit) :
    Vacant { root := FileSystem.chain base names } (place ++ names.reverse) start := by
  intro resource
  have digestIs := isName_resourceDigest resource
  have whole : ∀ name ∈ resourceDigest resource :: names, IsName name := by
    intro name member
    rcases List.mem_cons.mp member with rfl | inside
    · exact digestIs
    · exact named name inside
  -- The directory of the resource is one more link of the chain.
  have clearAll : FileSystem.Clear start.files base place (resourceDigest resource :: names) := by
    refine ⟨clear.enters, clear.directory, ?_⟩
    intro upper part filled
    rcases List.suffix_cons_iff.mp part with same | shorter
    · rw [same, List.reverse_cons, ← List.append_assoc]
      exact empty _ (List.cons_ne_nil _ _)
    · exact clear.free upper shorter filled
  have fits : (FileSystem.chain base (resourceDigest resource :: names)).text.utf8ByteSize <
      FileSystem.pathLimit := by
    have size := Path.utf8ByteSize_join_le (FileSystem.chain base names) (resourceDigest resource)
    rw [utf8ByteSize_resourceDigest] at size
    exact Nat.lt_of_le_of_lt size (by omega)
  have enough : names.length <
      (FileSystem.chain base (resourceDigest resource :: names)).components.length + 1 :=
    Nat.lt_succ_of_lt (FileSystem.length_le_components_chain whole)
  obtain ⟨made, makes, built⟩ :=
    FileSystem.runFrom_makeDirectories_chain clearAll whole fits enough
  have leads := FileSystem.locate_chain_of_there whole
    (built.keepsDirectories.enter clear.enters)
    (built.keepsDirectories.directories place clear.directory)
    (fun upper part => built.there upper (part.trans (List.suffix_cons _ names))) fits
  refine ⟨{ start with files := made }, makes, ?_, ?_⟩
  · rw [List.reverse_cons, ← List.append_assoc] at leads
    exact leads
  · intro below filled taken
    rcases built.others (place ++ names.reverse ++ below) with same | ⟨upper, part, -, same⟩
    · rw [same] at taken
      exact absurd (empty below filled) taken
    · rw [List.append_assoc] at same
      have ends := List.append_cancel_left same
      rcases List.suffix_cons_iff.mp part with all | shorter
      · rw [all, List.reverse_cons] at ends
        exact List.append_cancel_left ends
      · have lengths := congrArg List.length ends
        have bound := shorter.length_le
        have positive := List.length_pos_iff.mpr filled
        simp only [List.length_append, List.length_reverse] at lengths
        omega

theorem vacant_of_bare {names : List String} (named : ∀ name ∈ names, IsName name)
    (bare : ∀ other, other ≠ [] → start.files.node? other = none)
    (room : (FileSystem.chain { text := "/" } names).text.utf8ByteSize + 33 <
      FileSystem.pathLimit) :
    Vacant { root := FileSystem.chain { text := "/" } names } names.reverse start := by
  have clear : FileSystem.Clear start.files { text := "/" } [] names := by
    refine ⟨rfl, rfl, ?_⟩
    intro upper _ filled
    exact bare _ (by simpa using filled)
  refine vacant_chain clear named ?_ room
  intro below filled
  exact bare _ (by simp [filled])

end FileCache

end Courier
