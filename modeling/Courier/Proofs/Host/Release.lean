import Courier.Host.OsRelease
/-!
Fields of the os-release file. The file is read from its first line to its last, and a line that
gives a field takes the place of an earlier one. Main statement: a field is what follows its name on
the last line that begins with it.
-/

namespace Courier.OsRelease

/-- What follows a name on a line that begins with it. The blanks around a line do not count. -/
def field? (name line : String) : Option String :=
  Text.after? name (Text.trim line)

def lastField? (name content : String) : Option String :=
  ((Text.lines content).filterMap (field? name)).getLast?

def platformOf (value : String) : String :=
  Text.lower (Text.trimChar '"' value)

def versionOf (value : String) : String :=
  Text.trimChar '"' value

theorem field?_version_of_platform {line value : String} (given : field? "ID=" line = some value) :
    field? "VERSION_ID=" line = none := by
  obtain ⟨rest, found, -⟩ := Option.map_eq_some_iff.mp given
  unfold field? Text.after?
  cases spelled : (Text.trim line).toList with
  | nil => rfl
  | cons first others =>
      rw [spelled] at found
      by_cases begins : 'I' = first
      · subst begins
        rfl
      · have lacks : Text.dropFront? "ID=".toList (first :: others) = none := if_neg begins
        rw [lacks] at found
        cases found

theorem addLine_eq (release : OsRelease) (line : String) :
    addLine release line =
      { id := ((field? "ID=" line).map platformOf).or release.id
        versionId := ((field? "VERSION_ID=" line).map versionOf).or release.versionId } := by
  have named : ∀ name, Text.after? name (Text.trim line) = field? name line := fun _ => rfl
  unfold addLine
  dsimp only
  rw [named, named]
  cases platform : field? "ID=" line with
  | some value =>
      rw [field?_version_of_platform platform]
      rfl
  | none =>
      cases version : field? "VERSION_ID=" line with
      | some value => rfl
      | none => rfl

/-- The last line that gives a field decides, and what was known before where no line does. -/
theorem foldl_addLine (rows : List String) (release : OsRelease) :
    rows.foldl addLine release =
      { id := ((rows.filterMap (field? "ID=")).getLast?.map platformOf).or release.id
        versionId := ((rows.filterMap (field? "VERSION_ID=")).getLast?.map versionOf).or
          release.versionId } := by
  have later : ∀ (given : Option String) (others : List String) (shape : String → String)
      (known : Option String), (others.getLast?.map shape).or ((given.map shape).or known) =
        ((given.toList ++ others).getLast?.map shape).or known := by
    intro given others shape known
    cases given with
    | none => rfl
    | some value =>
        rw [Option.toList_some, List.singleton_append, List.getLast?_cons]
        cases others.getLast? with
        | none => rfl
        | some last => rfl
  have split : ∀ (name line : String) (rest : List String),
      (line :: rest).filterMap (field? name) =
        (field? name line).toList ++ rest.filterMap (field? name) := by
    intro name line rest
    rw [List.filterMap_cons]
    cases field? name line with
    | none => rfl
    | some value => rfl
  induction rows generalizing release with
  | nil => rfl
  | cons line rest ih =>
      rw [List.foldl_cons, ih, addLine_eq, split, split, ← later, ← later]

theorem parse_eq (content : String) :
    parse content =
      { id := (lastField? "ID=" content).map platformOf
        versionId := (lastField? "VERSION_ID=" content).map versionOf } := by
  unfold parse
  rw [foldl_addLine, Option.or_none, Option.or_none]
  rfl

end Courier.OsRelease
