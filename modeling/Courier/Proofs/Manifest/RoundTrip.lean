import Courier.Manifest.Codec
import Courier.Proofs.Json.Members
/-!
Manifests that are written and read back. A manifest has many trees, because the entries of its
tables may come in any order. Main statement: whichever of them is written, and in either form, the
manifest is read back from the text.
-/

namespace Courier

open Json

def PackageVariant.Spells (variant : PackageVariant) (tree : Json) : Prop :=
  tree = variant.toJson

def SpellsText (text : String) (tree : Json) : Prop :=
  tree = .string text

def FileInfo.Spells (info : FileInfo) (tree : Json) : Prop :=
  ∃ checksums, SpellsTable SpellsText info.checksums checksums ∧
    tree = info.treeWith checksums

def SelectorTree.Spells (packages : SelectorTree) (tree : Json) : Prop :=
  SpellsTable (SpellsTable (SpellsTable PackageVariant.Spells)) packages tree

namespace Manifest

/-- The trees of a manifest: the entries of each table come in any order. -/
def Spells (manifest : Manifest) (tree : Json) : Prop :=
  ∃ packages files, SelectorTree.Spells manifest.packages packages ∧
    SpellsTable FileInfo.Spells manifest.files files ∧ tree = manifest.treeWith packages files

end Manifest

section Tables

variable {α : Type} {spells : α → Json → Prop} {value : α → Json}

theorem spellsEntries_map (each : ∀ entry, spells entry (value entry))
    (entries : List (String × α)) :
    SpellsEntries spells entries (entries.map fun entry => (entry.1, value entry.2)) := by
  induction entries with
  | nil => exact .none
  | cons entry rest ih => exact .next (each entry.2) ih

theorem spellsTable_toJson (each : ∀ entry, spells entry (value entry)) (table : Table α) :
    SpellsTable spells table (Table.toJson value table) :=
  ⟨table.toList, _, rfl, .refl _, spellsEntries_map each table.toList⟩

end Tables

theorem PackageVariant.spells_toJson (variant : PackageVariant) : variant.Spells variant.toJson :=
  rfl

theorem spellsText_string (text : String) : SpellsText text (.string text) :=
  rfl

theorem SelectorTree.spells_toJson (packages : SelectorTree) :
    SelectorTree.Spells packages (SelectorTree.toJson packages) :=
  spellsTable_toJson (spellsTable_toJson (spellsTable_toJson PackageVariant.spells_toJson)) packages

theorem FileInfo.spells_toJson (info : FileInfo) : info.Spells info.toJson :=
  ⟨_, spellsTable_toJson spellsText_string info.checksums, rfl⟩

theorem Manifest.spells_toJson (manifest : Manifest) : manifest.Spells manifest.toJson :=
  ⟨_, _, SelectorTree.spells_toJson manifest.packages,
    spellsTable_toJson FileInfo.spells_toJson manifest.files, rfl⟩

theorem understands_packageVariant (variant : PackageVariant) (tree : Json)
    (spelled : variant.Spells tree) : Understands PackageVariant.reader tree variant := by
  subst spelled
  refine understands_record (.next rfl (by simp) ((understands_text variant.fileName).map _)
    (.done _)) ?_
  rfl

theorem understands_spellsText (text : String) (tree : Json) (spelled : SpellsText text tree) :
    Understands Json.text tree text := by
  subst spelled
  exact understands_text text

theorem understands_fileInfo (info : FileInfo) (tree : Json) (spelled : info.Spells tree) :
    Understands FileInfo.reader tree info := by
  obtain ⟨checksums, table, rfl⟩ := spelled
  have checks := understands_table understands_spellsText table
  obtain ⟨digests, location, size⟩ := info
  cases location with
  | none =>
      cases size with
      | none =>
          exact understands_record (.next rfl (by simp) (checks.map _) (.done _)) rfl
      | some size =>
          have sizes := (understands_unsigned64 size).optional (by simp)
          exact understands_record (.next rfl (by simp) (checks.map _)
            (.next rfl (by simp [RecordField.of]) (sizes.map _) (.done _))) rfl
  | some location =>
      have locations := (understands_text location).optional (by simp)
      cases size with
      | none =>
          exact understands_record (.next rfl (by simp) (checks.map _)
            (.next rfl (by simp [RecordField.of]) (locations.map _) (.done _))) rfl
      | some size =>
          have sizes := (understands_unsigned64 size).optional (by simp)
          exact understands_record (.next rfl (by simp) (checks.map _)
            (.next rfl (by simp [RecordField.of]) (locations.map _)
              (.next rfl (by simp [RecordField.of]) (sizes.map _) (.done _)))) rfl

theorem understands_selectorTree (packages : SelectorTree) (tree : Json)
    (spelled : SelectorTree.Spells packages tree) :
    Understands SelectorTree.reader tree packages :=
  understands_table (fun _ _ versions =>
    understands_table (fun _ _ architectures =>
      understands_table understands_packageVariant architectures) versions) spelled

theorem understands_manifest (manifest : Manifest) (tree : Json) (spelled : manifest.Spells tree) :
    Understands Manifest.reader tree manifest := by
  obtain ⟨packages, files, spelledPackages, spelledFiles, rfl⟩ := spelled
  have selectors := understands_selectorTree manifest.packages packages spelledPackages
  have table := understands_table understands_fileInfo spelledFiles
  obtain ⟨schemaVersion, version, held, infos⟩ := manifest
  have versions := understands_text version
  unfold Manifest.treeWith
  cases empty : schemaVersion.isEmpty with
  | true =>
      rw [String.isEmpty_iff] at empty
      subst empty
      exact understands_record (.next rfl (by simp) (versions.map _)
        (.next rfl (by simp [RecordField.of]) (selectors.map _)
          (.next rfl (by simp [RecordField.of]) (table.map _) (.done _)))) rfl
  | false =>
      have schemas := understands_text schemaVersion
      exact understands_record (.next rfl (by simp) (schemas.map _)
        (.next rfl (by simp [RecordField.of]) (versions.map _)
          (.next rfl (by simp [RecordField.of]) (selectors.map _)
            (.next rfl (by simp [RecordField.of]) (table.map _) (.done _))))) rfl

namespace Manifest

theorem parse_of_written {manifest : Manifest} {tree : Json} (spelled : manifest.Spells tree)
    {bytes : Bytes} (written : Written tree bytes) : parse bytes = .ok manifest := by
  have reads := understands_manifest manifest tree spelled bytes written
  unfold parse
  rw [parse_of_reads reads]

/-- The tree that is written of a manifest is one of its trees, and from the text of any of them the
manifest is read back, in the compact form and in that with lines, whatever the order of the entries
of its tables. -/
theorem parse_of_spells (manifest : Manifest) :
    manifest.Spells manifest.toJson ∧
      ∀ tree, manifest.Spells tree →
        parse (Utf8.encode tree.compact) = .ok manifest ∧
          parse (Utf8.encode tree.pretty) = .ok manifest := by
  refine ⟨manifest.spells_toJson, fun tree spelled => ?_⟩
  obtain ⟨compact, pretty⟩ := written_encode tree
  exact ⟨parse_of_written spelled compact, parse_of_written spelled pretty⟩

def withOddNames : Manifest where
  version := "\n"
  files := ((∅ : Table FileInfo).insert "a\"\\" { size := some 0xFFFFFFFFFFFFFFFF }).insert
    "z\x01𝄞" { downloadLocation := some "" }

def oddNamesReversed : Json :=
  .object [("z\x01𝄞", FileInfo.toJson { downloadLocation := some "" }),
    ("a\"\\", FileInfo.toJson { size := some 0xFFFFFFFFFFFFFFFF })]

theorem parse_of_spells_reversed :
    let tree := withOddNames.treeWith (.object []) oddNamesReversed
    withOddNames.Spells tree ∧ tree.compact ≠ withOddNames.toJson.compact ∧
      parse (Utf8.encode tree.compact) = .ok withOddNames := by
  have files : SpellsTable FileInfo.Spells withOddNames.files oddNamesReversed :=
    ⟨[("z\x01𝄞", { downloadLocation := some "" }),
      ("a\"\\", { size := some 0xFFFFFFFFFFFFFFFF })], _, rfl, by decide +kernel,
      .next (FileInfo.spells_toJson _) (.next (FileInfo.spells_toJson _) .none)⟩
  have spelled : withOddNames.Spells (withOddNames.treeWith (.object []) oddNamesReversed) :=
    ⟨_, _, SelectorTree.spells_toJson ∅, files, rfl⟩
  obtain ⟨-, reads⟩ := parse_of_spells withOddNames
  exact ⟨spelled, by decide +kernel, (reads _ spelled).1⟩

end Manifest

end Courier
