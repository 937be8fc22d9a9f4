import Courier.Proofs.Cache.Memory
import Courier.Proofs.Manifest.Relayout
/-!
Caches whose texts are laid out anew. Main statement: a text that is laid out anew is read as the
same manifest, and where texts in a cache are replaced by such ones, a service finds the same
manifests unchanged, selects the same files and ends in the same way.
-/

namespace Courier

open Json

variable {σ : Type} {related : σ → σ → Prop}

/-- The same outcome of a read, but for the layout of what was read. -/
inductive SameContent : Except Failure Bytes → Except Failure Bytes → Prop
  | same (outcome : Except Failure Bytes) : SameContent outcome outcome
  | relaid {before after : Bytes} (relaid : Manifest.Relaid before after) :
      SameContent (.ok before) (.ok after)

theorem SameContent.sameFinding {left right : Except Failure Bytes}
    (same : SameContent left right) :
    SameFinding (left.bind Manifest.parse) (right.bind Manifest.parse) := by
  cases same with
  | same outcome => rfl
  | relaid relaid => exact (Manifest.toOption_parse_relaid relaid).symm

namespace MemoryCache

/-- Texts of the first cache are laid out anew in the second one. -/
def Relaid (before after : MemoryCache) : Prop :=
  ∀ resource version, SameContent (answer resource version (before.get? resource version))
    (answer resource version (after.get? resource version))

theorem lockstep_read (resource version : String) :
    Lockstep Relaid SameContent
      ((cache : ManifestCache (StateM MemoryCache)).read resource version).run
      ((cache : ManifestCache (StateM MemoryCache)).read resource version).run := by
  intro start other relates
  change SameContent (runFrom (cache.read resource version) start).1
      (runFrom (cache.read resource version) other).1 ∧
    Relaid (runFrom (cache.read resource version) start).2
      (runFrom (cache.read resource version) other).2
  rw [runFrom_read, runFrom_read]
  exact ⟨relates resource version, relates⟩

theorem lockstep_write (resource version : String) (bytes : Bytes) :
    Lockstep Relaid Eq
      ((cache : ManifestCache (StateM MemoryCache)).write resource version bytes).run
      ((cache : ManifestCache (StateM MemoryCache)).write resource version bytes).run := by
  intro start other relates
  refine ⟨rfl, fun otherResource otherVersion => ?_⟩
  change SameContent
    (answer otherResource otherVersion
      ((start.insert resource version bytes).get? otherResource otherVersion))
    (answer otherResource otherVersion
      ((other.insert resource version bytes).get? otherResource otherVersion))
  rw [get?_insert, get?_insert]
  split
  · exact .same _
  · exact relates otherResource otherVersion

theorem relaid_insert {cache : MemoryCache} {resource version : String} {before after : Bytes}
    (stored : cache.get? resource version = some before) (relaid : Manifest.Relaid before after) :
    Relaid cache (cache.insert resource version after) := by
  intro otherResource otherVersion
  rw [get?_insert]
  split
  case isTrue same =>
    obtain ⟨rfl, rfl⟩ := same
    rw [stored]
    exact .relaid relaid
  case isFalse => exact .same _

end MemoryCache

/-- The parts of two services answer alike, but for the layout of the texts in their caches. -/
structure Service.Relaid (related : σ → σ → Prop) (left right : Service (StateM σ)) : Prop where
  manifestBytes : ∀ name version, Lockstep related Eq
    (left.archive.manifestBytes name version).run (right.archive.manifestBytes name version).run
  identifier : ∀ manifest, Lockstep related Eq
    (left.archive.identifier manifest) (right.archive.identifier manifest)
  location : ∀ file name version, Lockstep related Eq
    (left.archive.location file name version).run (right.archive.location file name version).run
  read : ∀ resource version, Lockstep related SameContent
    (left.cache.read resource version).run (right.cache.read resource version).run
  write : ∀ resource version bytes, Lockstep related Eq
    (left.cache.write resource version bytes).run (right.cache.write resource version bytes).run
  collect : Lockstep related Eq left.collect.run right.collect.run
  download : ∀ request, Lockstep related Eq
    (left.download request).run (right.download request).run

namespace Service

variable {left right : Service (StateM σ)}

theorem Relaid.alike (relaid : Relaid related left right) : Alike related left right where
  manifestBytes := relaid.manifestBytes
  identifier := relaid.identifier
  location := relaid.location
  cached resource version start other relates := by
    obtain ⟨same, states⟩ := relaid.read resource version start other relates
    have leftFinds := left.store.runFrom_cached resource version start
    have rightFinds := right.store.runFrom_cached resource version other
    change SameFinding (runFrom (left.store.cached resource version) start).1
        (runFrom (right.store.cached resource version) other).1 ∧
      related (runFrom (left.store.cached resource version) start).2
        (runFrom (right.store.cached resource version) other).2
    rw [leftFinds, rightFinds]
    exact ⟨same.sameFinding, states⟩
  write := relaid.write
  collect := relaid.collect
  download := relaid.download

/-- Two services find the same manifests unchanged, select the same files, and download alike. -/
structure DownloadAlike (related : σ → σ → Prop) (left right : Service (StateM σ))
    (tracer clock : StateM σ Int64) : Prop where
  downloadManifest : ∀ name version, TracedLockstep related Eq
    (left.downloadManifest tracer name version) (right.downloadManifest clock name version)
  selectFile : ∀ name version opened, TracedLockstep related (fun ending twin => ending.2 = twin.2)
    (left.selectFile tracer name version opened) (right.selectFile clock name version opened)
  downloadArtifact : ∀ name version, TracedLockstep related Eq
    (left.downloadArtifact tracer name version) (right.downloadArtifact clock name version)

theorem Relaid.downloadAlike (relaid : Relaid related left right) {tracer clock : StateM σ Int64}
    (readings : Lockstep related Eq tracer clock) :
    DownloadAlike related left right tracer clock where
  downloadManifest := relaid.alike.downloadManifest readings
  selectFile name version opened trace noted start other outlines relates := by
    obtain ⟨⟨-, selected⟩, traces, states⟩ :=
      relaid.alike.selectFile readings name version opened trace noted start other outlines relates
    exact ⟨selected, traces, states⟩
  downloadArtifact := relaid.alike.downloadArtifact readings

def replacing (service : Service (StateM σ)) (before after : Bytes) : Service (StateM σ) :=
  { service with
    cache :=
      { service.cache with
        read := fun resource version =>
          (fun bytes => if bytes = before then after else bytes) <$>
            service.cache.read resource version } }

theorem relaid_replacing (service : Service (StateM σ)) {before after : Bytes}
    (relaid : Manifest.Relaid before after) :
    Relaid Eq service (service.replacing before after) where
  manifestBytes _ _ := lockstep_refl _
  identifier _ := lockstep_refl _
  location _ _ _ := lockstep_refl _
  read resource version := by
    have reads : ((service.replacing before after).cache.read resource version).run =
        Except.map (fun bytes => if bytes = before then after else bytes) <$>
          (service.cache.read resource version).run :=
      ExceptT.run_map _ _
    rw [reads, ← bind_pure_comp, ← bind_pure (service.cache.read resource version).run]
    refine (lockstep_refl _).bind ?_
    rintro outcome _ rfl
    refine lockstep_pure ?_
    cases outcome with
    | error failure => exact .same _
    | ok bytes =>
        dsimp only [Except.map]
        split
        case isTrue replaced =>
          subst replaced
          exact .relaid relaid
        case isFalse => exact .same _
  write _ _ _ := lockstep_refl _
  collect := lockstep_refl _
  download _ := lockstep_refl _

/-- A text that is laid out anew is read as the same manifest. A service does not notice when its
cache has the one in place of the other, and no two services differ whose caches differ, in whatever
states, by texts that are laid out anew. -/
theorem layout_unnoticed {before after : Bytes} (relaid : Manifest.Relaid before after)
    (services : Relaid related left right) {tracer clock : StateM σ Int64}
    (readings : Lockstep related Eq tracer clock) :
    (∀ manifest, Manifest.parse before = .ok manifest ↔ Manifest.parse after = .ok manifest) ∧
      DownloadAlike Eq left (left.replacing before after) tracer tracer ∧
      DownloadAlike related left right tracer clock :=
  ⟨Manifest.parse_relaid relaid,
    (left.relaid_replacing relaid).downloadAlike (lockstep_refl tracer),
    services.downloadAlike readings⟩

end Service

/-- A field is called by its other name, a member that nobody knows is put in, the members are
reversed, and the text is broken into lines. -/
theorem Service.layout_unnoticed_renamed :
    let packages (key : String) : Json :=
      .object [("_any", .object [("_any", .object [("_any", .object [(key, .string "a")])])])]
    let files (info : List (String × Json)) : Json := .object [("a", .object info)]
    let tree : Json := .object [("version", .string "1"), ("packages", packages "file"),
      ("files", files [])]
    let other : Json := .object [("files", files [("x", .array [.null])]),
      ("packages", packages "fileName"), ("version", .string "1")]
    let before := Utf8.encode tree.compact
    let after := Utf8.encode other.pretty
    let start := ({} : MemoryCache).insert "pkg" "1" before
    let changed := start.insert "pkg" "1" after
    let service : Service (StateM MemoryCache) :=
      { archive :=
          { name := pure "documents"
            manifestBytes := fun _ _ => pure before
            identifier := fun _ => pure "pkg"
            canonical := fun name version => pure (name, version)
            location := fun _ _ _ => pure "http://127.0.0.1/a" }
        cache := MemoryCache.cache
        collect := pure default
        download := fun request => throw (.timeout request.sourceUrl 1)
        submit := fun _ => pure ()
        clock := pure 0 }
    let opened : TraceSection := { operation := "download artifact", startNanos := 0 }
    let summary (cache : MemoryCache) :=
      (runTraced (service.downloadManifest (pure 0) "pkg" "1") [] cache).1
    let selected (cache : MemoryCache) :=
      (runTraced (service.selectFile (pure 0) "pkg" "1" opened) [] cache).1.2
    Manifest.Relaid before after ∧ service.Relaid MemoryCache.Relaid service ∧
      MemoryCache.Relaid start changed ∧ before ≠ after ∧
      summary start = .ok { resource := "pkg", version := "1", unchanged := true } ∧
      summary changed = summary start ∧
      selected start = .ok { name := "a", info := {} } ∧ selected changed = selected start := by
  intro packages files tree other before after start changed service opened summary selected
  -- Three changes: a member is renamed, an unknown one is put in, and the order is reversed.
  have renamed : Relays Manifest.shape tree.form (form (.object [("version", .string "1"),
      ("packages", packages "fileName"), ("files", files [])])) := by
    refine @Relays.member _ [_] _ (escaped "packages") _ _ ?_
    unfold Manifest.shape
    rw [Shape.member_escaped]
    refine @Relays.member _ [] [] (escaped "_any") _ _ ?_
    refine @Relays.member _ [] [] (escaped "_any") _ _ ?_
    refine @Relays.member _ [] [] (escaped "_any") _ _ ?_
    exact @Relays.rename _ _ [] [] _ _ "file" "fileName" _ List.mem_cons_self
      (spelled?_escaped _) (spelled?_escaped _)
  have inserted : Relays Manifest.shape (form (.object [("version", .string "1"),
      ("packages", packages "fileName"), ("files", files [])]))
      (form (.object [("version", .string "1"), ("packages", packages "fileName"),
        ("files", files [("x", .array [.null])])])) := by
    refine @Relays.member _ [_, _] [] (escaped "files") _ _ ?_
    unfold Manifest.shape
    rw [Shape.member_escaped]
    refine @Relays.member _ [] [] (escaped "a") _ _ ?_
    exact @Relays.insert _ _ [] [] _ "x" _ (spelled?_escaped _) (by decide)
  have permuted : Relays Manifest.shape (form (.object [("version", .string "1"),
      ("packages", packages "fileName"), ("files", files [("x", .array [.null])])])) other.form :=
    .permute_form Manifest.shape (by decide) (List.reverse_perm _).symm
  have relaid : Manifest.Relaid before after :=
    ⟨tree.form, other.form, (written_encode tree).1.spreads,
      .head renamed (.head inserted (.single permuted)), (written_encode other).2.spreads⟩
  have services : service.Relaid MemoryCache.Relaid service :=
    { manifestBytes := fun _ _ => lockstep_pure rfl
      identifier := fun _ => lockstep_pure rfl
      location := fun _ _ _ => lockstep_pure rfl
      read := MemoryCache.lockstep_read
      write := MemoryCache.lockstep_write
      collect := lockstep_pure rfl
      download := fun _ => lockstep_pure rfl }
  have states : MemoryCache.Relaid start changed :=
    MemoryCache.relaid_insert (by rw [MemoryCache.get?_insert, if_pos ⟨rfl, rfl⟩]) relaid
  have differ : before ≠ after := by decide +kernel
  have readings : Lockstep MemoryCache.Relaid Eq (pure 0 : StateM MemoryCache Int64) (pure 0) :=
    lockstep_pure rfl
  have found : summary start = .ok { resource := "pkg", version := "1", unchanged := true } := by
    decide +kernel
  have file : selected start = .ok { name := "a", info := {} } := by decide +kernel
  obtain ⟨-, -, alike⟩ := Service.layout_unnoticed relaid services readings
  have sameSummary : summary start = summary changed :=
    (alike.downloadManifest "pkg" "1" [] [] start changed rfl states).1
  have sameFile : selected start = selected changed :=
    (alike.selectFile "pkg" "1" opened [] [] start changed rfl states).1
  exact ⟨relaid, services, states, differ, found, sameSummary.symm, file, sameFile.symm⟩

end Courier
