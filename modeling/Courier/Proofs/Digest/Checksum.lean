import Courier.Digest.Checksum
import Courier.Files.System
import Courier.Proofs.Run
/-!
Checks of a file against listed digests. A check reads the file anew for every digest whose
algorithm is known, and ends with the first one that the file does not have. Main statements: what a
check of a list comes to, and that for a table of digests the order of its entries decides no more
than which one is named of several digests that the file does not have.
-/

namespace Courier

variable {σ : Type}

/-- Whether digests of the algorithm are checked. The case of its name does not matter. -/
def IsKnownAlgorithm (name : String) : Prop :=
  Text.lowerAscii name = "sha256" ∨ Text.lowerAscii name = "sha512"

instance (name : String) : Decidable (IsKnownAlgorithm name) :=
  inferInstanceAs (Decidable (_ ∨ _))

/-- Content has a digest that a manifest lists, if the name of the digest's algorithm is known. The
case of names and digests does not matter, and neither do blanks around a digest. -/
def HasDigest (content : Bytes) (algorithm expected : String) : Prop :=
  (Text.lowerAscii algorithm = "sha256" →
    Text.lowerAscii (Sha2.hexText (Sha2.sha256.digest content)) =
      Text.lowerAscii (Text.trim expected)) ∧
  (Text.lowerAscii algorithm = "sha512" →
    Text.lowerAscii (Sha2.hexText (Sha2.sha512.digest content)) =
      Text.lowerAscii (Text.trim expected))

def HasDigests (content : Bytes) (checksums : Table String) : Prop :=
  ∀ algorithm expected, checksums[algorithm]? = some expected →
    HasDigest content algorithm expected

theorem length_lowerAscii (text : String) : (Text.lowerAscii text).length = text.length := by
  unfold Text.lowerAscii
  rw [String.length_ofList, List.length_map, String.length_toList]

theorem exists_of_not_hasDigests {content : Bytes} {checksums : Table String}
    (lacks : ¬HasDigests content checksums) :
    ∃ algorithm expected, checksums[algorithm]? = some expected ∧
      ¬HasDigest content algorithm expected := by
  unfold HasDigests at lacks
  simpa only [not_forall, exists_prop] using lacks

theorem ofName?_eq_none_iff {name : String} :
    ChecksumAlgorithm.ofName? name = none ↔ ¬IsKnownAlgorithm name := by
  unfold ChecksumAlgorithm.ofName? IsKnownAlgorithm
  dsimp only
  split
  · next first => simp [first]
  · next other =>
      split
      · next second => simp [second]
      · next neither => simp [other, neither]

theorem isKnownAlgorithm_of_ofName? {name : String} {algorithm : ChecksumAlgorithm}
    (known : ChecksumAlgorithm.ofName? name = some algorithm) : IsKnownAlgorithm name := by
  apply Decidable.of_not_not
  intro unknown
  rw [ofName?_eq_none_iff.mpr unknown] at known
  cases known

theorem ofName?_of_isKnownAlgorithm {name : String} (known : IsKnownAlgorithm name) :
    ∃ algorithm, ChecksumAlgorithm.ofName? name = some algorithm := by
  cases found : ChecksumAlgorithm.ofName? name with
  | none => exact absurd known (ofName?_eq_none_iff.mp found)
  | some algorithm => exact ⟨algorithm, rfl⟩

theorem hasDigest_of_unknown {name : String} (unknown : ¬IsKnownAlgorithm name)
    (content : Bytes) (expected : String) : HasDigest content name expected :=
  ⟨fun named => absurd (.inl named) unknown, fun named => absurd (.inr named) unknown⟩

theorem hasDigest_iff_accepts {name : String} {algorithm : ChecksumAlgorithm}
    (known : ChecksumAlgorithm.ofName? name = some algorithm) (content : Bytes)
    (expected : String) :
    HasDigest content name expected ↔
      ChecksumAlgorithm.accepts (algorithm.digest content) expected = true := by
  unfold ChecksumAlgorithm.ofName? at known
  dsimp only at known
  unfold HasDigest ChecksumAlgorithm.accepts
  rw [beq_iff_eq]
  split at known
  · next named =>
      obtain rfl := Option.some.inj known
      simp [named, ChecksumAlgorithm.digest, ChecksumAlgorithm.member]
  · next other =>
      split at known
      · next named =>
          obtain rfl := Option.some.inj known
          simp [named, ChecksumAlgorithm.digest, ChecksumAlgorithm.member]
      · cases known

def judge (path : Path) (reading : Except IoFault Bytes) (algorithm : ChecksumAlgorithm)
    (expected : String) : Except Failure Unit :=
  match reading with
  | .error fault => .error (.readFailed path fault)
  | .ok content =>
    if ChecksumAlgorithm.accepts (algorithm.digest content) expected then .ok ()
    else .error (.checksumMismatch (path.fileName?.getD "") algorithm.name expected
      (algorithm.digest content))

theorem judge_eq_ok_iff {name : String} {algorithm : ChecksumAlgorithm}
    (known : ChecksumAlgorithm.ofName? name = some algorithm) (path : Path)
    (reading : Except IoFault Bytes) (expected : String) :
    judge path reading algorithm expected = .ok () ↔
      ∃ content, reading = .ok content ∧ HasDigest content name expected := by
  cases reading with
  | error fault => simp [judge]
  | ok content =>
      unfold judge
      dsimp only
      split
      · next accepted => simp [hasDigest_iff_accepts known, accepted]
      · next rejected => simp [hasDigest_iff_accepts known, rejected]

section Reading

variable {files : FileAccess (StateM σ)} {path : Path} {reading : Except IoFault Bytes} {state : σ}

theorem runFrom_verifyDigest (reads : runFrom (files.read path) state = (reading, state))
    (algorithm : ChecksumAlgorithm) (expected : String) :
    runFrom (files.verifyDigest path algorithm expected) state =
      (judge path reading algorithm expected, state) := by
  unfold FileAccess.verifyDigest FileAccess.digest judge
  rw [bind_assoc, runFrom_bind, runFrom_outcome, reads]
  cases reading with
  | error fault => rfl
  | ok content =>
      dsimp only
      rw [pure_bind]
      split
      · exact runFrom_pure _ _
      · exact runFrom_throw _ _

/-! ### The check of a list -/

def countKnown (listed : List (String × String)) : Nat :=
  listed.countP fun entry => IsKnownAlgorithm entry.1

/-- What the check of a list can come to: everything in it passes, or an entry fails. -/
inductive Verdict (path : Path) (reading : Except IoFault Bytes) (listed : List (String × String)) :
    Except Failure Nat → Prop
  | passed
      (all : ∀ name expected algorithm, (name, expected) ∈ listed →
        ChecksumAlgorithm.ofName? name = some algorithm →
        judge path reading algorithm expected = .ok ()) :
      Verdict path reading listed (.ok (countKnown listed))
  | failed {name expected : String} {algorithm : ChecksumAlgorithm} {failure : Failure}
      (member : (name, expected) ∈ listed)
      (known : ChecksumAlgorithm.ofName? name = some algorithm)
      (fails : judge path reading algorithm expected = .error failure) :
      Verdict path reading listed (.error failure)

theorem Verdict.cons_unknown {name expected : String} {listed : List (String × String)}
    {verdict : Except Failure Nat} (later : Verdict path reading listed verdict)
    (unknown : ChecksumAlgorithm.ofName? name = none) :
    Verdict path reading ((name, expected) :: listed) verdict := by
  cases later with
  | failed member known fails => exact .failed (List.mem_cons_of_mem _ member) known fails
  | passed all =>
      have uncounted : countKnown ((name, expected) :: listed) = countKnown listed := by
        simp [countKnown, ofName?_eq_none_iff.mp unknown]
      rw [← uncounted]
      refine .passed ?_
      intro other digest algorithm member known
      rcases List.mem_cons.mp member with same | inside
      · obtain ⟨rfl, rfl⟩ := Prod.mk.inj same
        rw [unknown] at known
        cases known
      · exact all other digest algorithm inside known

theorem Verdict.cons_passed {name expected : String} {algorithm : ChecksumAlgorithm}
    {listed : List (String × String)} {verdict : Except Failure Nat}
    (later : Verdict path reading listed verdict)
    (known : ChecksumAlgorithm.ofName? name = some algorithm)
    (passes : judge path reading algorithm expected = .ok ()) :
    Verdict path reading ((name, expected) :: listed) (verdict.map (· + 1)) := by
  cases later with
  | failed member known fails => exact .failed (List.mem_cons_of_mem _ member) known fails
  | passed all =>
      have counted : countKnown ((name, expected) :: listed) = countKnown listed + 1 := by
        simp [countKnown, isKnownAlgorithm_of_ofName? known]
      change Verdict path reading _ (.ok (countKnown listed + 1))
      rw [← counted]
      refine .passed ?_
      intro other digest another member knownOther
      rcases List.mem_cons.mp member with same | inside
      · obtain ⟨rfl, rfl⟩ := Prod.mk.inj same
        rw [known] at knownOther
        obtain rfl := Option.some.inj knownOther
        exact passes
      · exact all other digest another inside knownOther

theorem runFrom_verifyList (reads : runFrom (files.read path) state = (reading, state))
    (listed : List (String × String)) :
    ∃ verdict, runFrom (files.verifyList path listed) state = (verdict, state) ∧
      Verdict path reading listed verdict := by
  induction listed with
  | nil => exact ⟨.ok 0, rfl, .passed fun name expected algorithm member => nomatch member⟩
  | cons entry rest ih =>
      obtain ⟨name, expected⟩ := entry
      obtain ⟨verdict, checks, later⟩ := ih
      unfold FileAccess.verifyList
      cases known : ChecksumAlgorithm.ofName? name with
      | none => exact ⟨verdict, checks, later.cons_unknown known⟩
      | some algorithm =>
          dsimp only
          rw [runFrom_bind, runFrom_verifyDigest reads]
          cases judged : judge path reading algorithm expected with
          | error failure => exact ⟨_, rfl, .failed List.mem_cons_self known judged⟩
          | ok done =>
              refine ⟨_, ?_, later.cons_passed known judged⟩
              dsimp only
              rw [runFrom_bind, checks]
              cases verdict with
              | ok count => rfl
              | error failure => rfl

theorem verifyList_of_countKnown_eq_zero {listed : List (String × String)}
    (none : countKnown listed = 0) : files.verifyList path listed = pure 0 := by
  induction listed with
  | nil => rfl
  | cons entry rest ih =>
      have unknown := List.countP_eq_zero.mp none
      have first : ChecksumAlgorithm.ofName? entry.1 = .none :=
        ofName?_eq_none_iff.mpr (by simpa using unknown entry List.mem_cons_self)
      have later : countKnown rest = 0 :=
        List.countP_eq_zero.mpr fun other member => unknown other (List.mem_cons_of_mem _ member)
      unfold FileAccess.verifyList
      rw [first]
      exact ih later

end Reading

namespace Verdict

variable {path : Path} {reading : Except IoFault Bytes} {listed : List (String × String)}
  {verdict : Except Failure Nat}

theorem eq_ok_iff (verdictOf : Verdict path reading listed verdict) (count : Nat) :
    verdict = .ok count ↔ count = countKnown listed ∧
      ∀ name expected, (name, expected) ∈ listed → IsKnownAlgorithm name →
        ∃ content, reading = .ok content ∧ HasDigest content name expected := by
  cases verdictOf with
  | passed all =>
      constructor
      · intro same
        refine ⟨(Except.ok.inj same).symm, ?_⟩
        intro name expected member known
        obtain ⟨algorithm, found⟩ := ofName?_of_isKnownAlgorithm known
        exact (judge_eq_ok_iff found path reading expected).mp
          (all name expected algorithm member found)
      · rintro ⟨rfl, -⟩
        rfl
  | failed member known fails =>
      constructor
      · intro same
        cases same
      · rintro ⟨-, all⟩
        have passes := (judge_eq_ok_iff known path reading _).mpr
          (all _ _ member (isKnownAlgorithm_of_ofName? known))
        rw [passes] at fails
        cases fails

theorem eq_readFailed {fault : IoFault} (verdictOf : Verdict path (.error fault) listed verdict)
    (some : countKnown listed ≠ 0) : verdict = .error (.readFailed path fault) := by
  cases verdictOf with
  | failed member known fails =>
      obtain rfl := Except.error.inj fails
      rfl
  | passed all =>
      obtain ⟨entry, member, known⟩ := List.countP_pos_iff.mp (Nat.pos_of_ne_zero some)
      obtain ⟨algorithm, found⟩ := ofName?_of_isKnownAlgorithm (of_decide_eq_true known)
      cases all entry.1 entry.2 algorithm member found

theorem eq_mismatch {content : Bytes} {name expected : String}
    (verdictOf : Verdict path (.ok content) listed verdict) (member : (name, expected) ∈ listed)
    (lacks : ¬HasDigest content name expected) :
    ∃ name expected algorithm, (name, expected) ∈ listed ∧
      ChecksumAlgorithm.ofName? name = some algorithm ∧ ¬HasDigest content name expected ∧
      verdict = .error (.checksumMismatch (path.fileName?.getD "") algorithm.name expected
        (algorithm.digest content)) := by
  cases verdictOf with
  | passed all =>
      have known : IsKnownAlgorithm name :=
        Decidable.of_not_not fun unknown => lacks (hasDigest_of_unknown unknown content expected)
      obtain ⟨algorithm, found⟩ := ofName?_of_isKnownAlgorithm known
      obtain ⟨held, same, has⟩ :=
        (judge_eq_ok_iff found path _ expected).mp (all name expected algorithm member found)
      obtain rfl := Except.ok.inj same
      exact absurd has lacks
  | @failed other digest algorithm failure inside known fails =>
      refine ⟨other, digest, algorithm, inside, known, ?_, ?_⟩
      · intro has
        rw [(judge_eq_ok_iff known path _ digest).mpr ⟨content, rfl, has⟩] at fails
        cases fails
      · unfold judge at fails
        dsimp only at fails
        split at fails
        · cases fails
        · exact congrArg Except.error (Except.error.inj fails).symm

end Verdict

theorem mem_iff_of_perm {expected : Table String} {entries : List (String × String)}
    (order : entries.Perm expected.toList) (name digest : String) :
    (name, digest) ∈ entries ↔ expected[name]? = some digest :=
  order.mem_iff.trans Std.ExtTreeMap.mem_toList_iff_getElem?_eq_some

theorem Verdict.hasDigests {path : Path} {content : Bytes} {checksums : Table String}
    {verdict : Except Failure Nat} {count : Nat}
    (verdictOf : Verdict path (.ok content) checksums.toList verdict)
    (passed : verdict = .ok count) : HasDigests content checksums := by
  intro name expected listed
  by_cases known : IsKnownAlgorithm name
  · have member := (mem_iff_of_perm (List.Perm.refl _) name expected).mpr listed
    obtain ⟨held, same, has⟩ := ((verdictOf.eq_ok_iff count).mp passed).2 name expected member known
    obtain rfl := Except.ok.inj same
    exact has
  · exact hasDigest_of_unknown known content expected

/-- The order in which the entries of a table are checked does not matter. The check passes if and
only if the file has every listed digest whose algorithm is known, and then counts them; without any
it does not touch the file. A file that cannot be read is reported as such, and otherwise a digest
that it does not have is named, with the true one. -/
theorem verifyList_in_any_order {files : FileAccess (StateM σ)} {path : Path}
    {reading : Except IoFault Bytes} {state : σ}
    (reads : runFrom (files.read path) state = (reading, state)) (expected : Table String)
    {entries : List (String × String)} (order : entries.Perm expected.toList) :
    let checked := runFrom (files.verifyList path entries) state
    let supported := expected.toList.countP fun entry => IsKnownAlgorithm entry.1
    checked.2 = state ∧
    (∀ count, checked.1 = .ok count ↔ count = supported ∧
      ∀ name digest, expected[name]? = some digest → IsKnownAlgorithm name →
        ∃ content, reading = .ok content ∧ HasDigest content name digest) ∧
    (∀ count, checked.1 = .ok count ↔
      (runFrom (files.verifyChecksums path expected) state).1 = .ok count) ∧
    (supported = 0 → files.verifyList path entries = pure 0) ∧
    (∀ fault, reading = .error fault → supported ≠ 0 →
      checked.1 = .error (.readFailed path fault)) ∧
    (∀ content, reading = .ok content → ¬HasDigests content expected →
      ∃ name digest algorithm, expected[name]? = some digest ∧
        ChecksumAlgorithm.ofName? name = some algorithm ∧ ¬HasDigest content name digest ∧
        checked.1 = .error (.checksumMismatch (path.fileName?.getD "") algorithm.name digest
          (algorithm.digest content))) := by
  intro checked supported
  have counted : countKnown entries = supported := order.countP_eq _
  have listed := mem_iff_of_perm order
  obtain ⟨verdict, checks, verdictOf⟩ := runFrom_verifyList reads entries
  obtain ⟨verdictInOrder, checksInOrder, verdictOfTable⟩ :=
    runFrom_verifyList reads expected.toList
  have ended : checked = (verdict, state) := checks
  rw [ended]
  -- A verdict speaks of entries only as members of the list, so their order does not matter.
  have accepts : ∀ count, verdict = .ok count ↔ count = supported ∧
      ∀ name digest, expected[name]? = some digest → IsKnownAlgorithm name →
        ∃ content, reading = .ok content ∧ HasDigest content name digest := by
    intro count
    rw [verdictOf.eq_ok_iff count, counted]
    simp only [listed]
  refine ⟨rfl, accepts, ?_, ?_, ?_, ?_⟩
  · intro count
    change _ ↔ (runFrom (files.verifyList path expected.toList) state).1 = .ok count
    rw [checksInOrder]
    dsimp only
    rw [accepts, verdictOfTable.eq_ok_iff count]
    simp only [mem_iff_of_perm (List.Perm.refl _)]
    rfl
  · intro none
    exact verifyList_of_countKnown_eq_zero (counted.trans none)
  · rintro fault rfl some
    exact verdictOf.eq_readFailed (by rwa [counted])
  · rintro content rfl lacks
    obtain ⟨name, digest, given, differs⟩ := exists_of_not_hasDigests lacks
    obtain ⟨name, digest, algorithm, member, known, differs, fails⟩ :=
      verdictOf.eq_mismatch ((listed name digest).mpr given) differs
    exact ⟨name, digest, algorithm, (listed name digest).mp member, known, differs, fails⟩

/-- Of the two digests that are checked the file lacks one, which is named. -/
theorem verifyList_in_any_order_backwards :
    let system : FileSystem := ({} : FileSystem).put ["a"] (.file [])
    let digest := "E3B0C44298FC1C149AFBF4C8996FB92427AE41E4649B934CA495991B7852B855"
    let expected : Table String :=
      .ofList [("SHA256", " " ++ digest), ("md5", "0"), ("sha512", "0")]
    let entries := [("sha512", "0"), ("md5", "0"), ("SHA256", " " ++ digest)]
    let files : FileAccess (StateM FileSystem) := FileSystem.access
    let path : Path := { text := "/a" }
    runFrom (files.read path) system = (.ok [], system) ∧ entries.Perm expected.toList ∧
    HasDigest [] "SHA256" (" " ++ digest) ∧ ¬HasDigests [] expected ∧
    ∃ name digest algorithm, expected[name]? = some digest ∧
      ChecksumAlgorithm.ofName? name = some algorithm ∧ ¬HasDigest [] name digest ∧
      (runFrom (files.verifyList path entries) system).1 =
        .error (.checksumMismatch "a" algorithm.name digest (algorithm.digest [])) := by
  intro system digest expected entries files path
  have reads : runFrom (files.read path) system = (.ok [], system) := by decide +kernel
  have order : entries.Perm expected.toList := by decide +kernel
  have has : HasDigest [] "SHA256" (" " ++ digest) :=
    ⟨fun _ => by decide +kernel, fun other => absurd other (by decide)⟩
  have lacks : ¬HasDigests [] expected := by
    intro all
    have same := (all "sha512" "0" (by decide +kernel)).2 (by decide)
    have lengths := congrArg String.length same
    rw [length_lowerAscii, Sha2.length_hexText, Sha2.length_digest] at lengths
    exact absurd lengths (by decide)
  obtain ⟨-, -, -, -, -, names⟩ := verifyList_in_any_order reads expected order
  rw [show path.fileName?.getD "" = "a" by decide +kernel] at names
  exact ⟨reads, order, has, lacks, names [] rfl lacks⟩

end Courier
