import Courier.Manifest.Codec
import Courier.Proofs.Json.Relayout
import Courier.Proofs.Lockstep
/-!
Manifests in other layouts. Main statement: a text of a manifest that is laid out anew, with other
blanks, members in another order, members that nobody knows, or other names of fields, is read as
the same manifest, and a service does not notice when texts in its cache are laid out anew.
-/

namespace Courier

open Json

def PackageVariant.shape : Shape :=
  .record [("file", some "fileName")] fun _ => .any

def FileInfo.shape : Shape :=
  .record [("checksums", none), ("downloadLocation", none), ("size", none)] fun _ => .any

def SelectorTree.shape : Shape :=
  .table (.table (.table PackageVariant.shape))

def Manifest.shape : Shape :=
  .record [("schemaVersion", none), ("version", none), ("packages", none), ("files", none)]
    fun name =>
      if name = "packages" then SelectorTree.shape
      else if name = "files" then .table FileInfo.shape
      else .any

/-- The second text is a layout of the first one, by any changes of its form and of its blanks. -/
def Manifest.Relaid (before after : Bytes) : Prop :=
  ∃ form other, form.Spreads before ∧ Relation.ReflTransGen (Relays shape) form other ∧
    other.Spreads after

theorem Json.gets_unsigned64 : Gets unsigned64 (Form.number? unsigned64) :=
  gets_wholeNumber _ _

namespace Json.KnownField

variable {α β ρ : Type}

def of (name : String) {reader : Reader α} {meaning : Form → Option α} (gets : Gets reader meaning)
    (set : α → ρ → ρ) : KnownField ρ where
  field := .of name reader set
  meaning form := (meaning form).map set
  gets := gets.map set
  free := rfl

theorem eq_of_isCalled {first name : String} {reader : Reader α} {meaning : Form → Option α}
    {gets : Gets reader meaning} {set : α → ρ → ρ}
    (called : (of first gets set).field.isCalled name = true) : first = name := by
  rcases Bool.or_eq_true_iff.mp called with same | other
  · exact eq_of_beq same
  · cases other

def orCalled (known : KnownField ρ) (otherName : String) : KnownField ρ where
  field := { known.field with otherName := some otherName }
  meaning := known.meaning
  gets := known.gets
  free := known.free

theorem independent_of {first second : String} {reader : Reader α} {other : Reader β}
    {meaning : Form → Option α} {meaningOther : Form → Option β} (gets : Gets reader meaning)
    (getsOther : Gets other meaningOther) {set : α → ρ → ρ} {setOther : β → ρ → ρ}
    (apart : ∀ value twin record, setOther twin (set value record) =
      set value (setOther twin record)) :
    (of first gets set).Independent (of second getsOther setOther) := by
  intro form twin put putOther means meansOther record
  obtain ⟨value, -, rfl⟩ := Option.map_eq_some_iff.mp means
  obtain ⟨valueOther, -, rfl⟩ := Option.map_eq_some_iff.mp meansOther
  exact apart value valueOther record

end Json.KnownField

namespace PackageVariant

def known : List (KnownField PackageVariant) := [
  (KnownField.of "file" gets_text fun fileName (variant : PackageVariant) =>
    { variant with fileName }).orCalled "fileName"]

theorem fits : Fits known [("file", some "fileName")] fun _ => .any := by
  constructor
  case names => rfl
  case independent => exact List.pairwise_singleton _ _
  case renamed =>
    intro field member other called
    obtain rfl := List.mem_singleton.mp member
    cases called
    rfl
  case respects =>
    intro field member name _
    obtain rfl := List.mem_singleton.mp member
    exact (respects_text .any).map _

def meaning : Form → Option PackageVariant :=
  Form.record? known {}

theorem gets_reader : Gets reader meaning :=
  gets_record "struct PackageVariant" known {}

theorem respects_meaning : Respects meaning shape :=
  fits.respects_record {}

end PackageVariant

namespace FileInfo

def known : List (KnownField FileInfo) := [
  .of "checksums" (gets_table gets_text) fun checksums info => { info with checksums },
  .of "downloadLocation" (gets_optional gets_text)
    fun downloadLocation info => { info with downloadLocation },
  .of "size" (gets_optional gets_unsigned64) fun size info => { info with size }]

theorem fits : Fits known [("checksums", none), ("downloadLocation", none), ("size", none)]
    fun _ => .any := by
  constructor
  case names => rfl
  case independent =>
    refine .cons (fun other member => ?_) (.cons (fun other member => ?_)
      (List.pairwise_singleton _ _))
    · rcases List.mem_pair.mp member with rfl | rfl
      · exact KnownField.independent_of _ _ fun _ _ _ => rfl
      · exact KnownField.independent_of _ _ fun _ _ _ => rfl
    · obtain rfl := List.mem_singleton.mp member
      exact KnownField.independent_of _ _ fun _ _ _ => rfl
  case renamed =>
    intro field member other called
    simp only [known, List.mem_cons, List.not_mem_nil, or_false] at member
    rcases member with rfl | rfl | rfl
    · cases called
    · cases called
    · cases called
  case respects =>
    intro field member name _
    simp only [known, List.mem_cons, List.not_mem_nil, or_false] at member
    rcases member with rfl | rfl | rfl
    · exact (respects_table (respects_text .any)).any.map _
    · exact (respects_text .any).optional.map _
    · exact (respects_number unsigned64 .any).optional.map _

def meaning : Form → Option FileInfo :=
  Form.record? known {}

theorem gets_reader : Gets reader meaning :=
  gets_record "struct FileInfo" known {}

theorem respects_meaning : Respects meaning shape :=
  fits.respects_record {}

end FileInfo

namespace SelectorTree

def meaning : Form → Option SelectorTree :=
  Form.table? (Form.table? (Form.table? PackageVariant.meaning))

theorem gets_reader : Gets reader meaning :=
  gets_table (gets_table (gets_table PackageVariant.gets_reader))

theorem respects_meaning : Respects meaning shape :=
  respects_table (respects_table (respects_table PackageVariant.respects_meaning))

end SelectorTree

namespace Manifest

def known : List (KnownField Manifest) := [
  .of "schemaVersion" gets_text fun schemaVersion manifest => { manifest with schemaVersion },
  .of "version" gets_text fun version manifest => { manifest with version },
  .of "packages" SelectorTree.gets_reader fun packages manifest => { manifest with packages },
  .of "files" (gets_table FileInfo.gets_reader) fun files manifest => { manifest with files }]

theorem fits : Fits known
    [("schemaVersion", none), ("version", none), ("packages", none), ("files", none)]
    fun name =>
      if name = "packages" then SelectorTree.shape
      else if name = "files" then .table FileInfo.shape
      else .any := by
  constructor
  case names => rfl
  case independent =>
    refine .cons (fun other member => ?_) (.cons (fun other member => ?_)
      (.cons (fun other member => ?_) (List.pairwise_singleton _ _)))
    · simp only [List.mem_cons, List.not_mem_nil, or_false] at member
      rcases member with rfl | rfl | rfl
      · exact KnownField.independent_of _ _ fun _ _ _ => rfl
      · exact KnownField.independent_of _ _ fun _ _ _ => rfl
      · exact KnownField.independent_of _ _ fun _ _ _ => rfl
    · rcases List.mem_pair.mp member with rfl | rfl
      · exact KnownField.independent_of _ _ fun _ _ _ => rfl
      · exact KnownField.independent_of _ _ fun _ _ _ => rfl
    · obtain rfl := List.mem_singleton.mp member
      exact KnownField.independent_of _ _ fun _ _ _ => rfl
  case renamed =>
    intro field member other called
    simp only [known, List.mem_cons, List.not_mem_nil, or_false] at member
    rcases member with rfl | rfl | rfl | rfl
    · cases called
    · cases called
    · cases called
    · cases called
  case respects =>
    intro field member name called
    simp only [known, List.mem_cons, List.not_mem_nil, or_false] at member
    rcases member with rfl | rfl | rfl | rfl
    · obtain rfl := KnownField.eq_of_isCalled called
      exact (respects_text .any).map _
    · obtain rfl := KnownField.eq_of_isCalled called
      exact (respects_text .any).map _
    · obtain rfl := KnownField.eq_of_isCalled called
      exact SelectorTree.respects_meaning.map _
    · obtain rfl := KnownField.eq_of_isCalled called
      exact (respects_table FileInfo.respects_meaning).map _

def meaning : Form → Option Manifest :=
  Form.record? known {}

theorem gets_reader : Gets reader meaning :=
  gets_record "struct Manifest" known {}

theorem respects_meaning : Respects meaning shape :=
  fits.respects_record {}

theorem toOption_parse_relaid {before after : Bytes} (relaid : Relaid before after) :
    (parse after).toOption = (parse before).toOption := by
  obtain ⟨form, other, spreads, changes, spreadsOther⟩ := relaid
  have reads : ∀ {form : Form} {text : Bytes}, form.Spreads text →
      (parse text).toOption = meaning form := by
    intro form text spreads
    rw [← gets_reader.parse spreads]
    unfold parse
    cases Json.parse reader text with
    | ok manifest => rfl
    | error fault => rfl
  rw [reads spreads, reads spreadsOther]
  exact respects_meaning.relaid changes

/-- A text that is laid out anew is read as a manifest if the old one is read as that manifest. -/
theorem parse_relaid {before after : Bytes} (relaid : Relaid before after) (manifest : Manifest) :
    parse before = .ok manifest ↔ parse after = .ok manifest := by
  have same := toOption_parse_relaid relaid
  cases reads : parse before with
  | error failure =>
      rw [reads] at same
      cases readsOther : parse after with
      | error other => exact ⟨nofun, nofun⟩
      | ok other =>
          rw [readsOther] at same
          cases same
  | ok known =>
      rw [reads] at same
      cases readsOther : parse after with
      | error other =>
          rw [readsOther] at same
          cases same
      | ok other =>
          rw [readsOther] at same
          cases same
          exact Iff.rfl

end Manifest

end Courier
