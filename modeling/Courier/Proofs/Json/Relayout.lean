import Courier.Proofs.Json.Meaning
import Mathlib.Data.List.Pairwise
import Mathlib.Logic.Relation
/-!
Other layouts of a text. The members of an object may come in another order, members that nobody
knows may be put into a record, and a field may be called by its other name, anywhere in a text.
Main statement: none of this changes the meaning of a form, for any of the readers.
-/

namespace Courier.Json

variable {α β ρ : Type}

/-- What is known of a value: nothing, that an object is a table of values of one shape, or that it
is a record, whose fields have these names and other names, with the shapes of what is inside. -/
inductive Shape where
  | any
  | table (entry : Shape)
  | record (names : List (String × Option String)) (inside : String → Shape)

def Shape.member : Shape → Bytes → Shape
  | .any, _ => .any
  | .table entry, _ => entry
  | .record _ inside, key => (spelled? key).elim .any inside

def DistinctKeys (left right : Bytes × Form) : Prop :=
  ∀ name, spelled? left.1 = some name → spelled? right.1 ≠ some name

instance : Std.Symm DistinctKeys :=
  ⟨fun _ _ distinct name spells other => distinct name other spells⟩

/-- One change somewhere in a form. -/
inductive Relays : Shape → Form → Form → Prop
  | permute {shape : Shape} {members others : List (Bytes × Form)}
      (distinct : members.Pairwise DistinctKeys)
      (order : members.Perm others) : Relays shape (.object members) (.object others)
  | insert {names : List (String × Option String)} {inside : String → Shape}
      {before after : List (Bytes × Form)} {key : Bytes} {name : String} {value : Form}
      (spells : spelled? key = some name)
      (unknown : ∀ known ∈ names, known.1 ≠ name ∧ known.2 ≠ some name) :
      Relays (.record names inside) (.object (before ++ after))
        (.object (before ++ (key, value) :: after))
  | rename {names : List (String × Option String)} {inside : String → Shape}
      {before after : List (Bytes × Form)} {key other : Bytes} {name otherName : String}
      {value : Form} (known : (name, some otherName) ∈ names) (spells : spelled? key = some name)
      (spellsOther : spelled? other = some otherName) :
      Relays (.record names inside) (.object (before ++ (key, value) :: after))
        (.object (before ++ (other, value) :: after))
  | member {shape : Shape} {before after : List (Bytes × Form)} {key : Bytes}
      {value changed : Form} (relays : Relays (shape.member key) value changed) :
      Relays shape (.object (before ++ (key, value) :: after))
        (.object (before ++ (key, changed) :: after))
  | item {shape : Shape} {before after : List Form} {value changed : Form}
      (relays : Relays .any value changed) :
      Relays shape (.array (before ++ value :: after)) (.array (before ++ changed :: after))

theorem Relays.of_any {form other : Form} (relays : Relays .any form other) (shape : Shape) :
    Relays shape form other := by
  generalize nothing : Shape.any = known at relays
  induction relays generalizing shape with
  | permute distinct order => exact .permute distinct order
  | insert spells unknown => cases nothing
  | rename known spells spellsOther => cases nothing
  | member relays ih =>
      subst nothing
      exact .member (ih _ rfl)
  | item relays ih => exact .item relays

theorem Shape.member_escaped (names : List (String × Option String)) (inside : String → Shape)
    (name : String) : (Shape.record names inside).member (escaped name) = inside name := by
  change (spelled? (escaped name)).elim .any inside = inside name
  rw [spelled?_escaped]
  rfl

theorem Relays.permute_form {members others : List (String × Json)} (shape : Shape)
    (distinct : (members.map Prod.fst).Nodup) (order : members.Perm others) :
    Relays shape (form (.object members)) (form (.object others)) := by
  rw [form, form, formMembers_eq, formMembers_eq]
  refine .permute ?_ (order.map _)
  refine (List.pairwise_map.mp distinct).map _ ?_
  intro left right differ name spells other
  rw [spelled?_escaped] at spells other
  exact differ (Option.some.inj (spells.trans other.symm))

/-! ### Meanings that do not change -/

/-- No change of a form changes its meaning. -/
def Respects (meaning : Form → Option α) (shape : Shape) : Prop :=
  ∀ form other, Relays shape form other → meaning other = meaning form

theorem Respects.relaid {meaning : Form → Option α} {shape : Shape}
    (respects : Respects meaning shape) {form other : Form}
    (relaid : Relation.ReflTransGen (Relays shape) form other) : meaning other = meaning form := by
  induction relaid with
  | refl => rfl
  | tail early relays ih => exact (respects _ _ relays).trans ih

theorem Respects.any {meaning : Form → Option α} {shape : Shape}
    (respects : Respects meaning shape) : Respects meaning .any :=
  fun form other relays => respects form other (relays.of_any shape)

theorem respects_text (shape : Shape) : Respects Form.text? shape := by
  intro form other relays
  cases relays with
  | _ => rfl

theorem respects_number (reader : Reader α) (shape : Shape) :
    Respects (Form.number? reader) shape := by
  intro form other relays
  cases relays with
  | _ => rfl

theorem Respects.map {meaning : Form → Option α} {shape : Shape}
    (respects : Respects meaning shape) (f : α → β) :
    Respects (fun form => (meaning form).map f) shape :=
  fun form other relays => congrArg (Option.map f) (respects form other relays)

theorem Respects.optional {meaning : Form → Option α} {shape : Shape}
    (respects : Respects meaning shape) : Respects (Form.optional? meaning) shape := by
  intro form other relays
  have same := congrArg (Option.map some) (respects form other relays)
  cases relays with
  | _ => exact same

theorem foldlM_perm {step : β → α → Option β} {values others : List α} (order : values.Perm others)
    (commutes : ∀ left ∈ values, ∀ right ∈ values, ∀ built,
      (step built left).bind (step · right) = (step built right).bind (step · left))
    (built : β) : values.foldlM step built = others.foldlM step built := by
  induction order generalizing built with
  | nil => rfl
  | cons value order ih =>
      have later := ih fun left member right inside =>
        commutes left (List.mem_cons_of_mem value member) right (List.mem_cons_of_mem value inside)
      rw [List.foldlM_cons, List.foldlM_cons]
      cases step built value with
      | none => rfl
      | some next => exact later next
  | swap left right rest =>
      have swaps := commutes left (List.mem_cons_of_mem right List.mem_cons_self) right
        List.mem_cons_self built
      have later := congrArg (Option.bind · fun built => rest.foldlM step built) swaps.symm
      rw [Option.bind_assoc, Option.bind_assoc] at later
      simp only [List.foldlM_cons]
      exact later
  | trans early late ihEarly ihLate =>
      rw [ihEarly commutes]
      exact ihLate (fun left member right inside =>
        commutes left (early.mem_iff.mpr member) right (early.mem_iff.mpr inside)) built

theorem Form.build?_perm {step : β → String → Form → Option β}
    {members others : List (Bytes × Form)} (order : members.Perm others)
    (commutes : ∀ left ∈ members, ∀ right ∈ members, ∀ name other, spelled? left.1 = some name →
      spelled? right.1 = some other → ∀ built,
      (step built name left.2).bind (step · other right.2) =
        (step built other right.2).bind (step · name left.2))
    (built : β) : build? step built members = build? step built others := by
  refine foldlM_perm order (fun left member right inside built => ?_) built
  cases spells : spelled? left.1 with
  | none => exact (Option.bind_fun_none _).symm
  | some name =>
      cases spellsOther : spelled? right.1 with
      | none => exact Option.bind_fun_none _
      | some other => exact commutes left member right inside name other spells spellsOther built

theorem Form.build?_congr {step : β → String → Form → Option β} {first second : Bytes × Form}
    (same : ∀ built, ((spelled? first.1).bind fun name => step built name first.2) =
      (spelled? second.1).bind fun name => step built name second.2)
    (built : β) (before after : List (Bytes × Form)) :
    build? step built (before ++ first :: after) =
      build? step built (before ++ second :: after) := by
  unfold build?
  rw [List.foldlM_append, List.foldlM_append]
  simp only [List.foldlM_cons, same]

theorem Form.build?_insert {step : β → String → Form → Option β} {added : Bytes × Form}
    (idle : ∀ built, ((spelled? added.1).bind fun name => step built name added.2) = some built)
    (built : β) (before after : List (Bytes × Form)) :
    build? step built (before ++ added :: after) = build? step built (before ++ after) := by
  unfold build?
  rw [List.foldlM_append, List.foldlM_append]
  simp only [List.foldlM_cons, idle]
  rfl

theorem insert_comm {first second : String} (differ : first ≠ second) (table : Table α)
    (left right : α) :
    (table.insert first left).insert second right =
      (table.insert second right).insert first left := by
  apply Std.ExtTreeMap.ext_getElem?
  intro key
  simp only [Std.ExtTreeMap.getElem?_insert, Std.LawfulEqCmp.compare_eq_iff_eq]
  by_cases isFirst : first = key
  · subst isFirst
    rw [if_neg (Ne.symm differ), if_pos rfl, if_pos rfl]
  · rw [if_neg isFirst, if_neg isFirst]

theorem respects_table {meaning : Form → Option α} {entry : Shape}
    (respects : Respects meaning entry) : Respects (Form.table? meaning) (.table entry) := by
  intro form other relays
  cases relays with
  | @permute _ members others distinct order =>
      refine (Form.build?_perm order ?_ ∅).symm
      intro left member right inside name other spells spellsOther built
      by_cases same : left = right
      · subst same
        obtain rfl : name = other := Option.some.inj (spells.symm.trans spellsOther)
        rfl
      have differ : name ≠ other := by
        rintro rfl
        exact distinct.forall member inside same name spells spellsOther
      unfold Form.entryStep
      cases meaning left.2 with
      | none => exact (Option.bind_fun_none _).symm
      | some value =>
          cases meaning right.2 with
          | none => rfl
          | some second => exact congrArg some (insert_comm differ built value second)
  | @member _ before after key value changed relays =>
      refine Form.build?_congr (fun built => ?_) ∅ before after
      unfold Form.entryStep
      rw [respects value changed relays]
  | item relays => rfl

/-- What is put into two fields does not depend on the order in which it is. -/
def KnownField.Independent (first second : KnownField ρ) : Prop :=
  ∀ form other put putOther, first.meaning form = some put → second.meaning other = some putOther →
    ∀ record, putOther (put record) = put (putOther record)

instance : Std.Symm (@KnownField.Independent ρ) :=
  ⟨fun _ _ independent form other put putOther means meansOther record =>
    (independent other form putOther put meansOther means record).symm⟩

theorem KnownField.give?_of_seen {known : KnownField ρ} {built : Built ρ}
    (seen : known.field.name ∈ built.2) (form : Form) : known.give? built form = none :=
  if_pos seen

theorem KnownField.give?_of_fresh {known : KnownField ρ} {built : Built ρ}
    (fresh : known.field.name ∉ built.2) (form : Form) :
    known.give? built form =
      (known.meaning form).map fun put => (put built.1, known.field.name ::ₘ built.2) :=
  if_neg fresh

theorem KnownField.bind_give?_of_seen {first second : KnownField ρ} {built : Built ρ}
    (seen : second.field.name ∈ first.field.name ::ₘ built.2) (form other : Form) :
    (first.give? built form).bind (second.give? · other) = none := by
  unfold give?
  split
  · rfl
  · cases first.meaning form with
    | none => rfl
    | some put => exact if_pos seen

theorem KnownField.give?_comm {first second : KnownField ρ}
    (independent : first.field.name ≠ second.field.name → first.Independent second)
    (built : Built ρ) (form other : Form) :
    (first.give? built form).bind (second.give? · other) =
      (second.give? built other).bind (first.give? · form) := by
  by_cases same : first.field.name = second.field.name
  · rw [bind_give?_of_seen (by rw [same]; exact Multiset.mem_cons_self _ _),
      bind_give?_of_seen (by rw [same]; exact Multiset.mem_cons_self _ _)]
  by_cases seenFirst : first.field.name ∈ built.2
  · rw [give?_of_seen seenFirst, bind_give?_of_seen (Multiset.mem_cons_of_mem seenFirst)]
    rfl
  by_cases seenSecond : second.field.name ∈ built.2
  · rw [give?_of_seen seenSecond, bind_give?_of_seen (Multiset.mem_cons_of_mem seenSecond)]
    rfl
  have freshFirst : first.field.name ∉ second.field.name ::ₘ built.2 :=
    fun member => (Multiset.mem_cons.mp member).elim same seenFirst
  have freshSecond : second.field.name ∉ first.field.name ::ₘ built.2 :=
    fun member => (Multiset.mem_cons.mp member).elim (Ne.symm same) seenSecond
  rw [give?_of_fresh seenFirst, give?_of_fresh seenSecond]
  cases means : first.meaning form with
  | none =>
      cases meansOther : second.meaning other with
      | none => rfl
      | some put =>
          dsimp only [Option.map, Option.bind]
          rw [give?_of_fresh freshFirst, means]
          rfl
  | some put =>
      dsimp only [Option.map, Option.bind]
      rw [give?_of_fresh freshSecond]
      cases meansOther : second.meaning other with
      | none => rfl
      | some putOther =>
          dsimp only [Option.map, Option.bind]
          rw [give?_of_fresh freshFirst, means]
          dsimp only [Option.map]
          rw [independent same form other put putOther means meansOther, Multiset.cons_swap]

/-- The fields of a record, as a shape gives their names and what is inside. -/
structure Fits (fields : List (KnownField ρ)) (names : List (String × Option String))
    (inside : String → Shape) : Prop where
  names : names = fields.map fun known => (known.field.name, known.field.otherName)
  independent : fields.Pairwise KnownField.Independent
  renamed : ∀ known ∈ fields, ∀ other, known.field.otherName = some other →
    fields.find? (·.field.isCalled other) = fields.find? (·.field.isCalled known.field.name)
  respects : ∀ known ∈ fields, ∀ name, known.field.isCalled name = true →
    Respects known.meaning (inside name)

namespace Fits

variable {fields : List (KnownField ρ)} {names : List (String × Option String)}
  {inside : String → Shape} (fits : Fits fields names inside)

include fits

theorem find?_of_unknown {name : String}
    (unknown : ∀ known ∈ names, known.1 ≠ name ∧ known.2 ≠ some name) :
    fields.find? (·.field.isCalled name) = none := by
  rw [List.find?_eq_none]
  intro known member called
  have listed : (known.field.name, known.field.otherName) ∈ names := by
    rw [fits.names]
    exact List.mem_map_of_mem member
  obtain ⟨notFirst, notOther⟩ := unknown _ listed
  unfold RecordField.isCalled at called
  rcases Bool.or_eq_true_iff.mp called with first | other
  · exact notFirst (eq_of_beq first)
  · exact notOther (eq_of_beq other)

theorem commutes (name other : String) (form twin : Form) (built : Built ρ) :
    (Form.fieldStep fields built name form).bind (Form.fieldStep fields · other twin) =
      (Form.fieldStep fields built other twin).bind (Form.fieldStep fields · name form) := by
  unfold Form.fieldStep
  cases found : fields.find? (·.field.isCalled name) with
  | none =>
      dsimp only
      cases fields.find? (·.field.isCalled other) with
      | none => rfl
      | some second => exact (Option.bind_fun_some _).symm
  | some first =>
      cases foundOther : fields.find? (·.field.isCalled other) with
      | none => exact Option.bind_fun_some _
      | some second =>
          refine KnownField.give?_comm (fun differ => ?_) built form twin
          refine fits.independent.forall (List.mem_of_find?_eq_some found)
            (List.mem_of_find?_eq_some foundOther) ?_
          rintro rfl
          exact differ rfl

theorem step_member (key : Bytes) {value changed : Form}
    (relays : Relays ((Shape.record names inside).member key) value changed) (built : Built ρ) :
    ((spelled? key).bind fun name => Form.fieldStep fields built name changed) =
      (spelled? key).bind fun name => Form.fieldStep fields built name value := by
  cases spells : spelled? key with
  | none => rfl
  | some name =>
      change Relays ((spelled? key).elim .any inside) value changed at relays
      rw [spells] at relays
      dsimp only [Option.bind, Form.fieldStep]
      cases found : fields.find? (·.field.isCalled name) with
      | none => rfl
      | some known =>
          have called := List.find?_some found
          have same := fits.respects known (List.mem_of_find?_eq_some found) name called value
            changed relays
          dsimp only [KnownField.give?]
          rw [same]

theorem inOrder?_item (blank : ρ) {value changed : Form} (relays : Relays .any value changed)
    (before after : List Form) :
    Form.inOrder? fields blank (before ++ changed :: after) =
      Form.inOrder? fields blank (before ++ value :: after) := by
  have each : ∀ known ∈ fields, known.meaning changed = known.meaning value := by
    intro known member
    have called : known.field.isCalled known.field.name = true :=
      Bool.or_eq_true_iff.mpr (.inl (beq_self_eq_true _))
    exact (fits.respects known member _ called).any value changed relays
  clear fits
  induction fields generalizing blank before with
  | nil =>
      cases before with
      | nil => rfl
      | cons item before => rfl
  | cons known fields ih =>
      cases before with
      | nil =>
          simp only [List.nil_append, Form.inOrder?, each known List.mem_cons_self]
      | cons item before =>
          simp only [List.cons_append, Form.inOrder?]
          refine congrArg _ (funext fun put => ?_)
          exact ih (put blank) before fun other member =>
            each other (List.mem_cons_of_mem known member)

theorem respects_record (blank : ρ) :
    Respects (Form.record? fields blank) (.record names inside) := by
  intro form other relays
  have builds : ∀ {members others}, Form.build? (Form.fieldStep fields) (blank, 0) others =
      Form.build? (Form.fieldStep fields) (blank, 0) members →
      Form.record? fields blank (.object others) = Form.record? fields blank (.object members) :=
    fun same => congrArg (Option.map Prod.fst) same
  cases relays with
  | permute distinct order =>
      refine builds (Form.build?_perm order ?_ _).symm
      intro left _ right _ name other _ _ built
      exact fits.commutes name other left.2 right.2 built
  | @insert _ _ before after key name value spells unknown =>
      refine builds (Form.build?_insert (fun built => ?_) _ before after)
      have missing := fits.find?_of_unknown unknown
      rw [spells]
      dsimp only [Option.bind, Form.fieldStep]
      rw [missing]
  | @rename _ _ before after key other name otherName value known spells spellsOther =>
      refine builds (Form.build?_congr (fun built => ?_) _ before after)
      rw [fits.names] at known
      obtain ⟨field, member, same⟩ := List.mem_map.mp known
      obtain ⟨rfl, called⟩ := Prod.mk.inj same
      rw [spells, spellsOther]
      dsimp only [Option.bind, Form.fieldStep]
      rw [fits.renamed field member otherName called]
  | @member _ before after key value changed relays =>
      exact builds (Form.build?_congr (fits.step_member key relays) _ before after)
  | @item _ before after value changed relays => exact fits.inOrder?_item blank relays before after

end Fits

end Courier.Json
