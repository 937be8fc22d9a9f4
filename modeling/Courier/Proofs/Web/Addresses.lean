import Courier.Proofs.Service.Failures
import Courier.Proofs.Url.Parse
import Courier.Proofs.Url.Segments
import Courier.Proofs.Web.Submission
/-!
The addresses of requests to a control plane. Everything but the name and the version of a package
is the endpoint's, the name is one segment of the path, and the version is all of the query. Main
statement: name and version are read back from the address, the name without what addresses pass
over, and two requests have the same address if and only if what is read back is the same.
-/

namespace Courier

open Url

namespace Url

def askedChars : Option String → List Char
  | some query => '?' :: query.toList
  | none => []

theorem askedChars_inj {query other : Option String} :
    askedChars query = askedChars other ↔ query = other := by
  constructor
  · intro same
    cases query with
    | none =>
        cases other with
        | none => rfl
        | some text => cases same
    | some text =>
        cases other with
        | none => cases same
        | some another => rw [String.toList_inj.mp (List.cons.inj same).2]
  · rintro rfl
    rfl

theorem below_eq (url : Url) (names : List String) :
    url.below names = { url with path := (url.below names).path } := by
  unfold below
  split
  · rfl
  · rfl

theorem authorityText_congr {url : Url} (host : url.host.isSome = true) (path : UrlPath)
    (query : Option String) :
    ({ url with path, query } : Url).authorityText = url.authorityText := by
  unfold authorityText
  cases found : url.host with
  | none =>
      rw [found] at host
      cases host
  | some located => rfl

theorem toList_text {url : Url} (host : url.host.isSome = true) (segments : List String)
    (query : Option String) :
    ({ url with path := .segments segments, query } : Url).text.toList =
      (url.scheme ++ ":" ++ url.authorityText).toList ++
        (slashed segments ++ askedChars query) ++
        (match url.fragment with
          | some fragment => "#" ++ fragment
          | none => "").toList := by
  have path : ({ url with path := .segments segments, query } : Url).pathText.toList =
      slashed segments := toList_pathText rfl
  unfold text
  rw [authorityText_congr host]
  simp only [String.toList_append, path]
  cases query with
  | none =>
      cases url.fragment with
      | none => simp [askedChars]
      | some fragment => simp [askedChars]
  | some asked =>
      cases url.fragment with
      | none => simp [askedChars]
      | some fragment => simp [askedChars]

theorem text_inj {url : Url} (host : url.host.isSome = true) {segments others : List String}
    {query other : Option String} :
    ({ url with path := .segments segments, query } : Url).text =
        ({ url with path := .segments others, query := other } : Url).text ↔
      slashed segments ++ askedChars query = slashed others ++ askedChars other := by
  rw [← String.toList_inj, toList_text host, toList_text host, List.append_cancel_right_eq,
    List.append_cancel_left_eq]

/-- What comes after a segment with a name in it: nothing, another segment or a query. -/
def GoesOn (rest : List Char) : Prop :=
  ∀ char ∈ rest.head?, char = '/' ∨ char = '?'

theorem append_inj_of_goesOn {front back rest more : List Char}
    (whole : ∀ char ∈ front, ¬ (char = '/' ∨ char = '?'))
    (alsoWhole : ∀ char ∈ back, ¬ (char = '/' ∨ char = '?')) (goesOn : GoesOn rest)
    (alsoGoesOn : GoesOn more) (same : front ++ rest = back ++ more) :
    front = back ∧ rest = more := by
  induction front generalizing back with
  | nil =>
      cases back with
      | nil => exact ⟨rfl, same⟩
      | cons char later =>
          rw [List.nil_append] at same
          rw [same] at goesOn
          exact absurd (goesOn char rfl) (alsoWhole char List.mem_cons_self)
  | cons char later ih =>
      cases back with
      | nil =>
          rw [List.nil_append] at same
          rw [← same] at alsoGoesOn
          exact absurd (alsoGoesOn char rfl) (whole char List.mem_cons_self)
      | cons other further =>
          obtain ⟨heads, tails⟩ := List.cons.inj same
          obtain ⟨fronts, rests⟩ := ih
            (fun inner member => whole inner (List.mem_cons_of_mem char member))
            (fun inner member => alsoWhole inner (List.mem_cons_of_mem other member)) tails
          exact ⟨by rw [heads, fronts], rests⟩

theorem segment_append_inj {scheme name other : String} {rest more : List Char}
    (goesOn : GoesOn rest) (alsoGoesOn : GoesOn more) :
    (segment scheme name).toList ++ rest = (segment scheme other).toList ++ more ↔
      spoken name = spoken other ∧ rest = more := by
  have whole : ∀ text, ∀ char ∈ (segment scheme text).toList, ¬ (char = '/' ∨ char = '?') :=
    fun text char member stops => not_mem_segment stops scheme text member
  constructor
  · intro same
    obtain ⟨names, rests⟩ :=
      append_inj_of_goesOn (whole name) (whole other) goesOn alsoGoesOn same
    exact ⟨segment_inj.mp (String.toList_inj.mp names), rests⟩
  · rintro ⟨names, rfl⟩
    rw [segment_inj.mpr names]

end Url

namespace Endpoint

def IsNewest (version : String) : Prop :=
  version.isEmpty = true ∨ version = latestVersion

instance (version : String) : Decidable (IsNewest version) :=
  inferInstanceAs (Decidable (_ ∨ _))

/-- A query for a version: nothing for the newest one, and one pair for any other. -/
def AsksFor (version : String) (query : Option String) : Prop :=
  if IsNewest version then query = none
  else
    ∃ value, query = some ("version=" ++ value) ∧ '&' ∉ value.toList ∧
      Utf8.decode? (Percent.formDecode value.toList) = some version

def SameVersion (version other : String) : Prop :=
  version = other ∨ (IsNewest version ∧ IsNewest other)

/-- An address below the endpoint from which a name and a version are read. The name is the one
segment between `before` and `after`. -/
structure Tells (endpoint : Endpoint) (before after name version : String) (url : Url) : Prop where
  path : ∃ segment, url.pathText = trunk endpoint.url.pathText ++ before ++ segment ++ after ∧
    '/' ∉ segment.toList ∧ Utf8.decode? (Percent.decode segment.toList) = some (spoken name)
  query : AsksFor version url.query

def queryFor (version : String) : Option String :=
  if IsNewest version then none else some ("version=" ++ Percent.formEncode version)

theorem toList_formEncode (text : String) :
    (Percent.formEncode text).toList = Percent.formChars (Utf8.encode text) :=
  String.toList_ofList

theorem withPair_of_unasked {url : Url} (unasked : url.query = none) (version : String) :
    url.withPair "version" version =
      { url with query := some ("version=" ++ Percent.formEncode version) } := by
  have name : Percent.formEncode "version" ++ "=" = "version=" := by decide +kernel
  unfold withPair
  rw [unasked]
  dsimp only
  rw [name]

theorem asksFor_queryFor (version : String) : AsksFor version (queryFor version) := by
  unfold AsksFor queryFor
  split
  · rfl
  · refine ⟨_, rfl, ?_, ?_⟩
    · rw [toList_formEncode]
      exact Percent.not_mem_formChars (by decide) (by decide) (by decide) _
    · rw [toList_formEncode, Percent.formDecode_formChars, Utf8.decode?_encode]

theorem queryFor_inj {version other : String} :
    queryFor version = queryFor other ↔ SameVersion version other := by
  unfold queryFor SameVersion
  constructor
  · intro same
    split at same
    · next newest =>
        split at same
        · next newestAlso => exact .inr ⟨newest, newestAlso⟩
        · cases same
    · split at same
      · cases same
      · have texts := congrArg String.toList (Option.some.inj same)
        rw [String.toList_append, String.toList_append] at texts
        have values := congrArg Percent.formDecode (List.append_cancel_left texts)
        rw [toList_formEncode, toList_formEncode, Percent.formDecode_formChars,
          Percent.formDecode_formChars] at values
        exact .inl (Utf8.encode_injective values)
  · rintro (rfl | ⟨newest, newestAlso⟩)
    · rfl
    · rw [if_pos newest, if_pos newestAlso]

/-! ### Addresses of requests -/

variable {endpoint : Endpoint} {segments : List String}

def requested (endpoint : Endpoint) (segments : List String) (version : String) : Url :=
  { endpoint.url with path := .segments segments, query := queryFor version }

theorem rooted_of_accepted {address : String} {millis : Nat}
    (accepted : parse address millis = .ok endpoint) :
    ∃ segments, endpoint.url.Rooted segments := by
  obtain ⟨reads, web, -⟩ := usable_of_parse accepted
  exact rooted_of_parse reads web

section Requests

variable (rooted : endpoint.url.Rooted segments) (unasked : endpoint.url.query = none)
  {word : String} {rest : List String} (begins : IsWord endpoint.url.scheme word)
  (ends : ∀ last ∈ rest, IsWord endpoint.url.scheme last)

include rooted unasked begins ends

theorem address_eq {name : String} (named : ¬ IsDots name) (version : String) :
    endpoint.address (word :: name :: rest) version =
      .ok (endpoint.requested
        (stem segments ++ word :: segment endpoint.url.scheme name :: rest) version) := by
  have base : endpoint.url.isBase = true := by
    unfold isBase
    rw [rooted.path]
  have words : rest.map (segment endpoint.url.scheme) = rest := by
    have same : ∀ last ∈ rest, segment endpoint.url.scheme last = id last :=
      fun last member => (ends last member).written
    rw [List.map_congr_left same, List.map_id]
  have plain : ∀ other ∈ word :: name :: rest, ¬ IsDots other := by
    intro other member
    rcases List.mem_cons.mp member with rfl | later
    · exact begins.plain
    · rcases List.mem_cons.mp later with rfl | last
      · exact named
      · exact (ends other last).plain
  have filled : segment endpoint.url.scheme word ≠ "" := by
    rw [begins.written]
    exact begins.filled
  have path := path_below rooted.path filled plain
  rw [List.map_cons, List.map_cons, begins.written, words] at path
  have below := endpoint.url.below_eq (word :: name :: rest)
  rw [path] at below
  unfold address requested queryFor
  rw [if_pos base, below]
  dsimp only
  split
  · next newest => rw [if_pos (show IsNewest version from newest), unasked]
  · next older =>
      rw [if_neg (show ¬ IsNewest version from older), withPair_of_unasked]
      exact unasked

theorem address_tells {name : String} (named : ¬ IsDots name) (version : String) :
    ∃ url, endpoint.address (word :: name :: rest) version = .ok url ∧
      endpoint.Tells ("/" ++ word ++ "/") (String.ofList (slashed rest)) name version url := by
  refine ⟨_, address_eq rooted unasked begins ends named version, ?_, asksFor_queryFor version⟩
  refine ⟨segment endpoint.url.scheme name, ?_, not_mem_segment (.inl rfl) _ _,
    decode?_segment _ _⟩
  apply String.toList_inj.mp
  have path : (endpoint.requested
      (stem segments ++ word :: segment endpoint.url.scheme name :: rest) version).pathText.toList =
      slashed (stem segments ++ word :: segment endpoint.url.scheme name :: rest) :=
    toList_pathText rfl
  have trunk := toList_trunk (toList_pathText rooted.path) rooted.filled rooted.unslashed
  rw [path, slashed_append]
  simp only [String.toList_append, String.toList_ofList, trunk]
  simp [slashed]

theorem text_address_inj {name other : String} (named : ¬ IsDots name) (alsoNamed : ¬ IsDots other)
    (version another : String) :
    (endpoint.address (word :: name :: rest) version).map Url.text =
        (endpoint.address (word :: other :: rest) another).map Url.text ↔
      spoken name = spoken other ∧ SameVersion version another := by
  have goesOn : ∀ text, GoesOn (slashed rest ++ askedChars (queryFor text)) := by
    intro text char first
    cases rest with
    | cons last more => exact .inl (Option.some.inj first).symm
    | nil =>
        cases asked : queryFor text with
        | none =>
            rw [asked] at first
            cases first
        | some query =>
            rw [asked] at first
            exact .inr (Option.some.inj first).symm
  rw [address_eq rooted unasked begins ends named, address_eq rooted unasked begins ends alsoNamed]
  change Except.ok _ = Except.ok _ ↔ _
  rw [Except.ok.injEq]
  unfold requested
  rw [text_inj rooted.host, slashed_append, slashed_append, List.append_assoc, List.append_assoc,
    List.append_cancel_left_eq]
  have parts : ∀ text asked, slashed (word :: text :: rest) ++ askedChars (queryFor asked) =
      '/' :: word.toList ++ '/' :: (text.toList ++ (slashed rest ++ askedChars (queryFor asked))) := by
    intro text asked
    simp [slashed]
  rw [parts, parts, List.append_cancel_left_eq, List.cons.injEq, eq_self, true_and,
    segment_append_inj (goesOn version) (goesOn another), List.append_cancel_left_eq,
    askedChars_inj, queryFor_inj]

end Requests

/-- For every endpoint without a query, a request for a package has an address from which the name
of the package and the version are read back: the name, without what addresses pass over, from the
one segment that stands for it, and the version from the query. So the addresses of two requests are
the same if and only if their names and versions are, to that extent. Excepted are names of which
no more than a dot or two is left. -/
theorem requests_tell_apart {address : String} {millis : Nat}
    (accepted : parse address millis = .ok endpoint) (unasked : endpoint.url.query = none) :
    (∀ name version, ¬ IsDots name →
      (∃ url, endpoint.manifestUrl name version = .ok url ∧
        endpoint.Tells "/packages/" "/manifest" name version url) ∧
      ∃ url, endpoint.documentUrl name version = .ok url ∧
        endpoint.Tells "/documents/" "" name version url) ∧
    ∀ name other version another, ¬ IsDots name → ¬ IsDots other →
      ((endpoint.manifestUrl name version).map Url.text =
          (endpoint.manifestUrl other another).map Url.text ↔
        spoken name = spoken other ∧ SameVersion version another) ∧
      ((endpoint.documentUrl name version).map Url.text =
          (endpoint.documentUrl other another).map Url.text ↔
        spoken name = spoken other ∧ SameVersion version another) := by
  obtain ⟨segments, rooted⟩ := rooted_of_accepted accepted
  have packages : IsWord endpoint.url.scheme "packages" :=
    isWord_of_kept (by decide) (by decide) (by decide)
  have documents : IsWord endpoint.url.scheme "documents" :=
    isWord_of_kept (by decide) (by decide) (by decide)
  have manifest : ∀ last ∈ ["manifest"], IsWord endpoint.url.scheme last := by
    intro last member
    rw [List.mem_singleton.mp member]
    exact isWord_of_kept (by decide) (by decide) (by decide)
  have nothing : ∀ last ∈ ([] : List String), IsWord endpoint.url.scheme last :=
    fun last none => absurd none List.not_mem_nil
  constructor
  · intro name version named
    exact ⟨address_tells rooted unasked packages manifest named version,
      address_tells rooted unasked documents nothing named version⟩
  · intro name other version another named alsoNamed
    exact ⟨text_address_inj rooted unasked packages manifest named alsoNamed version another,
      text_address_inj rooted unasked documents nothing named alsoNamed version another⟩

theorem requests_tell_apart_arn :
    let endpoint : Endpoint :=
      { url := { scheme := "http", host := some (.name "cp.test"), path := .segments ["v1", ""] }
        timeoutMillis := 1000 }
    let name := "arn:aws/a%b é"
    parse "http://cp.test/v1/" 1000 = .ok endpoint ∧ endpoint.url.query = none ∧
      ¬ IsDots name ∧ spoken name = name ∧
      (endpoint.manifestUrl name "1 2").map Url.text =
        .ok "http://cp.test/v1/packages/arn:aws%2Fa%25b%20%C3%A9/manifest?version=1+2" ∧
      ∃ url, endpoint.manifestUrl name "1 2" = .ok url ∧
        endpoint.Tells "/packages/" "/manifest" name "1 2" url := by
  intro endpoint name
  have accepted : parse "http://cp.test/v1/" 1000 = .ok endpoint := by decide +kernel
  have named : ¬ IsDots name := by decide +kernel
  refine ⟨accepted, rfl, named, spoken_eq_self (by decide +kernel), by decide +kernel, ?_⟩
  exact ((requests_tell_apart accepted rfl).1 name "1 2" named).1

/-- A tab in a name is not to be seen in its address, two dots take no segment, and behind a path of
two slashes neither is left. -/
theorem requests_confused :
    let endpoint : Endpoint :=
      { url := { scheme := "http", host := some (.name "cp.test"), path := .segments ["v1", ""] }
        timeoutMillis := 1000 }
    let slashes : Endpoint := { endpoint with url.path := .segments ["", ""] }
    parse "http://cp.test/v1/" 1000 = .ok endpoint ∧
      endpoint.manifestUrl "a\tb" "1" = endpoint.manifestUrl "ab" "1" ∧
      (endpoint.manifestUrl ".." "1").map Url.pathText = .ok "/v1/packages/manifest" ∧
      parse "http://cp.test//" 1000 = .ok slashes ∧ slashes.url.pathText = "//" ∧
      (slashes.manifestUrl "ab" "1").map Url.pathText = .ok "/packages/ab/manifest" := by
  decide +kernel

end Endpoint

end Courier
