import Endpoints.Proofs.FormRoundTrip
import Endpoints.Proofs.RequestAssembly
import Endpoints.Proofs.UrlMarks

/-! When the query of a request is the one that its setters spell. Values that fill the path are not
encoded, so a mark in one of them opens a query or a fragment of its own. -/

namespace Endpoints
open Checks

/-- Apart from braces, filling in adds the characters of the values that stand for placeholders. -/
theorem Template.mem_expandFrom_iff {bound : Keyed String} {mark : Char} (opens : mark ≠ '\x7b')
    (closes : mark ≠ '\x7d') {opened : Option (List Char)} {text : List Char} (outside : mark ∉ text)
    (before : ∀ key ∈ opened, mark ∉ key) :
    mark ∈ expandFrom bound opened text ↔ ∃ key ∈ placeholdersFrom opened text,
      ∃ value, bound.get? key = some value ∧ mark ∈ value.toList := by
  induction text generalizing opened with
  | nil =>
    cases opened with
    | none => simp [expandFrom, placeholdersFrom]
    | some key => simp [expandFrom, placeholdersFrom, opens, before key rfl]
  | cons c rest ih =>
    obtain ⟨different, missing⟩ := List.ne_and_not_mem_of_not_mem_cons outside
    cases opened with
    | none =>
      simp only [expandFrom, placeholdersFrom]
      split
      · exact ih missing (by simp)
      · rw [List.mem_cons, or_iff_right different]
        exact ih missing (by simp)
    | some key =>
      simp only [expandFrom, placeholdersFrom]
      split
      · rw [List.mem_append, ih missing (by simp)]
        have absent := before key rfl
        unfold substitute
        cases found : bound.get? (String.ofList key.reverse) <;> simp [found, opens, closes, absent]
      · refine ih missing ?_
        rintro _ ⟨⟩
        exact List.not_mem_cons_of_ne_of_not_mem different (before key rfl)

/-- Some value that fills the path holds a mark: the last one that is set for one of the placeholders. -/
def Endpoint.FillsIn (endpoint : Endpoint) (settings : List Setting) (mark : Char) : Prop :=
  ∃ key ∈ endpoint.placeholders, ∃ entry,
    ((settings.filterMap (Setting.entry? .path)).filter (·.1 = key)).getLast? = some entry ∧
      mark ∈ entry.2.toList

namespace Draft

variable {endpoint : Endpoint}

theorem mem_target_iff {calls : List (SetterCall endpoint)} {mark : Char} (opens : mark ≠ '\x7b')
    (closes : mark ≠ '\x7d') (outside : mark ∉ endpoint.template.toList) :
    mark ∈ ((ofCalls calls).target endpoint).toList ↔
      endpoint.FillsIn (SetterCall.settings calls) mark := by
  unfold target
  split
  · rw [path_ofSettings, Template.toList_expand,
      Template.mem_expandFrom_iff opens closes outside (by simp)]
    simp only [Keyed.get?_ofList, Option.map_eq_some_iff]
    constructor
    · rintro ⟨key, among, _, ⟨entry, last, rfl⟩, member⟩
      exact ⟨key, among, entry, last, member⟩
    · rintro ⟨key, among, entry, last, member⟩
      exact ⟨key, among, _, ⟨entry, last, rfl⟩, member⟩
  · next unused =>
    have nothing := SetterCall.entries_of_unused (Bool.eq_false_iff.mpr unused) calls
    refine iff_of_false outside ?_
    rintro ⟨key, _, entry, last, _⟩
    simp [nothing] at last

end Draft

theorem Client.unmarked_baseText {client : Client} {text : String}
    (read : Url.read text = .ok client.options.baseUrl)
    (web : (Url.impliedPort? client.options.baseUrl.scheme).isSome = true)
    (query : client.options.baseUrl.query = none) (fragment : client.options.baseUrl.fragment = none) :
    Unmarked client.baseText.toList := by
  have unmarked := Url.unmarked_characters read web query fragment
  simp only [baseText, String.toList_ofList, Unmarked.reverse_iff]
  exact .of_subset (List.dropWhile_subset _) (Unmarked.reverse_iff.mpr unmarked)

/-- The query of a request is the one that the query setters spell, and nothing follows it. -/
def Request.HasOwnQuery (request : Request) (settings : List Setting) : Prop :=
  request.url.fragment = none ∧
    request.url.query = match settings.filterMap (Setting.entry? .query) with
      | [] => none
      | pairs => some (Form.ofPairs pairs).encode.toList

theorem Url.withQuery_of_free (url : Url) {query : String}
    (free : ∀ c ∈ query.toList, Percent.isFree Percent.inWebQuery c = true) :
    url.withQuery (some query) = { url with query := some query.toList } := by
  have kept : query.toList.filter (fun c => !(c == '\t' || c == '\n' || c == '\r')) = query.toList := by
    apply List.filter_eq_self.mpr
    intro c member
    have visible := Percent.visible_of_isFree (fun byte => forall_byte (by decide) byte) (free c member)
    have different : c ≠ '\t' ∧ c ≠ '\n' ∧ c ≠ '\r' := by
      refine ⟨?_, ?_, ?_⟩ <;> rintro rfl <;> exact absurd visible (by decide)
    simp [different]
  have unescaped : Percent.encode (reservedInQuery url.scheme) query.toList = query.toList := by
    apply Percent.encode_of_free
    intro c member
    unfold reservedInQuery
    split
    · exact free c member
    · exact Percent.isFree_of_weaker (fun byte => forall_byte (by decide) byte) (free c member)
  simp only [withQuery, Option.map_some, kept, unescaped]
  rfl

theorem Url.withQuery_encode (url : Url) (form : Form) :
    url.withQuery (some form.encode) = { url with query := some form.encode.toList } :=
  url.withQuery_of_free fun _ member => Form.isFree_of_mem_encode member

namespace Draft

variable {endpoint : Endpoint}

theorem queried_url (calls : List (SetterCall endpoint)) (url : Url) :
    ((ofCalls calls).queried endpoint url).url =
      match (SetterCall.settings calls).filterMap (Setting.entry? .query) with
      | [] => url
      | pairs => { url with query := some (Form.ofPairs pairs).encode.toList } := by
  have held := query_ofSettings (SetterCall.settings calls)
  cases pairs : (SetterCall.settings calls).filterMap (Setting.entry? .query) with
  | nil =>
    rw [pairs] at held
    simp [queried, Request.ofUrl, held, Form.isEmpty_ofPairs]
  | cons pair rest =>
    have used : endpoint.uses .query = true := by
      cases used : endpoint.uses .query with
      | true => rfl
      | false =>
        rw [SetterCall.entries_of_unused used] at pairs
        cases pairs
    rw [pairs] at held
    simp [queried, Request.ofUrl, held, Form.isEmpty_ofPairs, used, Url.withQuery_encode]

theorem query_of_built {calls : List (SetterCall endpoint)} {registry : Registry} {boundary : String}
    {request : Request} (sends : endpoint.method.carriesPayload = false)
    (some : (SetterCall.settings calls).filterMap (Setting.entry? .query) ≠ [])
    (built : (ofCalls calls).build endpoint registry boundary = .ok request) :
    request.url.query =
      Option.some (Form.ofPairs ((SetterCall.settings calls).filterMap (Setting.entry? .query))).encode.toList := by
  obtain ⟨_, url, assembled, _, _, made, set⟩ := build_eq_ok_iff.mp built
  have address : request.url = ((ofCalls calls).queried endpoint url).url := by
    rw [assemble, sends] at made
    cases made
    exact (setHeaders_calls calls set).url
  obtain ⟨pair, rest, pairs⟩ := List.exists_cons_of_ne_nil some
  rw [address, queried_url, pairs]

/-- A value that fills the path gives the address a fragment by a `#`, and a query by a `?` before it. -/
theorem marks_of_target {calls : List (SetterCall endpoint)} {client : Client} {url : Url}
    (base : Unmarked client.baseText.toList) (template : Unmarked endpoint.template.toList)
    (read : Url.read (client.baseText ++ (ofCalls calls).target endpoint) = .ok url) :
    (url.fragment = none ↔ ¬ endpoint.FillsIn (SetterCall.settings calls) '#') ∧
      (¬ endpoint.FillsIn (SetterCall.settings calls) '#' →
        (url.query = none ↔ ¬ endpoint.FillsIn (SetterCall.settings calls) '?')) := by
  have filled {mark : Char} (opens : mark ≠ '\x7b') (closes : mark ≠ '\x7d')
      (absent : mark ∉ client.baseText.toList) (outside : mark ∉ endpoint.template.toList) :
      mark ∈ (client.baseText ++ (ofCalls calls).target endpoint).toList ↔
        endpoint.FillsIn (SetterCall.settings calls) mark := by
    rw [String.toList_append, List.mem_append, or_iff_right absent]
    exact mem_target_iff opens closes outside
  have hash := filled (by decide) (by decide) (fun member => (base '#' member).2 rfl)
    fun member => (template '#' member).2 rfl
  have question := filled (by decide) (by decide) (fun member => (base '?' member).1 rfl)
    fun member => (template '?' member).1 rfl
  have marks := Url.marks_of_read read
  rwa [hash, question] at marks

/-- A request has just the query of its setters exactly when no value in its path holds a `#`, and none
holds a `?` unless the setters spell a query that takes its place. -/
theorem hasOwnQuery_iff {calls : List (SetterCall endpoint)} {client : Client} {text boundary : String}
    {request : Request} (sends : endpoint.method.carriesPayload = false)
    (template : Unmarked endpoint.template.toList) (read : Url.read text = .ok client.options.baseUrl)
    (web : client.options.baseUrl.scheme = "http".toList ∨ client.options.baseUrl.scheme = "https".toList)
    (query : client.options.baseUrl.query = none) (fragment : client.options.baseUrl.fragment = none)
    (built : (ofCalls calls).build endpoint (some client) boundary = .ok request) :
    request.HasOwnQuery (SetterCall.settings calls) ↔
      ¬ endpoint.FillsIn (SetterCall.settings calls) '#' ∧
        ((SetterCall.settings calls).filterMap (Setting.entry? .query) = [] →
          ¬ endpoint.FillsIn (SetterCall.settings calls) '?') := by
  obtain ⟨_, url, assembled, same, targetRead, made, set⟩ := build_eq_ok_iff.mp built
  cases same
  have implied : (Url.impliedPort? client.options.baseUrl.scheme).isSome = true := by
    rcases web with scheme | scheme <;> rw [scheme] <;> decide
  obtain ⟨fragments, queries⟩ :=
    marks_of_target (Client.unmarked_baseText read implied query fragment) template targetRead
  have address : request.url = ((ofCalls calls).queried endpoint url).url := by
    rw [assemble, sends] at made
    cases made
    exact (setHeaders_calls calls set).url
  rw [queried_url] at address
  unfold Request.HasOwnQuery
  -- A query that is set replaces whatever a `?` has opened, so the two cases differ.
  cases pairs : (SetterCall.settings calls).filterMap (Setting.entry? .query) with
  | nil =>
    rw [pairs] at address
    simp only [address, fragments, true_implies]
    exact and_congr_right queries
  | cons pair rest =>
    rw [pairs] at address
    simp [address, fragments]

theorem photo_hasOwnQuery :
    ∃ request, (ofCalls [photoId "7"]).build photoEndpoint (some (localClient 8080)) "" = .ok request ∧
      request.HasOwnQuery (SetterCall.settings [photoId "7"]) := by
  obtain ⟨_, read, rfl⟩ := exists_ok_of_toOption (Url.read "http://localhost:8080")
    (· = (localClient 8080).options.baseUrl) (by decide +kernel)
  obtain ⟨request, built, _⟩ := exists_ok_of_toOption
    ((ofCalls [photoId "7"]).build photoEndpoint (some (localClient 8080)) "") (fun _ => True)
    (by decide +kernel)
  have plain (mark : Char) (outside : mark ≠ '7') :
      ¬ photoEndpoint.FillsIn (SetterCall.settings [photoId "7"]) mark := by
    have placeholders : photoEndpoint.placeholders = ["id"] := by decide +kernel
    rintro ⟨key, among, entry, last, member⟩
    obtain rfl : key = "id" := by simpa [placeholders] using among
    cases last
    simp [outside] at member
  refine ⟨request, built, (hasOwnQuery_iff rfl (by decide) read (.inl rfl) rfl rfl built).mpr ⟨?_, fun _ => ?_⟩⟩
  · exact plain '#' (by decide)
  · exact plain '?' (by decide)

/-- A value that is not encoded brings a query and a fragment that no setter spells. -/
theorem marked_photo_changes_query :
    ∃ request, (ofCalls [photoId "7?x=1#f"]).build photoEndpoint (some (localClient 8080)) "" = .ok request ∧
      request.url.query = some "x=1".toList ∧ request.url.fragment = some "f".toList ∧
        ¬ request.HasOwnQuery (SetterCall.settings [photoId "7?x=1#f"]) := by
  obtain ⟨request, built, query, fragment⟩ := exists_ok_of_toOption
    ((ofCalls [photoId "7?x=1#f"]).build photoEndpoint (some (localClient 8080)) "")
    (fun request => request.url.query = some "x=1".toList ∧ request.url.fragment = some "f".toList)
    (by decide +kernel)
  refine ⟨request, built, query, fragment, fun own => ?_⟩
  cases own.1.symm.trans fragment

end Draft

end Endpoints
