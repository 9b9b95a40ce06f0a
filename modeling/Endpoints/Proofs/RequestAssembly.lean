import Endpoints.Builder.Items
import Endpoints.Proofs.Checks
import Endpoints.Proofs.DraftContents

/-! How a request comes about: an address is read, a request is made for it, headers are set last. -/

namespace Endpoints
open Checks

theorem HeaderValue.ofText?_eq_some_iff {text : String} {value : HeaderValue} :
    HeaderValue.ofText? text = some value ↔
      (bytesOf text).all HeaderValue.isValid = true ∧ HeaderValue.plain text = value := by
  simp [HeaderValue.ofText?, HeaderValue.plain]

theorem Headers.set_eq_ok_iff {headers result : Headers} {name value : String} :
    headers.set name value = .ok result ↔ ∃ key, HeaderName.ofText? name = some key ∧
      (bytesOf value).all HeaderValue.isValid = true ∧
        headers.put key (HeaderValue.plain value) = result := by
  unfold Headers.set
  cases named : HeaderName.ofText? name with
  | none => simp [throw, throwThe, MonadExceptOf.throw]
  | some key =>
    cases valued : HeaderValue.ofText? value with
    | none =>
      have refused : ¬ (bytesOf value).all HeaderValue.isValid = true := by
        intro valid
        simp [HeaderValue.ofText?, valid] at valued
      simp [throw, throwThe, MonadExceptOf.throw, refused]
    | some found =>
      obtain ⟨valid, rfl⟩ := HeaderValue.ofText?_eq_some_iff.mp valued
      simp [valid]

/-- The value that entries ask for a header: that of the last of them that names it. -/
def Headers.lastNamed? (name : String) (entries : List (String × String)) : Option HeaderValue :=
  (entries.filterMap fun (key, value) =>
    if HeaderName.ofText? key = some name then some (HeaderValue.plain value) else none).getLast?

theorem Headers.lastNamed?_cons (name : String) (entry : String × String)
    (entries : List (String × String)) :
    Headers.lastNamed? name (entry :: entries) = (Headers.lastNamed? name entries).or
      (if HeaderName.ofText? entry.1 = some name then some (HeaderValue.plain entry.2) else none) := by
  unfold Headers.lastNamed?
  by_cases names : HeaderName.ofText? entry.1 = some name
  · simp only [List.filterMap_cons, names, if_true, List.getLast?_cons]
    cases List.getLast? _ <;> rfl
  · simp [names]

theorem Headers.get?_of_foldlM {entries : List (String × String)} {headers result : Headers}
    (set : entries.foldlM (fun headers (name, value) => headers.set name value) headers = .ok result)
    (name : String) : result.get? name = (Headers.lastNamed? name entries).or (headers.get? name) := by
  induction entries generalizing headers with
  | nil =>
    cases set
    rfl
  | cons entry rest ih =>
    obtain ⟨key, value⟩ := entry
    simp only [List.foldlM_cons, bind_eq_ok_iff] at set
    obtain ⟨next, first, others⟩ := set
    obtain ⟨spelled, named, _, rfl⟩ := Headers.set_eq_ok_iff.mp first
    rw [ih others, Headers.get?_put, Headers.lastNamed?_cons, named, Option.or_assoc]
    by_cases equal : name = spelled
    · simp [equal]
    · simp [equal, Ne.symm equal]

namespace Request

/-- A request is another with entries set as its headers, one after another. -/
structure SetsHeaders (entries : List (String × String)) (request result : Request) : Prop where
  method : result.method = request.method
  url : result.url = request.url
  body : result.body = request.body
  headers : ∀ name,
    result.headers.get? name = (Headers.lastNamed? name entries).or (request.headers.get? name)

theorem exists_headers_of_foldlM {entries : List (String × String)} {request result : Request}
    (set : entries.foldlM (fun request (key, value) => request.setHeader key value) request = .ok result) :
    ∃ headers, entries.foldlM (fun headers (key, value) => headers.set key value) request.headers = .ok headers ∧
      result = { request with headers } := by
  induction entries generalizing request with
  | nil =>
    cases set
    exact ⟨_, rfl, rfl⟩
  | cons entry rest ih =>
    simp only [List.foldlM_cons, setHeader, bind_eq_ok_iff, pure_eq_ok_iff] at set ⊢
    obtain ⟨_, ⟨next, first, rfl⟩, others⟩ := set
    obtain ⟨headers, remaining, same⟩ := ih others
    exact ⟨headers, ⟨next, first, remaining⟩, same⟩

theorem setsHeaders_of_foldlM {entries : List (String × String)} {request result : Request}
    (set : entries.foldlM (fun request (key, value) => request.setHeader key value) request = .ok result) :
    SetsHeaders entries request result := by
  obtain ⟨headers, put, rfl⟩ := exists_headers_of_foldlM set
  exact ⟨rfl, rfl, rfl, Headers.get?_of_foldlM put⟩

theorem accepting_get? (request : Request) {name : String} (other : name ≠ "accept") :
    request.accepting.headers.get? name = request.headers.get? name := by
  simp [accepting, Headers.get?_put, other]

end Request

namespace Draft

variable {endpoint : Endpoint}

theorem build_eq_ok_iff {draft : Draft} {registry : Registry} {boundary : String} {request : Request} :
    draft.build endpoint registry boundary = .ok request ↔ ∃ client url assembled,
      registry = some client ∧ Url.read (client.baseText ++ draft.target endpoint) = .ok url ∧
        draft.assemble endpoint url boundary = .ok assembled ∧
          draft.setHeaders endpoint assembled.accepting = .ok request := by
  cases registry with
  | none => simp [build, throw, throwThe, MonadExceptOf.throw]
  | some client => simp [build]

/-- Whatever does not show in the path, in the headers and in what is assembled has no effect. -/
theorem build_congr {first second : Draft} (path : first.path = second.path)
    (headers : first.headers = second.headers)
    (assemble : ∀ url boundary,
      first.assemble endpoint url boundary = second.assemble endpoint url boundary) :
    first.build endpoint = second.build endpoint := by
  funext registry boundary
  simp only [build, target, setHeaders, path, headers, assemble]

variable (calls : List (SetterCall endpoint))

theorem setHeaders_calls {request result : Request}
    (set : (ofCalls calls).setHeaders endpoint request = .ok result) :
    request.SetsHeaders
      (Keyed.ofList ((SetterCall.settings calls).filterMap (Setting.entry? .header))) result := by
  unfold setHeaders at set
  split at set
  · rw [headers_ofSettings] at set
    exact Request.setsHeaders_of_foldlM set
  · next unused =>
    have nothing := SetterCall.entries_of_unused (Bool.eq_false_iff.mpr unused) calls
    cases set
    rw [nothing]
    exact ⟨rfl, rfl, rfl, fun _ => rfl⟩

/-- What a payload makes of a request. -/
inductive Laden (method : HttpMethod) (url : Url) (boundary : String) : Request → Prop where
  | nothing : Laden method url boundary (Request.ofUrl method.name url)
  | content (contentType : String) (bytes : Bytes) :
    Laden method url boundary (withBody method url contentType bytes)
  | parts (fields : Keyed Bytes) : Laden method url boundary (Request.multipart method.name url boundary fields)

theorem laden_of_payload {draft : Draft} {url : Url} {boundary : String} {request : Request}
    (made : draft.payload endpoint url boundary = .ok request) : Laden endpoint.method url boundary request := by
  unfold payload at made
  cases chosen : endpoint.payloadKinds.findSome? (draft.payloadOf? endpoint.method url boundary) with
  | none =>
    rw [chosen] at made
    obtain rfl := Except.ok.inj made
    exact .nothing
  | some result =>
    rw [chosen] at made
    obtain rfl : result = .ok request := made
    obtain ⟨kind, _, offered⟩ := List.exists_of_findSome?_eq_some chosen
    cases kind with
    | body =>
      obtain ⟨content, _, encoded⟩ := Option.map_eq_some_iff.mp offered
      obtain ⟨bytes, _, rfl⟩ := map_eq_ok_iff.mp encoded
      exact .content _ bytes
    | form =>
      simp only [payloadOf?] at offered
      split at offered
      · cases offered
      · obtain rfl := Except.ok.inj (Option.some.inj offered)
        exact .content _ _
    | multipart =>
      simp only [payloadOf?] at offered
      split at offered
      · cases offered
      · obtain rfl := Except.ok.inj (Option.some.inj offered)
        exact .parts draft.parts
    | path | query | header => cases offered

/-- A request before its headers are set: it has several parts, or it keeps the place of its address and
no header but its content type. -/
inductive Assembled (method : String) (url : Url) (boundary : String) : Request → Prop where
  | parts (fields : Keyed Bytes) : Assembled method url boundary (Request.multipart method url boundary fields)
  | whole {request : Request} (scheme : request.url.scheme = url.scheme)
    (authority : request.url.authority = url.authority)
    (headers : request.headers = Headers.empty ∨
      ∃ value, request.headers = Headers.empty.put "content-type" value) :
    Assembled method url boundary request

theorem assembled_of_assemble {draft : Draft} {url : Url} {boundary : String} {request : Request}
    (made : draft.assemble endpoint url boundary = .ok request) :
    Assembled endpoint.method.name url boundary request := by
  unfold assemble at made
  split at made
  · cases laden_of_payload made with
    | nothing => exact .whole rfl rfl (.inl rfl)
    | content contentType bytes => exact .whole rfl rfl (.inr ⟨_, rfl⟩)
    | parts fields => exact .parts fields
  · obtain rfl := Except.ok.inj made
    refine .whole ?_ ?_ (.inl rfl)
    · unfold queried
      split
      · rfl
      · rfl
    · unfold queried
      split
      · rfl
      · rfl

end Draft

/-- A client for a port of this machine. -/
def localClient (port : Nat) : Client where
  options := .ofBaseUrl ⟨"http".toList, some ⟨[], none, .name "localhost".toList, some port⟩, ['/'], none, none⟩
  defaults := .empty

/-- A picture by its number. -/
def photoEndpoint : Endpoint where
  name := "GetPhoto"
  visibility := .inherited
  method := .get
  template := "/photos/\x7bid\x7d"
  methods := [
    ⟨"photo_id", [⟨"photo_id", .path (.ofName "String")⟩], .binding .path "id", .owned,
      Builder.plainSignature "photo_id" [.receiver ⟨[], none, false, none⟩,
        .parameter [] (.name false false "photo_id" none) (.path (.ofName "String"))] (some (.path (.ofName "Self")))⟩,
    ⟨"run", [], .sync (.path (.ofName "String")), .owned,
      Builder.plainSignature "run" [.receiver ⟨[], none, false, none⟩]
        (some (.path (.mk false [.mk "Result" (.angle false
          [.type (.path (.ofName "String")), .type (.path (.ofName "Error"))] false)])))⟩]

def photoId (value : String) : SetterCall photoEndpoint where
  setting := .path "id" value
  offered := ⟨_, List.mem_cons_self, rfl⟩

end Endpoints
