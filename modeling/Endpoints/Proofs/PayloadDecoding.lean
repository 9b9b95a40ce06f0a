import Endpoints.Proofs.HeaderLayers
import Endpoints.Proofs.JsonRoundTrip
import Endpoints.Proofs.MultipartRoundTrip

/-! What a server reads from the body of a request by its content type is what the setters of the payload
have stored. -/

namespace Endpoints

/-- What a body is read as. -/
inductive Decoded where
  | document (value : Json)
  | pairs (pairs : List (String × String))
  | parts (fields : List (String × Bytes))

namespace Decoded

/-- The boundary that a content type tells. -/
def boundary? (contentType : String) : Option String :=
  (contentType.toList.dropPrefix? "multipart/form-data; boundary=".toList).map String.ofList

/-- Reads a body in the format of a content type. -/
def read? (contentType : String) (body : Bytes) : Option Decoded :=
  if contentType = "application/json" then
    match (ResultKind.json .any).read body with
    | .ok (.json value) => some (.document value)
    | _ => none
  else if contentType = "application/x-www-form-urlencoded" then
    (textOf? body).map fun text => .pairs (Form.decode text)
  else do
    return .parts (← Multipart.decode? (← boundary? contentType) body)

theorem read?_json {value : Json} (nested : value.Nested JsonReader.levelLimit) :
    read? "application/json" value.bytes = some (.document value) := by
  rw [read?, if_pos rfl, ResultKind.read_bytes nested]

theorem read?_form (form : Form) :
    read? "application/x-www-form-urlencoded" (bytesOf form.encode) = some (.pairs form.pairs) := by
  have other : "application/x-www-form-urlencoded" ≠ "application/json" := by decide
  rw [read?, if_neg other, if_pos rfl, textOf?_bytesOf, Option.map_some, Form.decode_encode]

theorem read?_multipart {boundary : String} (line : '\r' ∉ boundary.toList) {parts : Keyed Bytes}
    (written : parts ≠ []) (apart : ∀ field ∈ parts, ¬ bytesOf boundary <:+: field.2) :
    read? (Multipart.contentType boundary) (Multipart.body boundary parts) = some (.parts parts) := by
  have spelled : (Multipart.contentType boundary).toList =
      "multipart/form-data; boundary=".toList ++ boundary.toList :=
    String.toList_append
  have other {contentType : String} (different : contentType.toList.head? ≠ some 'm') :
      Multipart.contentType boundary ≠ contentType := by
    intro same
    rw [← same, spelled] at different
    exact different rfl
  have found : boundary? (Multipart.contentType boundary) = some boundary := by
    rw [boundary?, spelled, List.dropPrefix?_append_of_beq _ (beq_self_eq_true _), Option.map_some, String.ofList_toList]
  rw [read?, if_neg (other (by decide)), if_neg (other (by decide)), found]
  simp [Multipart.decode?_body line written apart]

end Decoded

/-- Reads the body of a request in the format of its content type. -/
def Request.decoded? (request : Request) : Option Decoded := do
  let contentType ← request.headers.get? "content-type"
  let body ← request.body
  Decoded.read? (← textOf? contentType.bytes) body.bytes

theorem Request.Carries.decoded? {request : Request} {settings : List Setting} {payload : Option Payload}
    (carries : request.Carries settings payload)
    (unset : ∀ entry ∈ settings.filterMap (Setting.entry? .header), HeaderName.ofText? entry.1 ≠ some "content-type") :
    request.decoded? = payload.bind fun payload => Decoded.read? payload.contentType payload.body.bytes := by
  have contentType := carries.contentType
  rw [Headers.lastNamed?_ofList_eq_none_iff.mpr unset, Option.none_or] at contentType
  unfold Request.decoded?
  rw [contentType, carries.body]
  cases payload with
  | none => rfl
  | some payload => simp [HeaderValue.plain, textOf?_bytesOf]

/-- What is read is what the setters of the payload have stored, which the first kind that is there decides: a
document within the limit of nesting, all pairs, or the last content of each part. -/
inductive Decoded.Restores (boundary : String) (settings : List Setting) (decoded : Option Decoded) : Prop where
  | document {value : Json} (last : Setting.lastContent? settings = some (.document value))
    (restored : value.Nested JsonReader.levelLimit → decoded = some (.document value))
  | pairs (bodies : settings.filterMap Setting.content? = [])
    (stored : settings.filterMap (Setting.entry? .form) ≠ [])
    (restored : decoded = some (.pairs (Form.sorted (settings.filterMap (Setting.entry? .form)))))
  | parts (bodies : settings.filterMap Setting.content? = [])
    (entries : settings.filterMap (Setting.entry? .form) = [])
    (stored : settings.filterMap Setting.part? ≠ [])
    (restored : '\r' ∉ boundary.toList →
      (∀ key content, Setting.lastPart? key settings = some content → ¬ bytesOf boundary <:+: content) →
      ∃ fields, decoded = some (.parts fields) ∧ Keyed.Ascending fields ∧
        ∀ key content, (key, content) ∈ fields ↔ Setting.lastPart? key settings = some content)
  | nothing (bodies : settings.filterMap Setting.content? = [])
    (entries : settings.filterMap (Setting.entry? .form) = [])
    (parts : settings.filterMap Setting.part? = []) (restored : decoded = none)

theorem Payload.Asked.restores {boundary : String} {settings : List Setting} {payload : Option Payload}
    (asked : Payload.Asked boundary settings payload) :
    Decoded.Restores boundary settings
      (payload.bind fun payload => Decoded.read? payload.contentType payload.body.bytes) := by
  cases asked with
  | body last => exact .document last Decoded.read?_json
  | form bodies pairs =>
    refine .pairs bodies pairs ?_
    rw [← Form.pairs_ofPairs]
    exact Decoded.read?_form _
  | multipart bodies pairs parts =>
    refine .parts bodies pairs parts fun line apart => ?_
    have ascends := Keyed.ascending_ofList (settings.filterMap Setting.part?)
    have last (key : String) (content : Bytes) :
        (key, content) ∈ Keyed.ofList (settings.filterMap Setting.part?) ↔
          Setting.lastPart? key settings = some content := Keyed.mem_ofList_iff
    have written : Keyed.ofList (settings.filterMap Setting.part?) ≠ [] := by
      have filled := Keyed.isEmpty_ofList (settings.filterMap Setting.part?)
      rw [List.isEmpty_eq_false_iff.mpr parts] at filled
      exact List.isEmpty_eq_false_iff.mp filled
    refine ⟨_, Decoded.read?_multipart line written ?_, ascends, last⟩
    rintro ⟨key, content⟩ member
    exact apart key content ((last key content).mp member)
  | nothing bodies pairs parts => exact .nothing bodies pairs parts rfl

/-- Whatever setters are called, in whatever order: where no header tells another content type, reading the
body by its content type gives what they have stored. -/
theorem Endpoint.restores_of_built {endpoint : Endpoint} {registry : Registry} {boundary : String}
    {calls : List (SetterCall endpoint)} {request : Request} (carries : endpoint.method.carriesPayload = true)
    (unset : ∀ entry ∈ (SetterCall.settings calls).filterMap (Setting.entry? .header),
      HeaderName.ofText? entry.1 ≠ some "content-type")
    (built : (Draft.ofCalls calls).build endpoint registry boundary = .ok request) :
    Decoded.Restores boundary (SetterCall.settings calls) request.decoded? := by
  obtain ⟨payload, asked, carried⟩ := (sendsPayload registry boundary carries).carries request built
  rw [carried.decoded? unset]
  exact asked.restores

/-- Of two files that are set, the later one is read. -/
theorem upload_restored : ∃ request fields,
    (Draft.ofCalls [uploadFile [1], uploadTrace "7", uploadFile [2, 3]]).build uploadEndpoint
      (some (localClient 8080)) "bound" = .ok request ∧
    request.decoded? = some (.parts fields) ∧ ("file", [2, 3]) ∈ fields := by
  obtain ⟨request, built, _⟩ := Checks.exists_ok_of_toOption
    ((Draft.ofCalls [uploadFile [1], uploadTrace "7", uploadFile [2, 3]]).build uploadEndpoint
      (some (localClient 8080)) "bound") (fun _ => True) (by decide +kernel)
  have apart : ∀ part ∈ (SetterCall.settings [uploadFile [1], uploadTrace "7", uploadFile [2, 3]]).filterMap
      Setting.part?, ¬ bytesOf "bound" <:+: part.2 := by decide +kernel
  cases Endpoint.restores_of_built rfl (by decide +kernel) built with
  | document last => cases last
  | pairs _ stored => exact absurd rfl stored
  | nothing _ _ parts => cases parts
  | parts _ _ _ restored =>
    obtain ⟨fields, decoded, _, last⟩ := restored (by decide) (by
      intro key content held
      obtain ⟨part, found, rfl⟩ := Option.map_eq_some_iff.mp held
      exact apart part (List.mem_filter.mp (List.mem_of_getLast? found)).1)
    exact ⟨request, fields, built, decoded, (last _ _).mpr rfl⟩

end Endpoints
