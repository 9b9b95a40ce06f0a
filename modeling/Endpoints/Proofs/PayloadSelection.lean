import Endpoints.Proofs.RequestAssembly

/-! Which payload a request carries. A method with a payload sends the last body, or else the form, or
else the parts, and leaves queries alone; a method without one sends none of them. -/

namespace Endpoints
open Checks

/-- A body with its content type. -/
structure Payload where
  contentType : String
  body : RequestBody

/-- What settings ask to be sent. -/
inductive Payload.Asked (boundary : String) (settings : List Setting) : Option Payload → Prop where
  | body {value : Json} (last : (settings.filterMap Setting.content?).getLast? = some (.document value)) :
    Asked boundary settings (some ⟨"application/json", .content value.bytes⟩)
  | form (bodies : settings.filterMap Setting.content? = [])
      (pairs : settings.filterMap (Setting.entry? .form) ≠ []) :
    Asked boundary settings (some ⟨"application/x-www-form-urlencoded",
      .content (bytesOf (Form.ofPairs (settings.filterMap (Setting.entry? .form))).encode)⟩)
  | multipart (bodies : settings.filterMap Setting.content? = [])
      (pairs : settings.filterMap (Setting.entry? .form) = [])
      (parts : settings.filterMap Setting.part? ≠ []) :
    Asked boundary settings (some ⟨Multipart.contentType boundary,
      .parts boundary (Keyed.ofList (settings.filterMap Setting.part?))⟩)
  | nothing (bodies : settings.filterMap Setting.content? = [])
      (pairs : settings.filterMap (Setting.entry? .form) = [])
      (parts : settings.filterMap Setting.part? = []) :
    Asked boundary settings none

/-- The request has the payload as its body, and as its content type unless a header sets another. -/
structure Request.Carries (request : Request) (settings : List Setting) (payload : Option Payload) :
    Prop where
  body : request.body = payload.map (·.body)
  contentType : request.headers.get? "content-type" =
    (Headers.lastNamed? "content-type"
      (Keyed.ofList (settings.filterMap (Setting.entry? .header)))).or
        (payload.map fun payload => HeaderValue.plain payload.contentType)

namespace Draft

variable {endpoint : Endpoint}

section
variable (calls : List (SetterCall endpoint)) (method : HttpMethod) (url : Url) (boundary : String)

theorem payloadOf?_of_unused {kind : BindingKind} (unused : endpoint.uses kind = false) :
    (ofCalls calls).payloadOf? method url boundary kind = none := by
  cases kind with
  | body =>
    have nothing := SetterCall.filterMap_settings_of_unused
      (fun _ _ => Setting.kind_of_content?) unused calls
    simp [payloadOf?, body_ofSettings, nothing]
  | form =>
    have nothing := SetterCall.entries_of_unused unused calls
    simp [payloadOf?, form_ofSettings, Form.isEmpty_ofPairs, nothing]
  | multipart =>
    have nothing := SetterCall.filterMap_settings_of_unused
      (fun _ _ => Setting.kind_of_part?) unused calls
    simp [payloadOf?, parts_ofSettings, Keyed.isEmpty_ofList, nothing]
  | path | query | header => rfl

/-- The kinds that the endpoint lacks make no difference to the choice. -/
theorem payload_eq_findSome? :
    (ofCalls calls).payload endpoint url boundary =
      ([.body, .form, .multipart].findSome? ((ofCalls calls).payloadOf? endpoint.method url boundary)).getD
        (.ok (Request.ofUrl endpoint.method.name url)) := by
  have skipped (kinds : List BindingKind) :
      (kinds.filter endpoint.uses).findSome? ((ofCalls calls).payloadOf? endpoint.method url boundary) =
        kinds.findSome? ((ofCalls calls).payloadOf? endpoint.method url boundary) := by
    induction kinds with
    | nil => rfl
    | cons kind rest ih =>
      cases used : endpoint.uses kind with
      | false => simp [used, ih, payloadOf?_of_unused calls endpoint.method url boundary used]
      | true =>
        rw [List.filter_cons_of_pos used, List.findSome?_cons, List.findSome?_cons, ih]
  unfold payload Endpoint.payloadKinds
  rw [skipped]

theorem asked_of_payload {request : Request}
    (made : (ofCalls calls).payload endpoint url boundary = .ok request) :
    ∃ payload, Payload.Asked boundary (SetterCall.settings calls) payload ∧
      request.body = payload.map (·.body) ∧ request.headers.get? "content-type" =
        payload.map fun payload => HeaderValue.plain payload.contentType := by
  rw [payload_eq_findSome?] at made
  cases last : ((SetterCall.settings calls).filterMap Setting.content?).getLast? with
  | some content =>
    cases content with
    | document value =>
      obtain rfl : withBody endpoint.method url "application/json" value.bytes = request := by
        simpa [payloadOf?, body_ofSettings, last, Content.encode, Except.map] using made
      exact ⟨_, .body last, rfl, by simp [withBody, Headers.get?_put]⟩
    | unencodable reason =>
      simp [payloadOf?, body_ofSettings, last, Content.encode, Except.map] at made
  | none =>
    have bodies := List.getLast?_eq_none_iff.mp last
    by_cases pairs : (SetterCall.settings calls).filterMap (Setting.entry? .form) = []
    · by_cases parts : (SetterCall.settings calls).filterMap Setting.part? = []
      · obtain rfl : Request.ofUrl endpoint.method.name url = request := by
          simpa [payloadOf?, body_ofSettings, form_ofSettings, parts_ofSettings, Form.isEmpty_ofPairs,
            Keyed.isEmpty_ofList, last, pairs, parts] using made
        exact ⟨none, .nothing bodies pairs parts, rfl, rfl⟩
      · obtain rfl : Request.multipart endpoint.method.name url boundary
            (Keyed.ofList ((SetterCall.settings calls).filterMap Setting.part?)) = request := by
          simpa [payloadOf?, body_ofSettings, form_ofSettings, parts_ofSettings, Form.isEmpty_ofPairs,
            Keyed.isEmpty_ofList, last, pairs, parts] using made
        exact ⟨_, .multipart bodies pairs parts, rfl, by simp [Request.multipart, Headers.get?_put]⟩
    · obtain rfl : withBody endpoint.method url "application/x-www-form-urlencoded" (bytesOf
          (Form.ofPairs ((SetterCall.settings calls).filterMap (Setting.entry? .form))).encode) =
            request := by
        simpa [payloadOf?, body_ofSettings, form_ofSettings, Form.isEmpty_ofPairs, last, pairs] using made
      exact ⟨_, .form bodies pairs, rfl, by simp [withBody, Headers.get?_put]⟩

end

theorem payload_of_body {draft : Draft} {content : Content} (used : endpoint.uses .body = true)
    (stored : draft.body = some content) (url : Url) (boundary : String) :
    draft.payload endpoint url boundary =
      content.encode.map (withBody endpoint.method url "application/json") := by
  simp [payload, Endpoint.payloadKinds, used, payloadOf?, stored]

end Draft

namespace Endpoint

variable (endpoint : Endpoint) (registry : Registry) (boundary : String)
  (calls : List (SetterCall endpoint))

/-- Queries have no effect, one payload is sent, and after a body the other payloads have none. -/
structure SendsPayload : Prop where
  ignoresQueries : ∀ others : List (SetterCall endpoint),
    Setting.AgreeOff [.query] (SetterCall.settings calls) (SetterCall.settings others) →
      (Draft.ofCalls others).build endpoint registry boundary =
        (Draft.ofCalls calls).build endpoint registry boundary
  carries : ∀ request, (Draft.ofCalls calls).build endpoint registry boundary = .ok request →
    ∃ payload, Payload.Asked boundary (SetterCall.settings calls) payload ∧
      request.Carries (SetterCall.settings calls) payload
  bodyWins : (∃ call ∈ calls, call.setting.kind = .body) → ∀ others : List (SetterCall endpoint),
    Setting.AgreeOff [.query, .form, .multipart] (SetterCall.settings calls)
        (SetterCall.settings others) →
      (Draft.ofCalls others).build endpoint registry boundary =
        (Draft.ofCalls calls).build endpoint registry boundary

/-- Payloads have no effect, not even one that cannot be encoded, and nothing is sent. -/
structure SendsNoPayload : Prop where
  ignoresPayloads : ∀ others : List (SetterCall endpoint),
    Setting.AgreeOff [.form, .body, .multipart] (SetterCall.settings calls)
        (SetterCall.settings others) →
      (Draft.ofCalls others).build endpoint registry boundary =
        (Draft.ofCalls calls).build endpoint registry boundary
  carries : ∀ request, (Draft.ofCalls calls).build endpoint registry boundary = .ok request →
    request.Carries (SetterCall.settings calls) none

variable {endpoint calls}

/-- What is set last, the headers, keeps the payload that is there. -/
theorem carries_of_built {request assembled : Request} {payload : Option Payload}
    (body : assembled.body = payload.map (·.body))
    (contentType : assembled.headers.get? "content-type" =
      payload.map fun payload => HeaderValue.plain payload.contentType)
    (set : (Draft.ofCalls calls).setHeaders endpoint assembled.accepting = .ok request) :
    request.Carries (SetterCall.settings calls) payload := by
  have headers := Draft.setHeaders_calls calls set
  refine ⟨headers.body.trans body, ?_⟩
  rw [headers.headers, Request.accepting_get? assembled (by decide), contentType]

theorem sendsPayload (carries : endpoint.method.carriesPayload = true) :
    endpoint.SendsPayload registry boundary calls where
  ignoresQueries others agree := by
    have same := Draft.agreesOff_of_agree agree
    have payload : (Draft.ofCalls others).payload endpoint = (Draft.ofCalls calls).payload endpoint := by
      funext url boundary
      unfold Draft.payload
      congr 2
      funext kind
      cases kind <;> simp [Draft.payloadOf?, same.body, same.form, same.parts]
    rw [Draft.build_congr (same.path (by decide)).symm (same.headers (by decide)).symm]
    simp [Draft.assemble, carries, payload]
  carries request built := by
    obtain ⟨client, url, assembled, rfl, read, made, set⟩ := Draft.build_eq_ok_iff.mp built
    rw [Draft.assemble, if_pos carries] at made
    obtain ⟨payload, asked, body, contentType⟩ := Draft.asked_of_payload calls url boundary made
    exact ⟨payload, asked, carries_of_built body contentType set⟩
  bodyWins := by
    rintro ⟨call, member, body⟩ others agree
    have same := Draft.agreesOff_of_agree agree
    have used : endpoint.uses .body = true := body ▸ call.uses
    obtain ⟨content, stored⟩ : ∃ content, (Draft.ofCalls calls).body = some content :=
      Draft.exists_body_of_mem (List.mem_map_of_mem member) body
    have kept : (Draft.ofCalls others).body = some content := (same.body (by decide)).symm.trans stored
    rw [Draft.build_congr (same.path (by decide)).symm (same.headers (by decide)).symm]
    intro url boundary
    simp [Draft.assemble, carries, Draft.payload_of_body used stored, Draft.payload_of_body used kept]

theorem sendsNoPayload (carries : endpoint.method.carriesPayload = false) :
    endpoint.SendsNoPayload registry boundary calls where
  ignoresPayloads others agree := by
    have same := Draft.agreesOff_of_agree agree
    rw [Draft.build_congr (same.path (by decide)).symm (same.headers (by decide)).symm]
    simp [Draft.assemble, carries, Draft.queried, same.query]
  carries request built := by
    obtain ⟨client, url, assembled, rfl, read, made, set⟩ := Draft.build_eq_ok_iff.mp built
    rw [Draft.assemble, carries] at made
    cases made
    exact carries_of_built rfl rfl set

end Endpoint

end Endpoints
