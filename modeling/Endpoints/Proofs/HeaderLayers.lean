import Endpoints.Client.Call
import Endpoints.Proofs.HostConfinement
import Endpoints.Proofs.PayloadSelection
import Endpoints.Proofs.SettingOrder
import Mathlib.Data.Bool.AllAny

/-! Which headers a request has when it leaves: those that setters bind, over those that every request has,
over those of the client. A name has one value in each layer, and the first layer with the name counts. -/

namespace Endpoints
open Checks

namespace Headers

def names (headers : Headers) : List String := headers.fields.map (·.1)

theorem mem_names_iff {headers : Headers} {name : String} :
    name ∈ headers.names ↔ (headers.get? name).isSome = true := by
  simp [names, get?]

theorem get?_eq_none_iff {headers : Headers} {name : String} :
    headers.get? name = none ↔ name ∉ headers.names := by
  rw [mem_names_iff]
  simp

theorem nodup_empty : empty.names.Nodup := List.nodup_nil

theorem mem_putIn {name : String} {value : HeaderValue} {fields : List (String × HeaderValue)}
    {field : String × HeaderValue} (member : field ∈ putIn name value fields) :
    field.1 = name ∨ field ∈ fields := by
  induction fields with
  | nil =>
    obtain rfl := List.mem_singleton.mp member
    exact .inl rfl
  | cons first rest ih =>
    simp only [putIn] at member
    split at member
    · rcases List.mem_cons.mp member with rfl | kept
      · exact .inl rfl
      · exact .inr (List.mem_cons_of_mem first (List.mem_filter.mp kept).1)
    · rcases List.mem_cons.mp member with rfl | later
      · exact .inr List.mem_cons_self
      · rcases ih later with same | among
        · exact .inl same
        · exact .inr (List.mem_cons_of_mem first among)

theorem nodup_put {headers : Headers} (single : headers.names.Nodup) (name : String) (value : HeaderValue) :
    (headers.put name value).names.Nodup := by
  obtain ⟨fields⟩ := headers
  change ((putIn name value fields).map (·.1)).Nodup
  change (fields.map (·.1)).Nodup at single
  induction fields with
  | nil => simp [putIn]
  | cons first rest ih =>
    obtain ⟨missing, singleRest⟩ := List.nodup_cons.mp single
    simp only [putIn]
    split
    · have others : ((rest.filter (·.1 ≠ name)).map (·.1)).Nodup :=
        singleRest.sublist (List.filter_sublist.map _)
      refine List.nodup_cons.mpr ⟨?_, others⟩
      intro member
      obtain ⟨field, kept, same⟩ := List.mem_map.mp member
      exact absurd same (of_decide_eq_true (List.mem_filter.mp kept).2)
    · next different =>
      refine List.nodup_cons.mpr ⟨?_, ih singleRest⟩
      intro member
      obtain ⟨field, kept, same⟩ := List.mem_map.mp member
      rcases mem_putIn kept with put | among
      · exact different (same.symm.trans put)
      · exact missing (same ▸ List.mem_map_of_mem among)

theorem add_of_missing {headers : Headers} {name : String} (missing : headers.get? name = none)
    (value : HeaderValue) : headers.add name value = ⟨headers.fields ++ [(name, value)]⟩ := by
  obtain ⟨fields⟩ := headers
  have absent := get?_eq_none_iff.mp missing
  change name ∉ fields.map (·.1) at absent
  unfold add
  congr 1
  induction fields with
  | nil => rfl
  | cons first rest ih =>
    obtain ⟨different, others⟩ := List.ne_and_not_mem_of_not_mem_cons absent
    simp only [addIn]
    rw [if_neg fun same => different same.1.symm, ih (get?_eq_none_iff.mpr others) others]
    rfl

theorem withDefaults_fields {headers defaults : Headers} (single : defaults.names.Nodup) :
    (headers.withDefaults defaults).fields =
      headers.fields ++ defaults.fields.filter fun field => (headers.get? field.1).isNone := by
  have added (fields : List (String × HeaderValue)) (single : (fields.map (·.1)).Nodup) (all : Headers)
      (missing : ∀ field ∈ fields, headers.get? field.1 = none → all.get? field.1 = none) :
      (fields.foldl (fun all field =>
        if (headers.get? field.1).isSome then all else all.add field.1 field.2) all).fields =
        all.fields ++ fields.filter fun field => (headers.get? field.1).isNone := by
    induction fields generalizing all with
    | nil => simp
    | cons first rest ih =>
      obtain ⟨apart, singleRest⟩ := List.nodup_cons.mp single
      obtain ⟨missingFirst, missingRest⟩ := List.forall_mem_cons.mp missing
      obtain ⟨name, value⟩ := first
      cases held : headers.get? name with
      | some kept =>
        simp only [List.foldl_cons, held, Option.isSome_some, if_true]
        rw [List.filter_cons_of_neg (by simp [held])]
        exact ih singleRest all missingRest
      | none =>
        have new := add_of_missing (missingFirst held) value
        have later : ∀ field ∈ rest, headers.get? field.1 = none → (all.add name value).get? field.1 = none := by
          intro field member absent
          have different : name ≠ field.1 := fun same => apart (List.mem_map.mpr ⟨field, member, same.symm⟩)
          have before := missingRest field member absent
          unfold get? at before ⊢
          simpa [new, different] using before
        simp only [List.foldl_cons, held, Option.isSome_none, Bool.false_eq_true, if_false]
        rw [List.filter_cons_of_pos (by simp [held])]
        refine (ih singleRest _ later).trans ?_
        rw [new, List.append_assoc]
        rfl
  exact added defaults.fields single headers fun _ _ missing => missing

theorem get?_withDefaults {headers defaults : Headers} (single : defaults.names.Nodup) (name : String) :
    (headers.withDefaults defaults).get? name = (headers.get? name).or (defaults.get? name) := by
  have fields : (headers.withDefaults defaults).fields = _ := withDefaults_fields single
  cases held : headers.get? name with
  | some value =>
    obtain ⟨field, found, rfl⟩ := Option.map_eq_some_iff.mp held
    rw [get?, fields, List.find?_append, found]
    rfl
  | none =>
    have absent : headers.fields.find? (·.1 = name) = none := by simpa [get?] using held
    have kept : (defaults.fields.filter fun field => (headers.get? field.1).isNone).find? (·.1 = name) =
        defaults.fields.find? (·.1 = name) := by
      rw [List.find?_filter]
      congr 1
      funext field
      by_cases same : field.1 = name <;> simp [same, held]
    rw [get?, fields, List.find?_append, absent, Option.none_or, kept]
    rfl

theorem nodup_withDefaults {headers defaults : Headers} (single : headers.names.Nodup)
    (singleDefaults : defaults.names.Nodup) : (headers.withDefaults defaults).names.Nodup := by
  rw [names, withDefaults_fields singleDefaults, List.map_append, List.nodup_append]
  refine ⟨single, singleDefaults.sublist (List.filter_sublist.map _), ?_⟩
  intro name held other added same
  obtain ⟨field, kept, rfl⟩ := List.mem_map.mp added
  have missing := (List.mem_filter.mp kept).2
  rw [← same] at missing
  have present := mem_names_iff.mp held
  simp [Option.isNone_iff_eq_none.mp missing] at present

theorem nodup_of_foldlM {entries : List (String × String)} {headers result : Headers}
    (set : entries.foldlM (fun headers (name, value) => headers.set name value) headers = .ok result)
    (single : headers.names.Nodup) : result.names.Nodup := by
  induction entries generalizing headers with
  | nil =>
    cases set
    exact single
  | cons entry rest ih =>
    simp only [List.foldlM_cons, bind_eq_ok_iff] at set
    obtain ⟨next, first, others⟩ := set
    obtain ⟨spelled, _, _, rfl⟩ := set_eq_ok_iff.mp first
    exact ih others (nodup_put single spelled _)

end Headers

namespace Headers

/-- Of the spellings of a name among entries the bytewise greatest counts, and the last value under it. -/
structure Bound (entries : List (String × String)) (name key value : String) : Prop where
  spells : HeaderName.ofText? key = some name
  last : (entries.filter (·.1 = key)).getLast? = some (key, value)
  greatest : ∀ entry ∈ entries, HeaderName.ofText? entry.1 = some name → ¬ bytesOf key < bytesOf entry.1

theorem lastNamed?_eq_none_iff {name : String} {entries : List (String × String)} :
    lastNamed? name entries = none ↔ ∀ entry ∈ entries, HeaderName.ofText? entry.1 ≠ some name := by
  simp [lastNamed?]

/-- Where the keys ascend, the last entry for a name has its greatest spelling. -/
theorem exists_greatest {keyed : Keyed String} (ascends : keyed.Ascending) {name : String} {value : HeaderValue}
    (found : lastNamed? name keyed = some value) :
    ∃ entry ∈ keyed, HeaderName.ofText? entry.1 = some name ∧ HeaderValue.plain entry.2 = value ∧
      ∀ other ∈ keyed, HeaderName.ofText? other.1 = some name → ¬ entry.1 < other.1 := by
  induction keyed with
  | nil => cases found
  | cons first rest ih =>
    obtain ⟨above, restAscends⟩ := List.pairwise_cons.mp ascends
    rw [lastNamed?_cons] at found
    cases later : lastNamed? name rest with
    | some kept =>
      rw [later] at found
      obtain ⟨entry, member, spells, same, greatest⟩ := ih restAscends (later.trans found)
      refine ⟨entry, List.mem_cons_of_mem first member, spells, same, ?_⟩
      intro other among named
      rcases List.mem_cons.mp among with rfl | inside
      · exact String.lt_asymm (above entry member)
      · exact greatest other inside named
    | none =>
      rw [later, Option.none_or] at found
      split at found
      · next spells =>
        refine ⟨first, List.mem_cons_self, spells, Option.some.inj found, ?_⟩
        intro other among named
        rcases List.mem_cons.mp among with rfl | inside
        · exact String.lt_irrefl _
        · exact absurd named (lastNamed?_eq_none_iff.mp later other inside)
      · cases found

theorem mem_ofList_iff {entries : List (String × String)} {key value : String} :
    (key, value) ∈ Keyed.ofList entries ↔ (entries.filter (·.1 = key)).getLast? = some (key, value) := by
  rw [Keyed.mem_ofList_iff, Option.map_eq_some_iff]
  constructor
  · rintro ⟨entry, last, rfl⟩
    have same : entry.1 = key := by simpa using (List.mem_filter.mp (List.mem_of_getLast? last)).2
    rw [last, ← same]
  · intro last
    exact ⟨_, last, rfl⟩

theorem exists_mem_ofList {entries : List (String × String)} {entry : String × String} (member : entry ∈ entries) :
    ∃ value, (entry.1, value) ∈ Keyed.ofList entries := by
  have some : entries.filter (·.1 = entry.1) ≠ [] :=
    List.ne_nil_of_mem (List.mem_filter.mpr ⟨member, by simp⟩)
  obtain ⟨last, found⟩ := Option.ne_none_iff_exists'.mp (mt List.getLast?_eq_none_iff.mp some)
  have same : last.1 = entry.1 := by simpa using (List.mem_filter.mp (List.mem_of_getLast? found)).2
  exact ⟨last.2, mem_ofList_iff.mpr (by rw [found, ← same])⟩

theorem exists_bound {entries : List (String × String)} {name : String} {value : HeaderValue}
    (found : lastNamed? name (Keyed.ofList entries) = some value) :
    ∃ key text, Bound entries name key text ∧ HeaderValue.plain text = value := by
  obtain ⟨⟨key, text⟩, member, spells, same, greatest⟩ := exists_greatest (Keyed.ascending_ofList entries) found
  refine ⟨key, text, ⟨spells, mem_ofList_iff.mp member, ?_⟩, same⟩
  intro entry among named less
  obtain ⟨other, inside⟩ := exists_mem_ofList among
  exact greatest _ inside named (bytesOf_lt_iff.mp less)

theorem lastNamed?_ofList_eq_none_iff {name : String} {entries : List (String × String)} :
    lastNamed? name (Keyed.ofList entries) = none ↔ ∀ entry ∈ entries, HeaderName.ofText? entry.1 ≠ some name := by
  rw [lastNamed?_eq_none_iff]
  constructor
  · intro unnamed entry member
    obtain ⟨value, inside⟩ := exists_mem_ofList member
    exact unnamed (entry.1, value) inside
  · rintro unnamed ⟨key, value⟩ member
    have last := List.mem_of_getLast? (mem_ofList_iff.mp member)
    exact unnamed _ (List.mem_filter.mp last).1

end Headers

/-- The request that a call hands to the network while one client is registered, if it hands one over. -/
def Call.sent? (call : Call) (client : Client) : Option Request :=
  match call.draft.build call.endpoint (some client) call.boundary with
  | .ok request =>
    if request.reencodeQuery.isSendable then some (client.outgoing request.reencodeQuery) else none
  | .error _ => none

theorem Call.sent?_eq_some_iff {call : Call} {client : Client} {request : Request} :
    call.sent? client = some request ↔ ∃ built, call.draft.build call.endpoint (some client) call.boundary = .ok built ∧
      built.reencodeQuery.isSendable = true ∧ client.outgoing built.reencodeQuery = request := by
  unfold sent?
  cases call.draft.build call.endpoint (some client) call.boundary with
  | error error => simp
  | ok built => simp

/-- A call is answered with what the network answers to the request that is handed over. -/
theorem Call.run_of_sent {call : Call} {client : Client} {request : Request}
    (sent : call.sent? client = some request) (network : Network) :
    call.run (some client) network = match network request with
      | some response => call.result.read response.body
      | none => .error (.transport .unreachable request.url.text) := by
  obtain ⟨built, made, sendable, rfl⟩ := sent?_eq_some_iff.mp sent
  simp only [run, step, made, Client.send, sendable, if_true, readAnswer]
  cases network (client.outgoing built.reencodeQuery) <;> rfl

/-- A call that hands nothing over fails, whatever the network would answer. -/
theorem Call.run_of_unsent {call : Call} {client : Client} (unsent : call.sent? client = none) :
    ∃ error, ∀ network, call.run (some client) network = .error error := by
  unfold sent? at unsent
  split at unsent
  · next built made =>
    split at unsent
    · cases unsent
    · next unsendable =>
      refine ⟨.transport .unsendable built.reencodeQuery.url.text, fun network => ?_⟩
      simp only [run, step, made, Client.send, unsendable, Bool.false_eq_true, if_false, readAnswer]
      rfl
  · next error failed =>
    refine ⟨error, fun network => ?_⟩
    simp only [run, step, failed]

theorem Url.withQuery_scheme (url : Url) (query : Option String) : (url.withQuery query).scheme = url.scheme := by
  unfold withQuery
  simp only
  split <;> rfl

namespace Request

theorem authorize_of_anonymous {request : Request}
    (anonymous : ∀ authority ∈ request.url.authority, authority.hasUserinfo = false) :
    request.authorize = request := by
  unfold authorize
  split
  · rfl
  · next authority place =>
    have bare := anonymous authority place
    have parts : authority.username = [] ∧ authority.password = none := by simpa [Authority.hasUserinfo] using bare
    have decoded : Percent.decode [] = [] := by
      rw [Percent.decode, bytesOf_ofList]
      rfl
    simp [parts, decoded]

@[simp] theorem authorize_scheme (request : Request) : request.authorize.url.scheme = request.url.scheme := by
  unfold authorize
  split
  · rfl
  · simp only
    split <;> rfl

@[simp] theorem reencodeQuery_headers (request : Request) : request.reencodeQuery.headers = request.headers := by
  unfold reencodeQuery
  split <;> rfl

@[simp] theorem reencodeQuery_scheme (request : Request) :
    request.reencodeQuery.url.scheme = request.url.scheme := by
  unfold reencodeQuery
  split
  · rfl
  · rw [Url.withQuery_scheme]

end Request

/-- The payload that a request has: the one that settings ask for, where the method carries one. -/
def Endpoint.Selects (endpoint : Endpoint) (boundary : String) (settings : List Setting) (payload : Option Payload) : Prop :=
  if endpoint.method.carriesPayload then Payload.Asked boundary settings payload else payload = none

namespace Draft

variable {endpoint : Endpoint}

theorem Assembled.url_scheme {method boundary : String} {url : Url} {request : Request}
    (assembled : Assembled method url boundary request) : request.url.scheme = url.scheme := by
  cases assembled with
  | whole scheme _ _ => exact scheme
  | parts fields => simp [Request.multipart, Request.ofUrl]

/-- Before the setters' headers there is one for the content at most. -/
theorem Assembled.headers_of_anonymous {method boundary : String} {url : Url} {request : Request}
    (assembled : Assembled method url boundary request)
    (anonymous : ∀ authority ∈ url.authority, authority.hasUserinfo = false) :
    request.headers = Headers.empty ∨ ∃ value, request.headers = Headers.empty.put "content-type" value := by
  cases assembled with
  | whole _ _ headers => exact headers
  | parts fields =>
    have kept : (Request.ofUrl method url).authorize = _ := Request.authorize_of_anonymous anonymous
    exact .inr ⟨_, by rw [Request.multipart, kept]; rfl⟩

theorem asked_of_assemble {calls : List (SetterCall endpoint)} {url : Url} {boundary : String} {request : Request}
    (made : (ofCalls calls).assemble endpoint url boundary = .ok request) :
    ∃ payload, endpoint.Selects boundary (SetterCall.settings calls) payload ∧
      request.headers.get? "content-type" = payload.map fun payload => HeaderValue.plain payload.contentType := by
  unfold assemble at made
  split at made
  · next carries =>
    obtain ⟨payload, asked, _, contentType⟩ := asked_of_payload calls url boundary made
    refine ⟨payload, ?_, contentType⟩
    rwa [Endpoint.Selects, if_pos carries]
  · next carries =>
    obtain rfl := Except.ok.inj made
    refine ⟨none, ?_, rfl⟩
    rw [Endpoint.Selects, if_neg carries]

theorem nodup_of_setHeaders {draft : Draft} {request result : Request}
    (set : draft.setHeaders endpoint request = .ok result) (single : request.headers.names.Nodup) :
    result.headers.names.Nodup := by
  unfold setHeaders at set
  split at set
  · obtain ⟨headers, put, rfl⟩ := Request.exists_headers_of_foldlM set
    exact Headers.nodup_of_foldlM put single
  · obtain rfl := Except.ok.inj set
    exact single

end Draft

theorem Client.ofOptions_eq_ok {options : ClientOptions} {client : Client} (made : ofOptions options = .ok client) :
    client.options = options ∧ client.defaults.names.Nodup ∧
      ∀ name, client.defaults.get? name = Headers.lastNamed? name options.headers := by
  simp only [ofOptions, bind_eq_ok_iff, pure_eq_ok_iff] at made
  obtain ⟨defaults, set, rfl⟩ := made
  refine ⟨rfl, Headers.nodup_of_foldlM set Headers.nodup_empty, fun name => ?_⟩
  rw [Headers.get?_of_foldlM set]
  exact Option.or_none

/-- Every header of a request comes from the first layer that has its name: what setters bind, what the
endpoint asks for and sends, what the client adds by default. -/
structure Request.Layered (request : Request) (setters : List (String × String)) (payload : Option Payload)
    (defaults : List (String × String)) : Prop where
  single : request.headers.names.Nodup
  bound : ∀ name, (∃ entry ∈ setters, HeaderName.ofText? entry.1 = some name) → ∃ key value,
    Headers.Bound setters name key value ∧ request.headers.get? name = some (HeaderValue.plain value)
  accept : (∀ entry ∈ setters, HeaderName.ofText? entry.1 ≠ some "accept") →
    request.headers.get? "accept" = some (HeaderValue.plain "application/json")
  contentType : (∀ entry ∈ setters, HeaderName.ofText? entry.1 ≠ some "content-type") → ∀ content ∈ payload,
    request.headers.get? "content-type" = some (HeaderValue.plain content.contentType)
  listed : ∀ name, (∀ entry ∈ setters, HeaderName.ofText? entry.1 ≠ some name) → name ≠ "accept" →
    (name = "content-type" → payload = none) → request.headers.get? name = Headers.lastNamed? name defaults

theorem Request.layered_of_get? {request assembled : Request} {setters listed : List (String × String)}
    {payload : Option Payload} (single : request.headers.names.Nodup)
    (contentType : assembled.headers.get? "content-type" =
      payload.map fun payload => HeaderValue.plain payload.contentType)
    (others : ∀ name, name ≠ "content-type" → assembled.headers.get? name = none)
    (layers : ∀ name, request.headers.get? name = (Headers.lastNamed? name (Keyed.ofList setters)).or
      ((assembled.accepting.headers.get? name).or (Headers.lastNamed? name listed))) :
    request.Layered setters payload listed where
  single := single
  bound := by
    rintro name ⟨entry, member, named⟩
    rw [layers]
    cases found : Headers.lastNamed? name (Keyed.ofList setters) with
    | none => exact absurd named (Headers.lastNamed?_ofList_eq_none_iff.mp found entry member)
    | some value =>
      obtain ⟨key, text, counts, same⟩ := Headers.exists_bound found
      exact ⟨key, text, counts, by rw [same]; rfl⟩
  accept := by
    intro unbound
    rw [layers, Headers.lastNamed?_ofList_eq_none_iff.mpr unbound, Request.accepting, Headers.get?_put, if_pos rfl]
    rfl
  contentType := by
    intro unbound content given
    rw [layers, Headers.lastNamed?_ofList_eq_none_iff.mpr unbound, Request.accepting_get? _ (by decide), contentType,
      Option.mem_def.mp given]
    rfl
  listed := by
    intro name unbound notAccept noContent
    have free : assembled.headers.get? name = none := by
      by_cases content : name = "content-type"
      · rw [content, contentType, noContent content]
        rfl
      · exact others name content
    rw [layers, Headers.lastNamed?_ofList_eq_none_iff.mpr unbound, Request.accepting_get? _ notAccept, free]
    rfl

theorem Client.anonymous_of_read {client : Client} {text : String} {path : List Char} {url : Url}
    (read : Url.read text = .ok client.options.baseUrl)
    (anonymous : ∀ authority ∈ client.options.baseUrl.authority, authority.hasUserinfo = false)
    (found : Url.read (client.baseText ++ String.ofList ('/' :: path)) = .ok url)
    (web : url.scheme = "http".toList ∨ url.scheme = "https".toList) :
    ∀ authority ∈ url.authority, authority.hasUserinfo = false := by
  rw [Client.scheme_of_read read found] at web
  obtain ⟨given, based, _, place⟩ := Client.origin_of_read read web found
  intro authority member
  rw [place] at member
  exact anonymous authority (based.trans member)

/-- Whatever a client adds by default and whatever setters bind, the request that leaves has its headers in
layers. -/
theorem Call.layered_of_sent {endpoint : Endpoint} {calls : List (SetterCall endpoint)} {options : ClientOptions}
    {client : Client} {text boundary : String} {result : ResultKind} {request : Request}
    (slash : endpoint.template.toList.head? = some '/') (read : Url.read text = .ok options.baseUrl)
    (anonymous : ∀ authority ∈ options.baseUrl.authority, authority.hasUserinfo = false)
    (made : Client.ofOptions options = .ok client)
    (sent : Call.sent? ⟨endpoint, .ofCalls calls, boundary, result⟩ client = some request) :
    ∃ payload, endpoint.Selects boundary (SetterCall.settings calls) payload ∧
      request.Layered ((SetterCall.settings calls).filterMap (Setting.entry? .header)) payload options.headers := by
  obtain ⟨rfl, singleDefaults, defaults⟩ := Client.ofOptions_eq_ok made
  obtain ⟨built, buildsTo, sendable, rfl⟩ := Call.sent?_eq_some_iff.mp sent
  obtain ⟨_, url, assembled, same, found, assembles, set⟩ := Draft.build_eq_ok_iff.mp buildsTo
  cases same
  have shape := Draft.assembled_of_assemble assembles
  have headers := Draft.setHeaders_calls calls set
  have web : url.scheme = "http".toList ∨ url.scheme = "https".toList := by
    have kept : built.reencodeQuery.url.scheme = url.scheme := by
      rw [Request.reencodeQuery_scheme, headers.url]
      exact shape.url_scheme
    simp only [Request.isSendable, kept, Bool.and_eq_true, Bool.or_eq_true, decide_eq_true_eq] at sendable
    exact sendable.1.1
  obtain ⟨path, target⟩ := Draft.exists_target_eq (.ofCalls calls) slash
  rw [target] at found
  have plain := shape.headers_of_anonymous (Client.anonymous_of_read read anonymous found web)
  have single : assembled.headers.names.Nodup := by
    rcases plain with none | ⟨value, one⟩
    · rw [none]
      exact Headers.nodup_empty
    · rw [one]
      exact Headers.nodup_put Headers.nodup_empty _ value
  have others (name : String) (other : name ≠ "content-type") : assembled.headers.get? name = none := by
    rcases plain with none | ⟨value, one⟩
    · rw [none]
      rfl
    · rw [one, Headers.get?_put, if_neg other]
      rfl
  obtain ⟨payload, selected, contentType⟩ := Draft.asked_of_assemble assembles
  refine ⟨payload, selected, Request.layered_of_get? ?_ contentType others fun name => ?_⟩
  · apply Headers.nodup_withDefaults _ singleDefaults
    rw [Request.reencodeQuery_headers]
    exact Draft.nodup_of_setHeaders set (Headers.nodup_put single _ _)
  · rw [Client.outgoing, Request.reencodeQuery_headers, Headers.get?_withDefaults singleDefaults, headers.headers,
      defaults, Option.or_assoc]

/-- Defaults that an upload hides, one that a setter hides, and one that is sent. -/
theorem upload_layered :
    let options := { (localClient 8080).options with
      headers := [("X-Trace-Id", "none"), ("ACCEPT", "*/*"), ("User-Agent", "first"), ("user-agent", "second")] }
    let call : Call := ⟨uploadEndpoint, .ofCalls [uploadTrace "7", uploadFile [1], uploadTrace "8"], "bound", .text⟩
    ∃ client request payload, Client.ofOptions options = .ok client ∧ call.sent? client = some request ∧
      request.Layered [("X-Trace-Id", "7"), ("X-Trace-Id", "8")] payload options.headers := by
  intro options call
  obtain ⟨_, read, base⟩ := exists_ok_of_toOption (Url.read "http://localhost:8080")
    (· = (localClient 8080).options.baseUrl) (by decide +kernel)
  obtain ⟨client, made, sends⟩ := exists_ok_of_toOption (Client.ofOptions options)
    (fun client => (call.sent? client).isSome = true) (by decide +kernel)
  obtain ⟨request, sent⟩ := Option.isSome_iff_exists.mp sends
  obtain ⟨payload, _, layered⟩ := Call.layered_of_sent (by decide) (base ▸ read) (by decide) made sent
  exact ⟨client, request, payload, made, sent, layered⟩

end Endpoints
