import Endpoints.Proofs.FormContents
import Endpoints.Proofs.RequestAssembly

/-! The order in which setters are called. What is stored depends on the last value of a key, or on all
values of a key where they are kept, so calls of different setters can change places. -/

namespace Endpoints

namespace Setting

/-- The value that the last setter of a kind and key stores. -/
def lastText? (kind : BindingKind) (key : String) (settings : List Setting) : Option String :=
  (((settings.filterMap (Setting.entry? kind)).filter (·.1 = key)).getLast?).map (·.2)

/-- The values that the setters of a kind and key store, in order. -/
def texts (kind : BindingKind) (key : String) (settings : List Setting) : List String :=
  ((settings.filterMap (Setting.entry? kind)).filter (·.1 = key)).map (·.2)

def lastPart? (key : String) (settings : List Setting) : Option Bytes :=
  (((settings.filterMap part?).filter (·.1 = key)).getLast?).map (·.2)

def lastContent? (settings : List Setting) : Option Content := (settings.filterMap content?).getLast?

/-- The same last value under every key, and the same values under keys that keep them all. -/
structure SameContents (first second : List Setting) : Prop where
  path : ∀ key, lastText? .path key first = lastText? .path key second
  query : ∀ key, texts .query key first = texts .query key second
  header : ∀ key, lastText? .header key first = lastText? .header key second
  form : ∀ key, texts .form key first = texts .form key second
  body : lastContent? first = lastContent? second
  part : ∀ key, lastPart? key first = lastPart? key second

/-- Settings of one kind and key come in the same order in both lists. -/
def Rearranged (first second : List Setting) : Prop :=
  ∀ kind key, first.filter (fun setting => setting.kind = kind ∧ setting.key = key) =
    second.filter (fun setting => setting.kind = kind ∧ setting.key = key)

theorem key_of_entry? {kind : BindingKind} {setting : Setting} {entry : String × String}
    (offers : setting.entry? kind = some entry) : setting.key = entry.1 := by
  unfold entry? at offers
  split at offers
  · obtain ⟨_, _, rfl⟩ := Option.map_eq_some_iff.mp offers
    rfl
  · cases offers

theorem key_of_part? {setting : Setting} {part : String × Bytes}
    (offers : setting.part? = some part) : setting.key = part.1 := by
  cases setting <;> simp_all [part?, key]
  subst offers
  rfl

theorem filterMap_filter_key {α : Type} {kind : BindingKind} {offer : Setting → Option (String × α)}
    (kinds : ∀ {setting entry}, offer setting = some entry → setting.kind = kind)
    (keys : ∀ {setting entry}, offer setting = some entry → setting.key = entry.1)
    (key : String) (settings : List Setting) :
    (settings.filterMap offer).filter (·.1 = key) =
      (settings.filter fun setting => setting.kind = kind ∧ setting.key = key).filterMap offer := by
  rw [List.filter_filterMap, List.filterMap_filter]
  congr 1
  funext setting
  cases offers : offer setting with
  | none => simp
  | some entry => by_cases same : entry.1 = key <;> simp [kinds offers, keys offers, same]

theorem Rearranged.sameContents {first second : List Setting} (rearranged : Rearranged first second) :
    SameContents first second := by
  have entries (kind : BindingKind) (key : String) :
      (first.filterMap (Setting.entry? kind)).filter (·.1 = key) =
        (second.filterMap (Setting.entry? kind)).filter (·.1 = key) := by
    rw [filterMap_filter_key kind_of_entry? key_of_entry?, filterMap_filter_key kind_of_entry? key_of_entry?,
      rearranged]
  have parts (key : String) :
      (first.filterMap part?).filter (·.1 = key) = (second.filterMap part?).filter (·.1 = key) := by
    rw [filterMap_filter_key kind_of_part? key_of_part?, filterMap_filter_key kind_of_part? key_of_part?,
      rearranged]
  have contents (settings : List Setting) : settings.filterMap content? =
      (settings.filter fun setting => setting.kind = .body ∧ setting.key = "").filterMap content? := by
    rw [List.filterMap_filter]
    congr 1
    funext setting
    cases setting <;> simp [content?, kind, key]
  exact {
    path := fun key => by simp only [lastText?, entries]
    query := fun key => by simp only [texts, entries]
    header := fun key => by simp only [lastText?, entries]
    form := fun key => by simp only [texts, entries]
    body := by rw [lastContent?, lastContent?, contents first, contents second, rearranged]
    part := fun key => by simp only [lastPart?, parts] }

theorem filter_entries (kind : BindingKind) (key : String) (settings : List Setting) :
    (settings.filterMap (Setting.entry? kind)).filter (·.1 = key) = (texts kind key settings).map (key, ·) :=
  (Keyed.map_filter _ key).symm

end Setting

namespace Draft

theorem ofSettings_congr {first second : List Setting} (same : Setting.SameContents first second) :
    ofSettings first = ofSettings second := by
  have keyed {α : Type} {one other : List (String × α)}
      (lookups : ∀ key, ((one.filter (·.1 = key)).getLast?).map (·.2) =
        ((other.filter (·.1 = key)).getLast?).map (·.2)) : Keyed.ofList one = Keyed.ofList other := by
    refine (Keyed.ascending_ofList one).ext (Keyed.ascending_ofList other) fun key => ?_
    rw [Keyed.get?_ofList, Keyed.get?_ofList, lookups]
  have form {kind : BindingKind} (values : ∀ key, Setting.texts kind key first = Setting.texts kind key second) :
      Form.ofPairs (first.filterMap (Setting.entry? kind)) =
        Form.ofPairs (second.filterMap (Setting.entry? kind)) := by
    refine Form.ofPairs_congr fun key => ?_
    rw [Setting.filter_entries, Setting.filter_entries, values]
  have path : (ofSettings first).path = (ofSettings second).path := by
    rw [path_ofSettings, path_ofSettings, keyed same.path]
  have query : (ofSettings first).query = (ofSettings second).query := by
    rw [query_ofSettings, query_ofSettings, form same.query]
  have headers : (ofSettings first).headers = (ofSettings second).headers := by
    rw [headers_ofSettings, headers_ofSettings, keyed same.header]
  have pairs : (ofSettings first).form = (ofSettings second).form := by
    rw [form_ofSettings, form_ofSettings, form same.form]
  have body : (ofSettings first).body = (ofSettings second).body := by
    rw [body_ofSettings, body_ofSettings]
    exact same.body
  have parts : (ofSettings first).parts = (ofSettings second).parts := by
    rw [parts_ofSettings, parts_ofSettings, keyed same.part]
  cases first' : ofSettings first
  cases second' : ofSettings second
  simp_all

end Draft

section
variable (first second : String)

/-- The same value, or the content types of two multipart forms with a boundary each. -/
def HeaderValue.SameApart (one other : HeaderValue) : Prop :=
  one = other ∨ (one = .plain (Multipart.contentType first) ∧ other = .plain (Multipart.contentType second))

def Headers.SameApart (one other : Headers) : Prop :=
  List.Forall₂ (fun field another => field.1 = another.1 ∧ field.2.SameApart first second another.2)
    one.fields other.fields

/-- The same request, apart from the boundary between its parts. -/
structure Request.SameApart (one other : Request) : Prop where
  method : one.method = other.method
  url : one.url = other.url
  headers : one.headers.SameApart first second other.headers
  body : one.body = other.body ∨ ∃ fields, one.body = some (.parts first fields) ∧
    other.body = some (.parts second fields)

/-- The same error, or the same request apart from its boundary. -/
inductive Request.SameOutcome : Except CallError Request → Except CallError Request → Prop where
  | error (error : CallError) : SameOutcome (.error error) (.error error)
  | ok {one other : Request} (same : one.SameApart first second other) : SameOutcome (.ok one) (.ok other)

end

section
variable {first second : String}

theorem Headers.SameApart.refl (headers : Headers) : headers.SameApart first second headers :=
  List.forall₂_same.mpr fun _ _ => ⟨rfl, .inl rfl⟩

theorem Headers.SameApart.put {one other : Headers} (same : one.SameApart first second other)
    (name : String) {value another : HeaderValue} (values : value.SameApart first second another) :
    (one.put name value).SameApart first second (other.put name another) := by
  obtain ⟨fields⟩ := one
  obtain ⟨others⟩ := other
  change List.Forall₂ _ fields others at same
  change List.Forall₂ _ (putIn name value fields) (putIn name another others)
  induction same with
  | nil => exact .cons ⟨rfl, values⟩ .nil
  | @cons field otherField rest otherRest heads tails ih =>
    obtain ⟨key, held⟩ := field
    obtain ⟨otherKey, otherHeld⟩ := otherField
    obtain ⟨rfl, sameHeld⟩ : key = otherKey ∧ _ := heads
    simp only [putIn]
    split
    · refine .cons ⟨rfl, values⟩ (List.rel_filter ?_ tails)
      intro field another related
      simp [related.1]
    · exact .cons ⟨rfl, sameHeld⟩ ih

namespace Request

theorem SameApart.refl (request : Request) : request.SameApart first second request :=
  ⟨rfl, rfl, .refl _, .inl rfl⟩

theorem SameApart.put {one other : Request} (same : one.SameApart first second other)
    (name : String) (value : HeaderValue) :
    SameApart first second { one with headers := one.headers.put name value }
      { other with headers := other.headers.put name value } :=
  ⟨same.method, same.url, same.headers.put name (.inl rfl), same.body⟩

theorem SameOutcome.refl (outcome : Except CallError Request) : SameOutcome first second outcome outcome := by
  cases outcome with
  | error error => exact .error error
  | ok request => exact .ok (.refl request)

theorem SameOutcome.bind {one other : Except CallError Request}
    (same : SameOutcome first second one other) {next : Request → Except CallError Request}
    (keeps : ∀ request another, request.SameApart first second another →
      SameOutcome first second (next request) (next another)) :
    SameOutcome first second (one >>= next) (other >>= next) := by
  cases same with
  | error error => exact .error error
  | ok same => exact keeps _ _ same

theorem SameApart.setHeader {one other : Request} (same : one.SameApart first second other)
    (name value : String) :
    SameOutcome first second (one.setHeader name value) (other.setHeader name value) := by
  unfold Request.setHeader Headers.set
  cases HeaderName.ofText? name with
  | none => exact .error _
  | some key =>
    cases HeaderValue.ofText? value with
    | none => exact .error _
    | some held => exact .ok (same.put key held)

theorem SameApart.multipart (method : String) (url : Url) (fields : Keyed Bytes) :
    SameApart first second (Request.multipart method url first fields)
      (Request.multipart method url second fields) :=
  ⟨rfl, rfl, (Headers.SameApart.refl _).put _ (.inr ⟨rfl, rfl⟩), .inr ⟨fields, rfl, rfl⟩⟩

end Request

namespace Draft
open Request

variable (draft : Draft) (endpoint : Endpoint)

theorem sameOutcome_payload (url : Url) :
    SameOutcome first second (draft.payload endpoint url first) (draft.payload endpoint url second) := by
  unfold payload
  induction endpoint.payloadKinds with
  | nil =>
    rw [List.findSome?_nil, List.findSome?_nil]
    exact .refl _
  | cons kind rest ih =>
    -- Only a multipart form has a boundary, all other kinds give the same for both.
    rw [List.findSome?_cons, List.findSome?_cons]
    by_cases multipart : kind = .multipart
    · subst multipart
      by_cases empty : draft.parts.isEmpty = true
      · simpa [payloadOf?, empty] using ih
      · simpa [payloadOf?, empty] using
          SameOutcome.ok (SameApart.multipart endpoint.method.name url draft.parts)
    · have same : draft.payloadOf? endpoint.method url first kind =
          draft.payloadOf? endpoint.method url second kind := by
        cases kind <;> simp_all [payloadOf?]
      rw [same]
      cases draft.payloadOf? endpoint.method url second kind with
      | none => exact ih
      | some outcome => exact .refl outcome

/-- The boundary shows in the parts of a request and in its content type alone. -/
theorem sameOutcome_build (registry : Registry) :
    SameOutcome first second (draft.build endpoint registry first) (draft.build endpoint registry second) := by
  have assembled (url : Url) :
      SameOutcome first second (draft.assemble endpoint url first) (draft.assemble endpoint url second) := by
    unfold assemble
    split
    · exact draft.sameOutcome_payload endpoint url
    · exact .refl _
  have headed {one other : Request} (same : one.SameApart first second other) :
      SameOutcome first second (draft.setHeaders endpoint one) (draft.setHeaders endpoint other) := by
    unfold setHeaders
    split
    · induction draft.headers generalizing one other with
      | nil => exact .ok same
      | cons entry rest ih =>
        simp only [List.foldlM_cons]
        exact (same.setHeader entry.1 entry.2).bind fun _ _ next => ih next
    · exact .ok same
  cases registry with
  | none => exact .error _
  | some client =>
    have steps (boundary : String) : draft.build endpoint (some client) boundary =
        ((Url.read (client.baseText ++ draft.target endpoint)).mapError .url >>= fun url =>
          draft.assemble endpoint url boundary >>= fun request =>
            draft.setHeaders endpoint request.accepting) := rfl
    rw [steps, steps]
    cases (Url.read (client.baseText ++ draft.target endpoint)).mapError CallError.url with
    | error error => exact .error error
    | ok url => exact (assembled url).bind fun _ _ same => headed (same.put _ _)

end Draft

end

/-- Only the last value of a key counts, or all its values in order where they are kept. So calls with
different keys or of different kinds can be made in any order. -/
theorem Endpoint.sameOutcome_of_contents (endpoint : Endpoint) (calls others : List (SetterCall endpoint)) :
    (Setting.SameContents (SetterCall.settings calls) (SetterCall.settings others) →
      ∀ registry boundary other, Request.SameOutcome boundary other
        ((Draft.ofCalls calls).build endpoint registry boundary)
        ((Draft.ofCalls others).build endpoint registry other)) ∧
    (Setting.Rearranged (SetterCall.settings calls) (SetterCall.settings others) →
      ∀ registry boundary other, Request.SameOutcome boundary other
        ((Draft.ofCalls calls).build endpoint registry boundary)
        ((Draft.ofCalls others).build endpoint registry other)) := by
  have outcome (same : Setting.SameContents (SetterCall.settings calls) (SetterCall.settings others))
      (registry : Registry) (boundary other : String) :
      Request.SameOutcome boundary other ((Draft.ofCalls calls).build endpoint registry boundary)
        ((Draft.ofCalls others).build endpoint registry other) := by
    have drafts : Draft.ofCalls calls = Draft.ofCalls others := Draft.ofSettings_congr same
    rw [drafts]
    exact Draft.sameOutcome_build _ endpoint registry
  exact ⟨outcome, fun rearranged => outcome rearranged.sameContents⟩

/-- A picture with a caption, which two setters write, and a trace of the request. -/
def uploadEndpoint : Endpoint where
  name := "Upload"
  visibility := .inherited
  method := .post
  template := "/photos"
  methods := [setter "caption" .form "caption", setter "title" .form "caption",
    setter "file" .multipart "file", setter "trace" .header "X-Trace-Id"]
where
  setter (name : String) (kind : BindingKind) (key : String) : Method :=
    ⟨name, [⟨name, .path (.ofName "String")⟩], .binding kind key, .owned,
      Builder.plainSignature name [.receiver ⟨[], none, false, none⟩,
        .parameter [] (.name false false name none) (.path (.ofName "String"))] (some (.path (.ofName "Self")))⟩

def uploadCaption (value : String) : SetterCall uploadEndpoint where
  setting := .form "caption" value
  offered := ⟨_, List.mem_cons_self, rfl⟩

def uploadFile (content : Bytes) : SetterCall uploadEndpoint where
  setting := .multipart "file" content
  offered := ⟨_, List.mem_cons_of_mem _ (List.mem_cons_of_mem _ List.mem_cons_self), rfl⟩

def uploadTrace (value : String) : SetterCall uploadEndpoint where
  setting := .header "X-Trace-Id" value
  offered := ⟨_, List.mem_cons_of_mem _ (List.mem_cons_of_mem _ (List.mem_cons_of_mem _ List.mem_cons_self)), rfl⟩

/-- A file that is set again counts once and captions count as they come, wherever the others stand. -/
theorem upload_sameOutcome :
    Request.SameOutcome "one" "other"
      ((Draft.ofCalls [uploadFile [1], uploadCaption "a", uploadFile [2], uploadCaption "b"]).build
        uploadEndpoint (some (localClient 8080)) "one")
      ((Draft.ofCalls [uploadCaption "a", uploadCaption "b", uploadFile [2]]).build
        uploadEndpoint (some (localClient 8080)) "other") ∧
    Request.SameOutcome "one" "other"
      ((Draft.ofCalls [uploadTrace "x", uploadCaption "a", uploadFile [2], uploadCaption "b"]).build
        uploadEndpoint (some (localClient 8080)) "one")
      ((Draft.ofCalls [uploadCaption "a", uploadCaption "b", uploadFile [2], uploadTrace "x"]).build
        uploadEndpoint (some (localClient 8080)) "other") := by
  constructor
  · refine (Endpoint.sameOutcome_of_contents _ _ _).1 ?_ _ _ _
    refine ⟨fun _ => rfl, fun _ => rfl, fun _ => rfl, fun _ => rfl, rfl, fun key => ?_⟩
    by_cases file : "file" = key <;>
      simp [Setting.lastPart?, SetterCall.settings, uploadFile, uploadCaption, Setting.part?,
        List.filterMap_cons, file]
  · refine (Endpoint.sameOutcome_of_contents _ _ _).2 ?_ _ _ _
    intro kind key
    cases kind <;>
      simp [SetterCall.settings, uploadFile, uploadCaption, uploadTrace, Setting.kind, Setting.key,
        List.filter_cons]

end Endpoints
