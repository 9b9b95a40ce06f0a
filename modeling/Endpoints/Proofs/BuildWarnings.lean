import Endpoints.Endpoint.Events
import Endpoints.Proofs.FormRoundTrip
import Endpoints.Proofs.PayloadSelection
import Endpoints.Proofs.QueryIntegrity
import Endpoints.Proofs.TemplatePieces

/-! The warnings about an endpoint are true of its requests: a placeholder that is warned of stays as it is
written, values of a kind that is warned of are not sent, and those of the other kinds are. -/

namespace Endpoints

namespace Endpoint

variable {endpoint : Endpoint}

/-- Whether a setter fills placeholders of a name. -/
def fills (endpoint : Endpoint) (name : String) : Bool :=
  endpoint.methods.any fun method =>
    method.bindingKind? == some .path && method.bindingKey? == some name

/-- Each setter that fills placeholders is called, once at least and with any values. -/
def FillsPath (calls : List (SetterCall endpoint)) : Prop :=
  ∀ method ∈ endpoint.methods, ∀ key, method.role = .binding .path key →
    ∃ call ∈ calls, call.setting.kind = .path ∧ call.setting.key = key

theorem fills_iff {name : String} :
    endpoint.fills name = true ↔ ∃ method ∈ endpoint.methods, method.role = .binding .path name := by
  unfold fills
  rw [List.any_eq_true]
  have same (method : Method) : (method.bindingKind? == some .path && method.bindingKey? == some name) = true ↔
      method.role = .binding .path name := by
    unfold Method.bindingKind? Method.bindingKey?
    cases method.role <;> simp
  simp only [same]

/-- Once all of them are called, just the names that some setter fills have a value. -/
theorem get?_path_isSome {calls : List (SetterCall endpoint)} (all : FillsPath calls) (name : String) :
    ((Draft.ofCalls calls).path.get? name).isSome = endpoint.fills name := by
  have stored : ((Draft.ofCalls calls).path.get? name).isSome = true ↔
      ∃ call ∈ calls, ∃ value, call.setting.entry? .path = some (name, value) := by
    rw [Draft.path_ofSettings, Keyed.get?_ofList, Option.isSome_map, List.getLast?_isSome, ← List.isEmpty_eq_false_iff,
      List.isEmpty_eq_false_iff_exists_mem]
    simp only [List.mem_filter, List.mem_filterMap, SetterCall.settings, List.mem_map, decide_eq_true_eq, Prod.exists]
    constructor
    · rintro ⟨_, value, ⟨_, ⟨call, member, rfl⟩, offers⟩, rfl⟩
      exact ⟨call, member, value, offers⟩
    · rintro ⟨call, member, value, offers⟩
      exact ⟨name, value, ⟨_, ⟨call, member, rfl⟩, offers⟩, rfl⟩
  rw [Bool.eq_iff_iff, stored, fills_iff]
  constructor
  · rintro ⟨call, _, value, offers⟩
    obtain ⟨method, among, role⟩ := call.offered
    rw [Setting.kind_of_entry? offers] at role
    refine ⟨method, among, ?_⟩
    rw [role]
    unfold Setting.entry? at offers
    split at offers
    next =>
      obtain ⟨_, _, same⟩ := Option.map_eq_some_iff.mp offers
      rw [(Prod.mk.inj same).1]
    next => cases offers
  · rintro ⟨method, among, role⟩
    obtain ⟨call, member, kind, rfl⟩ := all method among name role
    refine ⟨call, member, ?_⟩
    cases held : call.setting with
    | path key value => exact ⟨value, by simp [Setting.entry?, Setting.kind, Setting.text?]⟩
    | query | header | form | body | multipart => simp [held, Setting.kind] at kind

def placeholderWarning (endpoint : Endpoint) (placeholder : String) : Event :=
  ⟨.warn, "path placeholder has no @PATH binding and will be sent literally",
    [("interface", endpoint.name), ("placeholder", placeholder)]⟩

def unsentWarning (endpoint : Endpoint) (kind : BindingKind) : Event :=
  ⟨.warn, "binding is accepted but not sent for this HTTP method",
    [("interface", endpoint.name), ("binding", kind.tag), ("method", endpoint.method.name)]⟩

def unsentUsed (endpoint : Endpoint) : List BindingKind := (unsentKinds endpoint.method).filter endpoint.uses

end Endpoint

theorem Method.collectEvents_calm (interface : String) (alone : Bool) (before : List Method)
    (declared : List InterfaceMethod) :
    (collectEvents interface alone before declared).filter (·.level = .warn) = [] := by
  induction declared generalizing before with
  | nil => rfl
  | cons method rest ih =>
    unfold collectEvents
    split
    · rfl
    · simp [ih before]
    · split
      · simp
      · simp [ih]

namespace Endpoint

/-- What is warned of while an endpoint is built. -/
theorem warned_of_built {interface : Interface} {endpoint : Endpoint}
    (built : ofInterface interface = .ok endpoint) :
    (events interface).filter (·.level = .warn) =
      endpoint.unboundPlaceholders.map endpoint.placeholderWarning ++ endpoint.unsentUsed.map endpoint.unsentWarning := by
  obtain ⟨plain, named, _⟩ := ofInterface_eq_ok_iff.mp built
  have shaped := shapeFault?_eq_none_iff.mpr plain
  have tagged : endpointTag interface.name none interface.documentation.tags =
      .ok (endpoint.method, endpoint.template) := endpointTag_eq_ok_iff.mpr named
  have warned : endpoint.warnings =
      endpoint.unboundPlaceholders.map endpoint.placeholderWarning ++ endpoint.unsentUsed.map endpoint.unsentWarning :=
    rfl
  have loud : endpoint.warnings.filter (·.level = .warn) = endpoint.warnings := by
    refine List.filter_eq_self.mpr fun event among => ?_
    rw [warned, List.mem_append, List.mem_map, List.mem_map] at among
    rcases among with ⟨_, _, rfl⟩ | ⟨_, _, rfl⟩
    · rfl
    · rfl
  unfold events
  rw [shaped, tagged, built]
  simp only [Option.isSome_none, Bool.false_eq_true, if_false, List.filter_append, Method.collectEvents_calm, loud]
  simp [warned, builtEvent]

theorem left_of_fillsPath {calls : List (SetterCall endpoint)} (all : FillsPath calls)
    {pieces : List Template.Piece} (cut : Template.Pieces endpoint.template.toList pieces) :
    pieces.filterMap (Template.Piece.left? (Draft.ofCalls calls).path) = endpoint.unboundPlaceholders := by
  have unbound (name : String) : ((Draft.ofCalls calls).path.get? name).isNone = !endpoint.fills name := by
    rw [← get?_path_isSome all, Option.not_isSome]
  have split : pieces.filterMap (Template.Piece.left? (Draft.ofCalls calls).path) =
      (pieces.filterMap Template.Piece.name?).filter
        fun name => ((Draft.ofCalls calls).path.get? name).isNone := by
    rw [List.filter_filterMap]
    rfl
  rw [split, cut.filterMap_name]
  exact List.filter_congr fun name _ => unbound name

theorem target_eq_filled (calls : List (SetterCall endpoint)) {pieces : List Template.Piece}
    (cut : Template.Pieces endpoint.template.toList pieces) :
    ((Draft.ofCalls calls).target endpoint).toList =
      pieces.flatMap (Template.Piece.filled (Draft.ofCalls calls).path) := by
  unfold Draft.target
  split
  next => rw [Template.toList_expand, cut.flatMap_filled]
  next unused =>
    have nothing : (Draft.ofCalls calls).path = [] := by
      rw [Draft.path_ofSettings, SetterCall.entries_of_unused (Bool.eq_false_iff.mpr unused)]
      rfl
    rw [nothing, funext Template.Piece.filled_nil, cut.flatMap_written]

end Endpoint

theorem Setting.AgreeOff.mono {few many : List BindingKind} (among : few ⊆ many) {first second : List Setting}
    (agree : AgreeOff few first second) : AgreeOff many first second := by
  have narrowed (settings : List Setting) : settings.filter (·.kind ∉ many) =
      (settings.filter (·.kind ∉ few)).filter (·.kind ∉ many) := by
    rw [List.filter_filter]
    refine List.filter_congr fun setting _ => ?_
    by_cases inside : setting.kind ∈ few
    · simp [inside, among inside]
    · simp [inside]
  unfold AgreeOff
  rw [narrowed first, narrowed second, agree]

/-- The value of a setter is in a request: its query spells this value alone, or its body does. -/
inductive Setting.ReachesIn (request : Request) : Setting → Prop where
  | query {key value query} (asked : request.url.query = some query)
      (spelled : Form.decode (String.ofList query) = [(key, value)]) : ReachesIn request (.query key value)
  | form {key value body} (sent : request.body = some (.content (bytesOf body)))
      (spelled : Form.decode body = [(key, value)]) : ReachesIn request (.form key value)
  | body {value} (sent : request.body = some (.content value.bytes)) : ReachesIn request (.body (.document value))
  | multipart {key content boundary} (sent : request.body = some (.parts boundary [(key, content)]))
      (spelled : content <:+: (RequestBody.parts boundary [(key, content)]).bytes) :
      ReachesIn request (.multipart key content)

namespace Endpoint

variable {endpoint : Endpoint}

theorem ignores_unsent {kind : BindingKind} (unsent : kind ∈ unsentKinds endpoint.method)
    {calls others : List (SetterCall endpoint)}
    (agree : Setting.AgreeOff [kind] (SetterCall.settings calls) (SetterCall.settings others)) :
    (Draft.ofCalls others).build endpoint = (Draft.ofCalls calls).build endpoint := by
  funext registry boundary
  unfold unsentKinds at unsent
  split at unsent
  next carries =>
    exact (sendsPayload registry boundary carries).ignoresQueries others
      (agree.mono (List.cons_subset.mpr ⟨unsent, List.nil_subset _⟩))
  next carries =>
    exact (sendsNoPayload registry boundary (Bool.eq_false_iff.mpr carries)).ignoresPayloads others
      (agree.mono (List.cons_subset.mpr ⟨unsent, List.nil_subset _⟩))

theorem reaches_query {registry : Registry} {boundary : String} {request : Request}
    (carries : endpoint.method.carriesPayload = false) {call : SetterCall endpoint} {key value : String}
    (setting : call.setting = .query key value)
    (built : (Draft.ofCalls [call]).build endpoint registry boundary = .ok request) :
    call.setting.ReachesIn request := by
  have pairs : (SetterCall.settings [call]).filterMap (Setting.entry? .query) = [(key, value)] := by
    simp [SetterCall.settings, setting, Setting.entry?, Setting.kind, Setting.text?, Setting.key]
  have asked := Draft.query_of_built carries (by simp [pairs]) built
  rw [pairs] at asked
  rw [setting]
  apply Setting.ReachesIn.query asked
  rw [String.ofList_toList, Form.decode_encode]
  rfl

theorem reaches_payload {registry : Registry} {boundary : String} {request : Request}
    (carries : endpoint.method.carriesPayload = true) {call : SetterCall endpoint}
    (kind : call.setting.kind ∈ [BindingKind.form, .body, .multipart])
    (built : (Draft.ofCalls [call]).build endpoint registry boundary = .ok request) :
    call.setting.ReachesIn request := by
  obtain ⟨payload, asked, held, _⟩ := (sendsPayload registry boundary carries).carries request built
  cases setting : call.setting with
  | path | query | header => simp [setting, Setting.kind] at kind
  | form key value =>
    cases asked with
    | form _ pairs =>
      refine .form held ?_
      rw [Form.decode_encode]
      simp [SetterCall.settings, setting, Setting.entry?, Setting.kind, Setting.text?, Setting.key]
      rfl
    | body last => simp [SetterCall.settings, setting, Setting.content?] at last
    | multipart _ pairs | nothing _ pairs =>
      simp [SetterCall.settings, setting, Setting.entry?, Setting.kind, Setting.text?] at pairs
  | body content =>
    cases asked with
    | body last =>
      obtain rfl : content = .document _ := by simpa [SetterCall.settings, setting, Setting.content?] using last
      exact .body held
    | form bodies | multipart bodies | nothing bodies =>
      simp [SetterCall.settings, setting, Setting.content?] at bodies
  | multipart key content =>
    have single : Keyed.ofList ((SetterCall.settings [call]).filterMap Setting.part?) = [(key, content)] := by
      simp [SetterCall.settings, setting, Setting.part?]
      rfl
    cases asked with
    | multipart _ _ parts =>
      rw [single] at held
      refine .multipart held ?_
      simp only [RequestBody.bytes, Multipart.body, Multipart.part, List.isEmpty_cons, Bool.false_eq_true, if_false,
        List.flatMap_cons, List.flatMap_nil, List.append_nil, List.append_assoc]
      exact (List.prefix_append content _).isInfix.trans (List.suffix_append _ _).isInfix
    | body last => simp [SetterCall.settings, setting, Setting.content?] at last
    | form _ pairs => simp [SetterCall.settings, setting, Setting.entry?, Setting.kind] at pairs
    | nothing _ _ parts => simp [SetterCall.settings, setting, Setting.part?] at parts

/-- The warnings of some placeholders and some kinds of binding say just what becomes of the requests. -/
structure WarnsTruly (endpoint : Endpoint) (placeholders : List String) (kinds : List BindingKind) : Prop where
  written : ∃ pieces, Template.Pieces endpoint.template.toList pieces ∧
    ∀ calls : List (SetterCall endpoint),
      ((Draft.ofCalls calls).target endpoint).toList =
          pieces.flatMap (Template.Piece.filled (Draft.ofCalls calls).path) ∧
        (∀ piece ∈ pieces, (piece.left? (Draft.ofCalls calls).path).isSome →
          piece.filled (Draft.ofCalls calls).path = piece.written) ∧
        (FillsPath calls →
          pieces.filterMap (Template.Piece.left? (Draft.ofCalls calls).path) = placeholders)
  used : ∀ kind ∈ kinds, endpoint.uses kind = true
  ignored : ∀ kind ∈ kinds, ∀ calls others : List (SetterCall endpoint),
    Setting.AgreeOff [kind] (SetterCall.settings calls) (SetterCall.settings others) →
      (Draft.ofCalls others).build endpoint = (Draft.ofCalls calls).build endpoint
  sent : ∀ call : SetterCall endpoint, call.setting.kind ∈ [BindingKind.query, .form, .body, .multipart] →
    call.setting.kind ∉ kinds → ∀ registry boundary request,
      (Draft.ofCalls [call]).build endpoint registry boundary = .ok request → call.setting.ReachesIn request

/-- What is warned of while an endpoint is built: the placeholders that stay as they are written once all
setters of the path are called, and the kinds of binding whose setters change nothing. A value of any other
kind is sent. -/
theorem warnings_true (interface : Interface) (endpoint : Endpoint)
    (built : ofInterface interface = .ok endpoint) :
    ∃ placeholders kinds, endpoint.WarnsTruly placeholders kinds ∧
      (events interface).filter (·.level = .warn) =
        placeholders.map endpoint.placeholderWarning ++ kinds.map endpoint.unsentWarning := by
  refine ⟨endpoint.unboundPlaceholders, endpoint.unsentUsed, ?_, warned_of_built built⟩
  constructor
  case written =>
    obtain ⟨pieces, cut⟩ := Template.exists_pieces endpoint.template.toList
    refine ⟨pieces, cut, fun calls => ⟨target_eq_filled calls cut, ?_, ?_⟩⟩
    · intro piece _ left
      exact Template.Piece.filled_of_left left
    · intro all
      exact left_of_fillsPath all cut
  case used =>
    intro kind warned
    exact (List.mem_filter.mp warned).2
  case ignored =>
    intro kind warned calls others agree
    exact ignores_unsent (List.mem_filter.mp warned).1 agree
  case sent =>
    intro call among silent registry boundary request made
    have sends : call.setting.kind ∉ unsentKinds endpoint.method :=
      fun unsent => silent (List.mem_filter.mpr ⟨unsent, call.uses⟩)
    unfold unsentKinds at sends
    split at sends
    next carries =>
      refine reaches_payload carries ?_ made
      simpa [List.mem_singleton.not.mp sends] using among
    next carries =>
      have query : call.setting.kind = .query := by
        rcases List.mem_cons.mp among with query | payload
        · exact query
        · exact absurd payload sends
      cases setting : call.setting with
      | query key value => exact setting ▸ reaches_query (Bool.eq_false_iff.mpr carries) setting made
      | path | header | form | body | multipart => simp [setting, Setting.kind] at query

/-- A trait with a placeholder that no setter fills, which stands in its template twice, and with a form that
its method does not send. -/
def pagesTrait : TraitDeclaration where
  attributes := [Builder.documented "@GET(\"/albums/\x7balbum\x7d/\x7bpage\x7d/of/\x7bpage\x7d/\x7bopen\")"]
  visibility := .everywhere
  isUnsafe := false
  isAuto := false
  name := "ListPages"
  generics := .empty
  supertraits := .nil
  items := [
    .method ⟨[Builder.documented "@PATH(\"album\")"], Builder.plainSignature "album"
      [.receiver ⟨[], none, false, none⟩, Builder.parameter "album" (Tokens.word "u64")]
      (some selfTy), none⟩,
    .method ⟨[Builder.documented "@QUERY(\"size\")"], Builder.plainSignature "size"
      [.receiver ⟨[], none, false, none⟩, Builder.parameter "size" (Tokens.word "u64")]
      (some selfTy), none⟩,
    .method ⟨[Builder.documented "@FORM(\"note\")"], Builder.plainSignature "note"
      [.receiver ⟨[], none, false, none⟩, Builder.parameter "note" (Tokens.word "String")]
      (some selfTy), none⟩,
    .method ⟨[Builder.documented "@SYNC(\"Pages\")"], Builder.plainSignature "run"
      [.receiver ⟨[], none, false, none⟩]
      (some (.path (.mk false [.mk "Result" (.angle false
        [.type (.path (.ofName "Pages")), .type (.path (.ofName "Error"))] false)]))), none⟩]

theorem pages_warnings_true :
    ∃ endpoint, ofInterface (.ofTrait pagesTrait) = .ok endpoint ∧
      endpoint.unboundPlaceholders = ["page", "page"] ∧ endpoint.unsentUsed = [.form] ∧
        ∃ placeholders kinds, endpoint.WarnsTruly placeholders kinds ∧
          (events (.ofTrait pagesTrait)).filter (·.level = .warn) =
            placeholders.map endpoint.placeholderWarning ++ kinds.map endpoint.unsentWarning := by
  obtain ⟨endpoint, built, left, unsent⟩ := Checks.exists_ok_of_toOption
    (ofInterface (.ofTrait pagesTrait)) (fun endpoint =>
      endpoint.unboundPlaceholders = ["page", "page"] ∧ endpoint.unsentUsed = [.form]) (by decide +kernel)
  exact ⟨endpoint, built, left, unsent, warnings_true (.ofTrait pagesTrait) endpoint built⟩

end Endpoint
end Endpoints
