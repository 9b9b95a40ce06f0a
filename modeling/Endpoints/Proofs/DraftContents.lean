import Endpoints.Client.Draft
import Mathlib.Data.List.Induction

/-! What calls of setters leave in a draft. Each kind of setter fills a field of its own, so every field
can be read off the calls of one kind. -/

namespace Endpoints

/-- A call of a setter that the endpoint has, with any value. -/
structure SetterCall (endpoint : Endpoint) where
  setting : Setting
  offered : ∃ method ∈ endpoint.methods, method.role = .binding setting.kind setting.key

namespace Setting

def text? : Setting → Option String
  | .path _ value | .query _ value | .header _ value | .form _ value => some value
  | .body _ | .multipart .. => none

def entry? (kind : BindingKind) (setting : Setting) : Option (String × String) :=
  if setting.kind = kind then setting.text?.map (setting.key, ·) else none

def content? : Setting → Option Content
  | .body content => some content
  | _ => none

def part? : Setting → Option (String × Bytes)
  | .multipart key content => some (key, content)
  | _ => none

/-- The same settings in the same order, apart from those of the given kinds. -/
def AgreeOff (kinds : List BindingKind) (first second : List Setting) : Prop :=
  first.filter (·.kind ∉ kinds) = second.filter (·.kind ∉ kinds)

theorem kind_of_entry? {kind : BindingKind} {setting : Setting} {entry : String × String}
    (offers : setting.entry? kind = some entry) : setting.kind = kind := by
  unfold entry? at offers
  split at offers
  · next same => exact same
  · cases offers

theorem kind_of_content? {setting : Setting} {content : Content}
    (offers : setting.content? = some content) : setting.kind = .body := by
  cases setting <;> simp_all [content?, kind]

theorem kind_of_part? {setting : Setting} {part : String × Bytes}
    (offers : setting.part? = some part) : setting.kind = .multipart := by
  cases setting <;> simp_all [part?, kind]

end Setting

namespace SetterCall

variable {endpoint : Endpoint}

def settings (calls : List (SetterCall endpoint)) : List Setting := calls.map (·.setting)

theorem uses (call : SetterCall endpoint) : endpoint.uses call.setting.kind = true := by
  obtain ⟨method, member, role⟩ := call.offered
  refine List.any_eq_true.mpr ⟨method, member, ?_⟩
  simp [Method.bindingKind?, role]

theorem filterMap_settings_of_unused {α : Type} {kind : BindingKind} {offer : Setting → Option α}
    (only : ∀ setting value, offer setting = some value → setting.kind = kind)
    (unused : endpoint.uses kind = false) (calls : List (SetterCall endpoint)) :
    (settings calls).filterMap offer = [] := by
  refine List.filterMap_eq_nil_iff.mpr fun setting member => ?_
  obtain ⟨call, _, rfl⟩ := List.mem_map.mp member
  refine Option.eq_none_iff_forall_ne_some.mpr fun value offers => ?_
  have used := call.uses
  rw [only _ value offers, unused] at used
  cases used

theorem entries_of_unused {kind : BindingKind} (unused : endpoint.uses kind = false)
    (calls : List (SetterCall endpoint)) : (settings calls).filterMap (Setting.entry? kind) = [] :=
  filterMap_settings_of_unused (fun _ _ => Setting.kind_of_entry?) unused calls

end SetterCall

namespace Draft

def ofSettings (settings : List Setting) : Draft := empty.storeAll settings

abbrev ofCalls {endpoint : Endpoint} (calls : List (SetterCall endpoint)) : Draft :=
  ofSettings (SetterCall.settings calls)

/-- The draft without what setters of the given kinds have stored. -/
def forget (kinds : List BindingKind) (draft : Draft) : Draft where
  path := if .path ∈ kinds then [] else draft.path
  query := if .query ∈ kinds then Form.empty else draft.query
  headers := if .header ∈ kinds then [] else draft.headers
  form := if .form ∈ kinds then Form.empty else draft.form
  body := if .body ∈ kinds then none else draft.body
  parts := if .multipart ∈ kinds then [] else draft.parts

theorem forget_store (kinds : List BindingKind) (draft : Draft) (setting : Setting) :
    (draft.store setting).forget kinds =
      if setting.kind ∈ kinds then draft.forget kinds else (draft.forget kinds).store setting := by
  by_cases dropped : setting.kind ∈ kinds
  · rw [if_pos dropped]
    cases setting <;> simp_all [store, Setting.kind, forget]
  · rw [if_neg dropped]
    cases setting <;> simp_all [store, Setting.kind, forget]

theorem forget_storeAll (kinds : List BindingKind) (settings : List Setting) (draft : Draft) :
    (draft.storeAll settings).forget kinds =
      (draft.forget kinds).storeAll (settings.filter (·.kind ∉ kinds)) := by
  induction settings generalizing draft with
  | nil => rfl
  | cons setting rest ih =>
    have stored : (draft.storeAll (setting :: rest)).forget kinds =
        ((draft.store setting).forget kinds).storeAll (rest.filter (·.kind ∉ kinds)) := ih _
    rw [stored, forget_store]
    by_cases dropped : setting.kind ∈ kinds
    · simp [dropped]
    · simp [dropped, storeAll]

/-- Two drafts hold the same of every kind that is not among the given ones. -/
structure AgreesOff (kinds : List BindingKind) (first second : Draft) : Prop where
  path : .path ∉ kinds → first.path = second.path
  query : .query ∉ kinds → first.query = second.query
  headers : .header ∉ kinds → first.headers = second.headers
  form : .form ∉ kinds → first.form = second.form
  body : .body ∉ kinds → first.body = second.body
  parts : .multipart ∉ kinds → first.parts = second.parts

theorem agreesOff_of_forget {kinds : List BindingKind} {first second : Draft}
    (same : first.forget kinds = second.forget kinds) : AgreesOff kinds first second := by
  simp only [forget, Draft.mk.injEq] at same
  obtain ⟨path, query, headers, form, body, parts⟩ := same
  constructor <;> intro kept <;> simp_all

theorem agreesOff_of_agree {kinds : List BindingKind} {first second : List Setting}
    (agree : Setting.AgreeOff kinds first second) :
    AgreesOff kinds (ofSettings first) (ofSettings second) := by
  refine agreesOff_of_forget ?_
  unfold ofSettings
  rw [forget_storeAll, forget_storeAll, agree]

theorem storeAll_field {α β : Type} {field : Draft → β} {offer : Setting → Option α}
    {change : β → α → β}
    (stored : ∀ draft setting,
      field (draft.store setting) = (offer setting).elim (field draft) (change (field draft)))
    (settings : List Setting) (draft : Draft) :
    field (draft.storeAll settings) = (settings.filterMap offer).foldl change (field draft) := by
  induction settings generalizing draft with
  | nil => rfl
  | cons setting rest ih =>
    have next : field (draft.storeAll (setting :: rest)) =
        (rest.filterMap offer).foldl change (field (draft.store setting)) := ih _
    rw [next, stored]
    cases offers : offer setting <;> simp [offers]

section
variable (settings : List Setting)

theorem path_ofSettings :
    (ofSettings settings).path = Keyed.ofList (settings.filterMap (Setting.entry? .path)) :=
  storeAll_field (fun _ setting => by cases setting <;> rfl) settings empty

theorem query_ofSettings :
    (ofSettings settings).query = Form.ofPairs (settings.filterMap (Setting.entry? .query)) :=
  storeAll_field (fun _ setting => by cases setting <;> rfl) settings empty

theorem headers_ofSettings :
    (ofSettings settings).headers = Keyed.ofList (settings.filterMap (Setting.entry? .header)) :=
  storeAll_field (fun _ setting => by cases setting <;> rfl) settings empty

theorem form_ofSettings :
    (ofSettings settings).form = Form.ofPairs (settings.filterMap (Setting.entry? .form)) :=
  storeAll_field (fun _ setting => by cases setting <;> rfl) settings empty

theorem parts_ofSettings :
    (ofSettings settings).parts = Keyed.ofList (settings.filterMap Setting.part?) :=
  storeAll_field (fun _ setting => by cases setting <;> rfl) settings empty

theorem body_ofSettings :
    (ofSettings settings).body = (settings.filterMap Setting.content?).getLast? := by
  have collected : (ofSettings settings).body =
      (settings.filterMap Setting.content?).foldl (fun _ content => some content) none :=
    storeAll_field (fun _ setting => by cases setting <;> rfl) settings empty
  rw [collected]
  induction settings.filterMap Setting.content? using List.reverseRecOn with
  | nil => rfl
  | append_singleton contents last _ => simp

end

theorem exists_body_of_mem {settings : List Setting} {setting : Setting} (member : setting ∈ settings)
    (body : setting.kind = .body) : ∃ content, (ofSettings settings).body = some content := by
  obtain ⟨content, rfl⟩ : ∃ content, setting = .body content := by
    cases setting <;> simp_all [Setting.kind]
  rw [body_ofSettings, ← Option.isSome_iff_exists, List.getLast?_isSome]
  exact List.ne_nil_of_mem (List.mem_filterMap.mpr ⟨_, member, rfl⟩)

end Draft

end Endpoints
