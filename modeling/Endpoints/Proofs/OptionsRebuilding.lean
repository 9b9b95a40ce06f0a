import Endpoints.Proofs.BaseExtension

/-! Settings of a client that are taken back to a builder and built again. Each setting stays as it was unless it is
changed on the way, but the header that all settings start with is put in front once more. -/

namespace Endpoints
open Checks

/-- A change of settings under way. -/
inductive OptionChange where
  | baseUrl (text : String)
  | debug (shown : Bool)
  | timeout (time : Nat)
  | connectTimeout (time : Nat)
  | headers (added : List (String × String))

namespace OptionChange

def baseUrl? : OptionChange → Option String
  | .baseUrl text => some text
  | _ => none

def debug? : OptionChange → Option Bool
  | .debug shown => some shown
  | _ => none

def timeout? : OptionChange → Option Nat
  | .timeout time => some time
  | _ => none

def connectTimeout? : OptionChange → Option Nat
  | .connectTimeout time => some time
  | _ => none

def addedHeaders : OptionChange → List (String × String)
  | .headers added => added
  | _ => []

/-- The last value that changes give a setting, if any of them concerns it. -/
def last? {α : Type} (setting? : OptionChange → Option α) (changes : List OptionChange) : Option α :=
  (changes.filterMap setting?).getLast?

end OptionChange

namespace ClientOptionsBuilder
open OptionChange

def change (builder : ClientOptionsBuilder) : OptionChange → ClientOptionsBuilder
  | .baseUrl text => builder.withBaseUrl text
  | .debug shown => builder.withDebug shown
  | .timeout time => builder.withTimeout time
  | .connectTimeout time => builder.withConnectTimeout time
  | .headers added => builder.withHeaders added

def changeAll (builder : ClientOptionsBuilder) (changes : List OptionChange) : ClientOptionsBuilder :=
  changes.foldl change builder

/-- Of the changes of a setting the last one counts, and headers add up. -/
theorem changeAll_eq (builder : ClientOptionsBuilder) (changes : List OptionChange) :
    builder.changeAll changes = {
      baseUrl := (last? baseUrl? changes).or builder.baseUrl
      debug := (last? debug? changes).getD builder.debug
      timeout := (last? timeout? changes).or builder.timeout
      connectTimeout := (last? connectTimeout? changes).or builder.connectTimeout
      headers := builder.headers ++ changes.flatMap addedHeaders } := by
  induction changes using List.reverseRecOn with
  | nil => simp [changeAll, last?]
  | append_singleton front latest ih =>
    have step : builder.changeAll (front ++ [latest]) = (builder.changeAll front).change latest := by
      simp [changeAll]
    rw [step, ih]
    cases latest <;> simp [change, withBaseUrl, withDebug, withTimeout, withConnectTimeout, withHeaders, last?,
      List.filterMap_append, baseUrl?, debug?, timeout?, connectTimeout?, addedHeaders]

end ClientOptionsBuilder

namespace ClientOptions
open OptionChange

/-- The settings with a base URL and changes: a changed setting has its last value, every other one stays, and headers
stand behind those that are there. -/
def revised (options : ClientOptions) (changes : List OptionChange) (baseUrl : Url) : ClientOptions where
  baseUrl
  debug := (last? debug? changes).getD options.debug
  timeout := (last? timeout? changes).getD options.timeout
  connectTimeout := (last? connectTimeout? changes).getD options.connectTimeout
  headers := options.headers ++ changes.flatMap addedHeaders

/-- The base URL that changes lead to, if it can be read. -/
def revisedUrl (options : ClientOptions) (changes : List OptionChange) : Except CallError Url :=
  match last? baseUrl? changes with
  | none => .ok options.baseUrl
  | some text => (Url.read text).mapError .url

/-- The settings with the default header in front of their headers a number of times. -/
def withAgents (options : ClientOptions) (times : Nat) : ClientOptions :=
  { options with headers := List.replicate times userAgent ++ options.headers }

theorem withAgents_again (options : ClientOptions) (times : Nat) :
    ((options.withAgents times).revised [] options.baseUrl).withAgents 1 = options.withAgents (times + 1) := by
  simp [withAgents, revised, last?, List.replicate_succ]

theorem withAgents_eq_self_iff (options : ClientOptions) (times : Nat) :
    options.withAgents times = options ↔ times = 0 := by
  refine ⟨fun same => ?_, fun none => by subst none; rfl⟩
  have lengths := congrArg (List.length ∘ ClientOptions.headers) same
  simpa [withAgents] using lengths

/-- Settings that are taken back to a builder and built again a number of times. -/
def rebuilt (options : ClientOptions) : Nat → Except CallError ClientOptions
  | 0 => .ok options
  | times + 1 => do (← options.rebuilt times).toBuilder.build

theorem build_changeAll {options : ClientOptions} (rereads : Url.read options.baseUrl.text = .ok options.baseUrl)
    (changes : List OptionChange) : (options.toBuilder.changeAll changes).build =
      (options.revisedUrl changes).map fun baseUrl => (options.revised changes baseUrl).withAgents 1 := by
  rw [ClientOptionsBuilder.changeAll_eq]
  unfold revisedUrl ClientOptionsBuilder.build
  -- A base URL that stays is read from its own text, and one that is given is read from what is given.
  cases last? baseUrl? changes with
  | none =>
    simp only [toBuilder, Option.none_or, rereads]
    simp [revised, withAgents, ofBaseUrl, Except.map, Except.mapError]
  | some text =>
    simp only [toBuilder, Option.some_or]
    cases Url.read text with
    | error fault => rfl
    | ok baseUrl => simp [revised, withAgents, ofBaseUrl, Except.map, Except.mapError]

/-- How settings come out when they are built again. -/
structure Rebuilds (options : ClientOptions) : Prop where
  /-- Changes on the way come out, and the default header stands in front once more. -/
  changed : ∀ changes, (options.toBuilder.changeAll changes).build =
    (options.revisedUrl changes).map fun baseUrl => (options.revised changes baseUrl).withAgents 1
  /-- Each time that nothing is changed adds the default header. -/
  repeated : ∀ times, options.rebuilt times = .ok (options.withAgents times)
  /-- So the settings are the same as before only if they are not built again. -/
  same : ∀ times, options.rebuilt times = .ok options ↔ times = 0

theorem reread_of_web {options : ClientOptions} {text : String} (read : Url.read text = .ok options.baseUrl)
    (web : options.baseUrl.scheme = "http".toList ∨ options.baseUrl.scheme = "https".toList) :
    Url.read options.baseUrl.text = .ok options.baseUrl :=
  (Url.settled_of_read read web).read_text

theorem rebuilds_of_reread {options : ClientOptions} (rereads : Url.read options.baseUrl.text = .ok options.baseUrl) :
    options.Rebuilds := by
  have repeated (times : Nat) : options.rebuilt times = .ok (options.withAgents times) := by
    induction times with
    | zero => rfl
    | succ times ih =>
      calc options.rebuilt (times + 1)
        _ = (options.withAgents times).toBuilder.build := by rw [rebuilt, ih, ok_bind]
        _ = .ok (((options.withAgents times).revised [] options.baseUrl).withAgents 1) :=
          @build_changeAll (options.withAgents times) rereads []
        _ = .ok (options.withAgents (times + 1)) := by rw [withAgents_again]
  refine ⟨build_changeAll rereads, repeated, fun times => ?_⟩
  rw [repeated, Except.ok.injEq]
  exact withAgents_eq_self_iff options times

theorem localhost_rebuilds : ∃ options, (ClientOptionsBuilder.empty.withBaseUrl "http://localhost:8080").build =
    .ok options ∧ Url.read options.baseUrl.text = .ok options.baseUrl ∧ options.Rebuilds := by
  obtain ⟨options, built, read, web⟩ := exists_ok_of_toOption
    (ClientOptionsBuilder.empty.withBaseUrl "http://localhost:8080").build
    (fun options => (Url.read "http://localhost:8080").toOption = some options.baseUrl ∧
      options.baseUrl.scheme = "http".toList) (by decide +kernel)
  have reread := reread_of_web (toOption_eq_some_iff.mp read) (.inl web)
  exact ⟨options, built, reread, rebuilds_of_reread reread⟩

/-- Settings with no header of their own are not what building them again gives. -/
theorem localhost_gains_agent : ∃ options again,
    (ClientOptionsBuilder.empty.withBaseUrl "http://localhost:8080").build = .ok options ∧
      Url.read options.baseUrl.text = .ok options.baseUrl ∧ options.toBuilder.build = .ok again ∧
      options.headers = [userAgent] ∧ again.headers = [userAgent, userAgent] ∧ again ≠ options := by
  obtain ⟨options, built, read, web, headers, gained⟩ := exists_ok_of_toOption
    (ClientOptionsBuilder.empty.withBaseUrl "http://localhost:8080").build
    (fun options => (Url.read "http://localhost:8080").toOption = some options.baseUrl ∧
      options.baseUrl.scheme = "http".toList ∧ options.headers = [userAgent] ∧
      (options.toBuilder.build.toOption.any fun again => again.headers = [userAgent, userAgent])) (by decide +kernel)
  obtain ⟨again, rebuilt, doubled⟩ := exists_ok_of_toOption options.toBuilder.build
    (fun again => again.headers = [userAgent, userAgent]) gained
  refine ⟨options, again, built, reread_of_web (toOption_eq_some_iff.mp read) (.inl web), rebuilt, headers, doubled, ?_⟩
  rintro rfl
  exact absurd (headers.symm.trans doubled) (by decide)

end ClientOptions

end Endpoints
