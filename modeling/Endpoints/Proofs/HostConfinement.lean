import Endpoints.Proofs.RequestAssembly
import Endpoints.Proofs.TrimmedTexts
import Endpoints.Proofs.UrlMarks
import Mathlib.Data.Bool.AllAny
import Mathlib.Data.List.DropRight

/-! Where requests go. What stands behind the authority of a URL, whatever it holds, has no influence on it,
so a request that fills a path with any text goes where the base URL points. -/

namespace Endpoints
open Checks

theorem Text.lt_of_isAlphanum {c : Char} (letter : c.isAlphanum = true) : c.toNat < 128 := by
  unfold Char.isAlphanum Char.isAlpha Char.isUpper Char.isLower Char.isDigit at letter
  simp only [Bool.or_eq_true, Bool.and_eq_true, decide_eq_true_eq, UInt32.le_iff_toNat_le, ge_iff_le] at letter
  have same : c.toNat = c.val.toNat := rfl
  have greatest : 'Z'.val.toNat = 90 ∧ 'z'.val.toNat = 122 ∧ '9'.val.toNat = 57 := ⟨rfl, rfl, rfl⟩
  omega

namespace Url

theorem clean_append {front : List Char} {last : Char} (visible : ∀ c ∈ front, 0x20 < c.toNat)
    (stays : 0x20 < last.toNat) (rest : List Char) :
    ∃ kept, clean (String.ofList (front ++ last :: rest)) = front ++ last :: kept := by
  have shown : ∀ c ∈ front ++ [last], (!(c == '\t' || c == '\n' || c == '\r')) = true := by
    intro c member
    have large : 0x20 < c.toNat := by
      rcases List.mem_append.mp member with inside | same
      · exact visible c inside
      · exact List.mem_singleton.mp same ▸ stays
    have different : c ≠ '\t' ∧ c ≠ '\n' ∧ c ≠ '\r' := by
      refine ⟨?_, ?_, ?_⟩ <;> rintro rfl <;> exact absurd large (by decide)
    simp [different]
  have unblank : decide (last.toNat ≤ 0x20) = false := by simpa using stays
  have start : (front ++ last :: rest).dropWhile (fun c => decide (c.toNat ≤ 0x20)) = front ++ last :: rest := by
    cases front with
    | nil => simp [unblank]
    | cons c others =>
      have large := visible c List.mem_cons_self
      simp [Nat.not_le.mpr large]
  have trimmed := Text.rdropWhile_append (p := fun c => decide (c.toNat ≤ 0x20)) unblank front rest
  rw [List.rdropWhile] at trimmed
  have kept := List.filter_eq_self.mpr shown
  refine ⟨(rest.rdropWhile fun c => decide (c.toNat ≤ 0x20)).filter fun c => !(c == '\t' || c == '\n' || c == '\r'), ?_⟩
  simp only [clean, String.toList_ofList, start, trimmed]
  rw [List.append_cons, List.filter_append, kept, ← List.append_cons]

theorem scheme?_append {scheme : List Char} (plain : ∀ c ∈ scheme, isSchemeCharacter c = true ∧ c.toLower = c)
    (letter : scheme.head?.any Char.isAlpha = true) (rest : List Char) :
    scheme? (scheme ++ ':' :: rest) = some (scheme, rest) := by
  have characters : ∀ c ∈ scheme, isSchemeCharacter c = true := fun c member => (plain c member).1
  have lower : scheme.map Char.toLower = scheme :=
    (List.map_congr_left fun c member => (plain c member).2).trans (List.map_id scheme)
  have taken : (scheme ++ ':' :: rest).takeWhile isSchemeCharacter = scheme := by
    rw [List.takeWhile_append_of_pos characters]
    simp [isSchemeCharacter]
  have dropped : (scheme ++ ':' :: rest).dropWhile isSchemeCharacter = ':' :: rest := by
    rw [List.dropWhile_append_of_pos characters]
    simp [isSchemeCharacter]
  rw [scheme?, taken, dropped]
  cases scheme with
  | nil => cases letter
  | cons first others =>
    have alpha : first.isAlpha = true := by simpa using letter
    simp only [alpha, if_true, lower]

theorem toLower_of_isSchemeCharacter {c : Char} (allowed : isSchemeCharacter c = true) :
    isSchemeCharacter c.toLower = true ∧ c.toLower.toLower = c.toLower ∧ 0x20 < c.toLower.toNat ∧
      (c.isAlpha = true → c.toLower.isAlpha = true) := by
  have small : c.toNat < 128 := by
    simp only [isSchemeCharacter, Bool.or_eq_true, beq_iff_eq] at allowed
    rcases allowed with ((letter | rfl) | rfl) | rfl
    · exact Text.lt_of_isAlphanum letter
    · decide
    · decide
    · decide
  revert allowed
  exact forall_ascii (by decide) small

theorem plain_of_scheme? {text scheme rest : List Char} (found : scheme? text = some (scheme, rest)) :
    (∀ c ∈ scheme, isSchemeCharacter c = true ∧ c.toLower = c ∧ 0x20 < c.toNat) ∧
      scheme.head?.any Char.isAlpha = true := by
  unfold scheme? at found
  split at found
  · next first others after spelled colon =>
    have allowed : ∀ c ∈ first :: others, isSchemeCharacter c = true := fun c member =>
      List.mem_takeWhile_imp (spelled ▸ member)
    split at found
    · next alpha =>
      cases found
      constructor
      · intro c member
        obtain ⟨original, among, rfl⟩ := List.mem_map.mp member
        obtain ⟨kept, same, visible, _⟩ := toLower_of_isSchemeCharacter (allowed original among)
        exact ⟨kept, same, visible⟩
      · exact (toLower_of_isSchemeCharacter (allowed first List.mem_cons_self)).2.2.2 alpha
    · cases found
  · cases found

/-- Whatever follows the colon of a scheme has no influence on it. -/
theorem scheme_of_read {text scheme rest behind : List Char} {url : Url} (spelled : scheme? text = some (scheme, rest))
    (read : Url.read (String.ofList (scheme ++ ':' :: behind)) = .ok url) : url.scheme = scheme := by
  obtain ⟨plain, letter⟩ := plain_of_scheme? spelled
  obtain ⟨kept, cleaned⟩ := clean_append (fun c member => (plain c member).2.2) (show 0x20 < ':'.toNat by decide) behind
  obtain ⟨again, after, _, _, found, _, rfl⟩ := read_eq_ok_iff.mp read
  have same := scheme?_append (fun c member => ⟨(plain c member).1, (plain c member).2.1⟩) letter kept
  rw [cleaned, same] at found
  cases found
  rfl

theorem readHierarchy_of_origin {scheme : List Char} {authority : Authority}
    (web : (impliedPort? scheme).isSome = true) (ofWeb : authority.OfWeb scheme) (followed : Bool) (rest : List Char) :
    readHierarchy scheme followed ('/' :: '/' :: (authority.text ++ '/' :: rest)) =
      .ok (some authority, UrlPath.readWeb ('/' :: rest)) := by
  have notFile : scheme ≠ "file".toList := by
    rintro rfl
    exact absurd web (by decide)
  have inside : ∀ c ∈ authority.text, (!UrlPath.isSlash c) = true := by
    intro c member
    have plain := ofWeb.isPlain_of_mem_text member
    have different : c ≠ '/' ∧ c ≠ '\\' := by
      constructor <;> rintro rfl <;> exact absurd plain (by decide)
    simp [UrlPath.isSlash, different]
  have text : ('/' :: '/' :: (authority.text ++ '/' :: rest)).dropWhile UrlPath.isSlash =
      authority.text ++ '/' :: rest := by
    obtain ⟨first, others, spelled⟩ := List.exists_cons_of_ne_nil ofWeb.text_ne_nil
    have stops : UrlPath.isSlash first = false := by
      simpa using inside first (spelled ▸ List.mem_cons_self)
    have slash : UrlPath.isSlash '/' = true := rfl
    simp only [spelled, List.cons_append, List.dropWhile_cons, slash, stops, if_true, Bool.false_eq_true, if_false]
  have before : (authority.text ++ '/' :: rest).takeWhile (!UrlPath.isSlash ·) = authority.text := by
    rw [List.takeWhile_append_of_pos inside]
    simp [UrlPath.isSlash]
  have after : (authority.text ++ '/' :: rest).dropWhile (!UrlPath.isSlash ·) = '/' :: rest := by
    rw [List.dropWhile_append_of_pos inside]
    simp [UrlPath.isSlash]
  rw [readHierarchy]
  simp only [notFile, web, if_false, if_true, text, before, after, ofWeb.readAuthority_text web]
  rfl

def origin (scheme : List Char) (authority : Authority) : List Char :=
  scheme ++ ':' :: '/' :: '/' :: authority.text

theorem origin_append (scheme : List Char) (authority : Authority) (rest : List Char) :
    origin scheme authority ++ rest = scheme ++ ':' :: '/' :: '/' :: (authority.text ++ rest) := by
  simp [origin]

section
variable {scheme : List Char} {authority : Authority}

theorem impliedPort_of_web (web : scheme = "http".toList ∨ scheme = "https".toList) :
    (impliedPort? scheme).isSome = true := by
  rcases web with rfl | rfl <;> decide

theorem visible_origin (web : scheme = "http".toList ∨ scheme = "https".toList) (ofWeb : authority.OfWeb scheme) :
    ∀ c ∈ origin scheme authority, 0x20 < c.toNat := by
  have inScheme : ∀ c ∈ scheme, 0x20 < c.toNat := by
    rcases web with rfl | rfl <;> exact List.all_iff_forall_prop.mp (by decide)
  have inAuthority : ∀ c ∈ authority.text, 0x20 < c.toNat := by
    intro c member
    have allowed := ofWeb.isPlain_of_mem_text member
    simp only [Authority.isPlain, Bool.and_eq_true, decide_eq_true_eq] at allowed
    exact allowed.1.1
  intro c member
  simp only [origin, List.mem_append, List.mem_cons] at member
  rcases member with among | rfl | rfl | rfl | among
  · exact inScheme c among
  · decide
  · decide
  · decide
  · exact inAuthority c among

/-- What is read where an origin and a path stand in front. -/
theorem read_of_origin (web : scheme = "http".toList ∨ scheme = "https".toList) (ofWeb : authority.OfWeb scheme)
    {text : String} {rest : List Char} (cleaned : clean text = origin scheme authority ++ '/' :: rest) :
    Url.read text = .ok {
      scheme, authority := some authority
      path := UrlPath.readWeb ('/' :: (cutAt '?' (cutAt '#' rest).1).1)
      query := (cutAt '?' (cutAt '#' rest).1).2.map (Percent.encode Percent.inWebQuery)
      fragment := (cutAt '#' rest).2.map (Percent.encode Percent.inFragment) } := by
  have implied := impliedPort_of_web web
  have letter : scheme.head?.any Char.isAlpha = true := by
    rcases web with rfl | rfl <;> decide
  have plain : ∀ c ∈ scheme, isSchemeCharacter c = true ∧ c.toLower = c := by
    rcases web with rfl | rfl <;> exact List.all_iff_forall_prop.mp (by decide)
  have unmarked {mark : Char} (marks : Authority.isPlain mark = false) : mark ∉ authority.text := by
    intro member
    rw [ofWeb.isPlain_of_mem_text member] at marks
    cases marks
  have cut {mark : Char} (different : mark ≠ '/') (absent : mark ∉ authority.text) (rest : List Char) :
      cutAt mark ('/' :: '/' :: (authority.text ++ '/' :: rest)) =
        ('/' :: '/' :: (authority.text ++ '/' :: (cutAt mark rest).1), (cutAt mark rest).2) := by
    have apart : mark ∉ '/' :: '/' :: (authority.text ++ ['/']) := by simp [different, absent]
    simpa using cutAt_append apart rest
  have hash := cut (show '#' ≠ '/' by decide) (unmarked (by decide))
  have question := cut (show '?' ≠ '/' by decide) (unmarked (by decide))
  have found : scheme? (clean text) = some (scheme, '/' :: '/' :: (authority.text ++ '/' :: rest)) := by
    rw [cleaned, origin_append]
    exact scheme?_append plain letter _
  have hierarchy (followed : Bool) :
      readHierarchy scheme followed
          (cutAt '?' (cutAt '#' ('/' :: '/' :: (authority.text ++ '/' :: rest))).1).1 =
        .ok (some authority, UrlPath.readWeb ('/' :: (cutAt '?' (cutAt '#' rest).1).1)) := by
    rw [hash, question]
    exact readHierarchy_of_origin implied ofWeb followed _
  refine read_eq_ok_iff.mpr ⟨scheme, _, _, _, found, hierarchy _, ?_⟩
  rw [hash, question, reservedInQuery_of_web implied]

/-- What follows a slash behind an authority has no influence on it. -/
theorem exists_read_of_origin (web : scheme = "http".toList ∨ scheme = "https".toList)
    (ofWeb : authority.OfWeb scheme) (rest : List Char) :
    ∃ url, Url.read (String.ofList (origin scheme authority ++ '/' :: rest)) = .ok url ∧
      url.scheme = scheme ∧ url.authority = some authority := by
  obtain ⟨kept, cleaned⟩ := clean_append (visible_origin web ofWeb) (show 0x20 < '/'.toNat by decide) rest
  exact ⟨_, read_of_origin web ofWeb cleaned, rfl, rfl⟩

end

end Url

/-- A path behind a base URL of the web stands behind the authority of the base URL. -/
theorem Client.exists_baseText_append {client : Client} {text : String}
    (read : Url.read text = .ok client.options.baseUrl)
    (web : (Url.impliedPort? client.options.baseUrl.scheme).isSome = true) :
    ∃ authority, client.options.baseUrl.authority = some authority ∧
      authority.OfWeb client.options.baseUrl.scheme ∧ ∀ path, ∃ rest,
        client.baseText ++ String.ofList ('/' :: path) = String.ofList
          (Url.origin client.options.baseUrl.scheme authority ++ '/' :: rest) := by
  obtain ⟨scheme, body, place, path, _, hierarchy, base⟩ := Url.read_eq_ok_iff.mp read
  rw [← base] at web
  obtain ⟨authority, behind, rfl, ofWeb, rfl⟩ := Url.exists_authority_of_readHierarchy web hierarchy
  obtain ⟨more, starts⟩ := (UrlPath.settled_readWeb behind).starts
  refine ⟨authority, by rw [← base], by rw [← base]; exact ofWeb, fun path => ?_⟩
  -- The last character of the authority stays, so slashes are trimmed behind it only.
  obtain ⟨front, last, ends⟩ := List.eq_nil_or_concat authority.text |>.resolve_left ofWeb.text_ne_nil
  have stays : (last == '/') = false := by
    have plain := ofWeb.isPlain_of_mem_text (c := last) (by simp [ends])
    have different : last ≠ '/' := by
      rintro rfl
      exact absurd plain (by decide)
    exact beq_false_of_ne different
  obtain ⟨tail, spelled⟩ : ∃ tail, client.options.baseUrl.characters =
      (scheme ++ ':' :: '/' :: '/' :: front) ++ last :: '/' :: tail := by
    rw [← base, Url.characters, Url.hierarchy]
    simp only [ends, starts]
    exact ⟨_, by simp; rfl⟩
  have trimmed : client.options.baseUrl.characters.rdropWhile (· == '/') =
      (scheme ++ ':' :: '/' :: '/' :: front) ++ last :: ('/' :: tail).rdropWhile (· == '/') := by
    rw [spelled, Text.rdropWhile_append (p := (· == '/')) stays]
  have baseText : client.baseText = String.ofList (client.options.baseUrl.characters.rdropWhile (· == '/')) := rfl
  obtain ⟨rest, same⟩ : ∃ rest, ('/' :: tail).rdropWhile (· == '/') ++ '/' :: path = '/' :: rest := by
    have before := List.rdropWhile_prefix (· == '/') ('/' :: tail)
    cases kept : ('/' :: tail).rdropWhile (· == '/') with
    | nil => exact ⟨path, rfl⟩
    | cons c others =>
      rw [kept] at before
      obtain ⟨rfl, _⟩ := List.cons_prefix_cons.mp before
      exact ⟨others ++ '/' :: path, rfl⟩
  refine ⟨rest, ?_⟩
  rw [baseText, trimmed, ← String.ofList_append, ← base, Url.origin_append, ends]
  simp [same]

theorem Client.scheme_of_read {client : Client} {text behind : String} {url : Url}
    (read : Url.read text = .ok client.options.baseUrl)
    (found : Url.read (client.baseText ++ behind) = .ok url) : url.scheme = client.options.baseUrl.scheme := by
  obtain ⟨scheme, _, _, _, spelled, _, base⟩ := Url.read_eq_ok_iff.mp read
  obtain ⟨rest, characters⟩ : ∃ rest, client.options.baseUrl.characters = scheme ++ ':' :: rest := by
    rw [← base, Url.characters]
    exact ⟨_, by simp; rfl⟩
  have trimmed : client.baseText = String.ofList (scheme ++ ':' :: rest.rdropWhile (· == '/')) := by
    rw [← Text.rdropWhile_append (p := (· == '/')) rfl, ← characters]
    rfl
  rw [trimmed, ← String.ofList_toList (s := behind), ← String.ofList_append, List.append_assoc, List.cons_append]
    at found
  rw [Url.scheme_of_read spelled found, ← base]

/-- A path behind a base URL of the web, whatever it holds, keeps scheme and authority. -/
theorem Client.origin_of_read {client : Client} {text : String} {path : List Char} {url : Url}
    (read : Url.read text = .ok client.options.baseUrl)
    (web : client.options.baseUrl.scheme = "http".toList ∨ client.options.baseUrl.scheme = "https".toList)
    (found : Url.read (client.baseText ++ String.ofList ('/' :: path)) = .ok url) :
    ∃ authority, client.options.baseUrl.authority = some authority ∧
      url.scheme = client.options.baseUrl.scheme ∧ url.authority = some authority := by
  have implied := Url.impliedPort_of_web web
  obtain ⟨authority, based, ofWeb, behind⟩ := Client.exists_baseText_append read implied
  obtain ⟨rest, address⟩ := behind path
  obtain ⟨_, again, scheme, placed⟩ := Url.exists_read_of_origin web ofWeb rest
  rw [address, again] at found
  obtain rfl := Except.ok.inj found
  exact ⟨authority, based, scheme, placed⟩

/-- The header that user info makes. A password that spells no text is left out. -/
def Authority.authorization (authority : Authority) : HeaderValue :=
  Request.basicAuthorization (Percent.decode authority.username)
    ((authority.password.map Percent.decode).filter fun bytes => (textOf? bytes).isSome)

namespace Request

/-- The user info of a base URL stays in the URL of a request. A request of several parts may have it in a
header instead, where a setter can replace it. -/
inductive KeepsUserinfo (request : Request) (settings : List Setting) (base place : Authority) : Prop where
  | inUrl (username : place.username = base.username) (password : place.password = base.password)
  | inHeader {boundary : String} {fields : Keyed Bytes} (parts : request.body = some (.parts boundary fields))
    (username : place.username = []) (password : place.password = none)
    (header : request.headers.get? "authorization" =
      (Headers.lastNamed? "authorization" (Keyed.ofList (settings.filterMap (Setting.entry? .header)))).or
        (some base.authorization))

/-- A request goes where a base URL points: over the same scheme, to the same host and port, as the same
user. -/
structure StaysAt (request : Request) (settings : List Setting) (base : Url) : Prop where
  scheme : request.url.scheme = base.scheme
  place : ∃ given place, base.authority = some given ∧ request.url.authority = some place ∧
    place.host = given.host ∧ place.port = given.port ∧ request.KeepsUserinfo settings given place

theorem authorize_cases {request : Request} {authority : Authority} (place : request.url.authority = some authority) :
    request.authorize = request ∨
      request.authorize = { request with
        url := request.url.withoutUserinfo
        headers := request.headers.put "authorization" authority.authorization } := by
  unfold authorize
  rw [place]
  simp only
  split
  · exact .inr rfl
  · exact .inl rfl

end Request

namespace Draft

variable {endpoint : Endpoint}

theorem exists_target_eq (draft : Draft) (slash : endpoint.template.toList.head? = some '/') :
    ∃ path, draft.target endpoint = String.ofList ('/' :: path) := by
  obtain ⟨rest, spelled⟩ : ∃ rest, endpoint.template.toList = '/' :: rest :=
    ⟨_, List.eq_cons_of_mem_head? slash⟩
  unfold target
  split
  · refine ⟨Template.expandFrom draft.path none rest, ?_⟩
    rw [← String.ofList_toList (s := Template.expand _ _), Template.toList_expand, spelled]
    rfl
  · exact ⟨rest, by rw [← spelled, String.ofList_toList]⟩

/-- Whatever texts fill the path, the request goes where the base URL points. -/
theorem staysAt_of_built {calls : List (SetterCall endpoint)} {client : Client} {text boundary : String}
    {request : Request} (slash : endpoint.template.toList.head? = some '/')
    (read : Url.read text = .ok client.options.baseUrl)
    (web : client.options.baseUrl.scheme = "http".toList ∨ client.options.baseUrl.scheme = "https".toList)
    (built : (ofCalls calls).build endpoint (some client) boundary = .ok request) :
    request.StaysAt (SetterCall.settings calls) client.options.baseUrl := by
  obtain ⟨_, found, assembled, same, targetRead, made, set⟩ := build_eq_ok_iff.mp built
  cases same
  obtain ⟨path, target⟩ := exists_target_eq (ofCalls calls) slash
  rw [target] at targetRead
  obtain ⟨given, based, scheme, authority⟩ := Client.origin_of_read read web targetRead
  have headers := setHeaders_calls calls set
  have kept : request.url = assembled.url := headers.url
  cases assembled_of_assemble made with
  | whole sameScheme sameAuthority _ =>
    refine ⟨by rw [kept, sameScheme, scheme], given, given, based, by rw [kept, sameAuthority, authority], rfl, rfl, ?_⟩
    exact .inUrl rfl rfl
  | parts fields =>
    have body : request.body = some (.parts boundary fields) := headers.body
    rcases @Request.authorize_cases (Request.ofUrl endpoint.method.name found) _ authority with stays | moved
    · have url : request.url = found := by rw [kept, Request.multipart, stays]; rfl
      refine ⟨by rw [url, scheme], given, given, based, by rw [url, authority], rfl, rfl, ?_⟩
      exact .inUrl rfl rfl
    · have url : request.url = found.withoutUserinfo := by rw [kept, Request.multipart, moved]; rfl
      have place : request.url.authority = some { given with username := [], password := none } := by
        rw [url, Url.withoutUserinfo, authority]
        rfl
      refine ⟨by rw [url, ← scheme]; rfl, given, _, based, place, rfl, rfl, ?_⟩
      refine .inHeader body rfl rfl ?_
      rw [headers.headers, Request.accepting_get? _ (by decide), Request.multipart, moved]
      simp [Headers.get?_put]

theorem climbing_photo_stays :
    ∃ request, (ofCalls [photoId "../..//@example.org:81\\?#\t"]).build photoEndpoint (some (localClient 8080)) "" =
        .ok request ∧
      request.StaysAt (SetterCall.settings [photoId "../..//@example.org:81\\?#\t"])
        (localClient 8080).options.baseUrl := by
  obtain ⟨_, read, rfl⟩ := exists_ok_of_toOption (Url.read "http://localhost:8080")
    (· = (localClient 8080).options.baseUrl) (by decide +kernel)
  obtain ⟨request, built, _⟩ := exists_ok_of_toOption
    ((ofCalls [photoId "../..//@example.org:81\\?#\t"]).build photoEndpoint (some (localClient 8080)) "")
    (fun _ => True) (by decide +kernel)
  exact ⟨request, built, staysAt_of_built (by decide) read (.inl rfl) built⟩

end Draft

end Endpoints
