import Endpoints.Proofs.QueryIntegrity
import Endpoints.Proofs.HostConfinement

/-! Where a path lands that is put behind a base URL. It extends the last part that the base URL has, which is
its path only where there is neither a query nor a fragment. -/

namespace Endpoints
open Checks

namespace Percent

theorem encode_append (reserved : Reserved) (first second : List Char) :
    encode reserved (first ++ second) = encode reserved first ++ encode reserved second := by
  rw [encode, String.ofList_append, bytesOf_append, encodeBytes, List.flatMap_append]
  rfl

/-- What a query holds as it is can stand before a fragment. -/
theorem visible_inWebQuery {query : List Char} (free : ∀ c ∈ query, isFree inWebQuery c = true) :
    ∀ c ∈ query, 0x20 < Char.toNat c ∧ c ≠ '#' := by
  intro c member
  refine ⟨visible_of_isFree (fun byte => forall_byte (by decide) byte) (free c member), ?_⟩
  rintro rfl
  exact absurd (free _ member) (by decide)

theorem visible_inFragment {fragment : List Char} (free : ∀ c ∈ fragment, isFree inFragment c = true) :
    ∀ c ∈ fragment, 0x20 < Char.toNat c :=
  fun c member => visible_of_isFree (fun byte => forall_byte (by decide) byte) (free c member)

end Percent

namespace UrlPath

theorem trim_joined {segments : List Segment} (settled : ∀ segment ∈ segments, IsSettled segment) :
    ∃ kept, (∀ segment ∈ kept, IsSettled segment) ∧ (joined segments).rdropWhile (· == '/') = joined kept := by
  induction segments using List.reverseRecOn with
  | nil => exact ⟨[], nofun, rfl⟩
  | append_singleton front last ih =>
    obtain ⟨others, only⟩ := List.forall_mem_append.mp settled
    have ends : joined (front ++ [last]) = joined front ++ '/' :: last := by
      rw [joined_append]
      simp [joined]
    rcases List.eq_nil_or_concat last with rfl | ⟨start, c, rfl⟩
    · rw [ends, List.rdropWhile_concat_pos _ _ _ rfl]
      exact ih others
    · have stays : (c == '/') = false := by
        have undivided := (only _ (List.mem_singleton_self _)).undivided c (by simp)
        unfold isSlash at undivided
        exact (Bool.or_eq_false_iff.mp undivided).1
      refine ⟨front ++ [start.concat c], settled, ?_⟩
      rw [ends, List.concat_eq_append, ← List.cons_append, ← List.append_assoc]
      exact List.rdropWhile_concat_neg _ _ _ (by simp [stays])

theorem Settled.trim_append {first second : List Char} (settled : Settled first) (follows : Settled second) :
    Settled (first.rdropWhile (· == '/') ++ second) := by
  obtain ⟨front, _, each, rfl⟩ := settled
  obtain ⟨segments, some, more, rfl⟩ := follows
  obtain ⟨kept, rest, trimmed⟩ := trim_joined each
  refine ⟨kept ++ segments, by simp [some], List.forall_mem_append.mpr ⟨rest, more⟩, ?_⟩
  rw [trimmed, joined_append]

theorem Settled.visible {path : List Char} (settled : Settled path) : ∀ c ∈ path, 0x20 < c.toNat := by
  intro c member
  exact Percent.visible_of_isFree (fun byte => forall_byte (by decide) byte) (settled.free c member)

theorem Settled.free_inFragment {path : List Char} (settled : Settled path) :
    ∀ c ∈ path, Percent.isFree Percent.inFragment c = true := by
  intro c member
  exact Percent.isFree_of_weaker (fun byte => forall_byte (by decide) byte) (settled.free c member)

end UrlPath

namespace Url

theorem clean_of_visible {text : List Char} (visible : ∀ c ∈ text, 0x20 < c.toNat) :
    clean (String.ofList text) = text := by
  have kept {text : List Char} (visible : ∀ c ∈ text, 0x20 < c.toNat) :
      text.dropWhile (fun c => decide (c.toNat ≤ 0x20)) = text := by
    cases text with
    | nil => rfl
    | cons c rest =>
      have large := visible c List.mem_cons_self
      simp [Nat.not_le.mpr large]
  have front := kept visible
  have back := @kept text.reverse (by simpa using visible)
  simp only [clean, String.toList_ofList, front, back, List.reverse_reverse]
  refine List.filter_eq_self.mpr fun c member => ?_
  have large := visible c member
  have different : c ≠ '\t' ∧ c ≠ '\n' ∧ c ≠ '\r' := by
    refine ⟨?_, ?_, ?_⟩ <;> rintro rfl <;> exact absurd large (by decide)
  simp [different]

/-- A URL of the web as it is read. -/
structure Settled (url : Url) : Prop where
  web : url.scheme = "http".toList ∨ url.scheme = "https".toList
  placed : ∃ authority, url.authority = some authority ∧ authority.OfWeb url.scheme
  path : UrlPath.Settled url.path
  query : ∀ query ∈ url.query, ∀ c ∈ query, Percent.isFree Percent.inWebQuery c = true
  fragment : ∀ fragment ∈ url.fragment, ∀ c ∈ fragment, Percent.isFree Percent.inFragment c = true

theorem settled_of_read {text : String} {url : Url} (read : Url.read text = .ok url)
    (web : url.scheme = "http".toList ∨ url.scheme = "https".toList) : url.Settled := by
  obtain ⟨scheme, rest, place, path, _, hierarchy, rfl⟩ := read_eq_ok_iff.mp read
  have implied := impliedPort_of_web web
  obtain ⟨authority, behind, rfl, ofWeb, rfl⟩ := exists_authority_of_readHierarchy implied hierarchy
  refine ⟨web, ⟨authority, rfl, ofWeb⟩, UrlPath.settled_readWeb behind, ?_, ?_⟩
  · intro query held c member
    rw [reservedInQuery_of_web implied] at held
    obtain ⟨raw, _, rfl⟩ := Option.map_eq_some_iff.mp held
    exact Percent.isFree_of_mem_encode (fun byte => forall_byte (by decide) byte) (by decide) member
  · intro fragment held c member
    obtain ⟨raw, _, rfl⟩ := Option.map_eq_some_iff.mp held
    exact Percent.isFree_of_mem_encode (fun byte => forall_byte (by decide) byte) (by decide) member

/-- The URL with a text behind the last part that it has, whose last slashes are gone. -/
def extended (url : Url) (text : List Char) : Url :=
  match url.query, url.fragment with
  | _, some fragment => { url with fragment := some (fragment.rdropWhile (· == '/') ++ text) }
  | some query, none =>
    { url with query := some (query.rdropWhile (· == '/') ++ Percent.encode Percent.inWebQuery text) }
  | none, none => { url with path := url.path.rdropWhile (· == '/') ++ text }

/-- A part of a URL behind its mark, if the URL has that part. -/
def marked (mark : Char) (part : Option (List Char)) : List Char := part.elim [] (mark :: ·)

theorem forall_mem_marked_iff {mark : Char} {part : Option (List Char)} {p : Char → Prop} :
    (∀ c ∈ marked mark part, p c) ↔ ∀ text ∈ part, p mark ∧ ∀ c ∈ text, p c := by
  cases part <;> simp [marked]

theorem cutAt_marked {mark : Char} {front : List Char} (absent : mark ∉ front) (part : Option (List Char)) :
    cutAt mark (front ++ marked mark part) = (front, part) := by
  rw [cutAt_append absent]
  cases part <;> simp [marked, cutAt]

/-- A URL of the web is read part by part. -/
theorem read_characters {url : Url} {authority : Authority}
    (web : url.scheme = "http".toList ∨ url.scheme = "https".toList)
    (placed : url.authority = some authority) (ofWeb : authority.OfWeb url.scheme)
    (settled : UrlPath.Settled url.path)
    (asks : ∀ query ∈ url.query, ∀ c ∈ query, 0x20 < Char.toNat c ∧ c ≠ '#')
    (points : ∀ fragment ∈ url.fragment, ∀ c ∈ fragment, 0x20 < Char.toNat c) :
    Url.read (String.ofList url.characters) = .ok { url with
      query := url.query.map (Percent.encode Percent.inWebQuery)
      fragment := url.fragment.map (Percent.encode Percent.inFragment) } := by
  obtain ⟨scheme, _, path, query, fragment⟩ := url
  obtain rfl := placed
  obtain ⟨rest, spelled⟩ := settled.starts
  simp only at web ofWeb settled asks points spelled
  have inPath := settled.visible
  have unmarked := settled.unmarked
  simp only [spelled, List.forall_mem_cons, Unmarked.cons_iff] at inPath unmarked
  have characters : Url.characters ⟨scheme, some authority, path, query, fragment⟩ =
      origin scheme authority ++ '/' :: (rest ++ marked '?' query ++ marked '#' fragment) := by
    cases query <;> cases fragment <;> simp [Url.characters, hierarchy, origin, marked, spelled]
  have visible : ∀ c ∈ origin scheme authority ++ '/' :: (rest ++ marked '?' query ++ marked '#' fragment),
      0x20 < c.toNat := by
    simp only [List.forall_mem_append, List.forall_mem_cons, forall_mem_marked_iff]
    have asked : ∀ text ∈ query, 0x20 < '?'.toNat ∧ ∀ c ∈ text, 0x20 < c.toNat :=
      fun text given => ⟨by decide, fun c member => (asks text given c member).1⟩
    have pointed : ∀ text ∈ fragment, 0x20 < '#'.toNat ∧ ∀ c ∈ text, 0x20 < c.toNat :=
      fun text given => ⟨by decide, points text given⟩
    exact ⟨visible_origin web ofWeb, by decide, ⟨inPath.2, asked⟩, pointed⟩
  have noMark : '?' ∉ rest := fun member => (unmarked.2 _ member).1 rfl
  have noHash : '#' ∉ rest ++ marked '?' query := by
    have apart : ∀ c ∈ rest ++ marked '?' query, c ≠ '#' := by
      simp only [List.forall_mem_append, forall_mem_marked_iff]
      exact ⟨fun c member => (unmarked.2 c member).2,
        fun text given => ⟨by decide, fun c member => (asks text given c member).2⟩⟩
    exact fun member => apart _ member rfl
  have kept : UrlPath.readWeb ('/' :: rest) = path := by rw [← spelled, settled.readWeb_eq]
  rw [characters, read_of_origin web ofWeb (clean_of_visible visible), cutAt_marked noHash, cutAt_marked noMark]
  simp only [kept]

theorem rdropWhile_slash_append (front : List Char) {last : Char} (stays : (last == '/') = false)
    (behind text : List Char) :
    (front ++ last :: behind).rdropWhile (· == '/') ++ text = front ++ last :: (behind.rdropWhile (· == '/') ++ text) := by
  rw [Text.rdropWhile_append (p := (· == '/')) stays]
  simp

theorem trim_characters_append {url : Url} {authority : Authority} (placed : url.authority = some authority)
    (ofWeb : authority.OfWeb url.scheme) (text : List Char) :
    url.characters.rdropWhile (· == '/') ++ text =
      match url.query, url.fragment with
      | _, some fragment => characters { url with fragment := some (fragment.rdropWhile (· == '/') ++ text) }
      | some query, none => characters { url with query := some (query.rdropWhile (· == '/') ++ text) }
      | none, none => characters { url with path := url.path.rdropWhile (· == '/') ++ text } := by
  obtain ⟨scheme, _, base, query?, fragment?⟩ := url
  obtain rfl := placed
  cases fragment? with
  | some held => cases query? <;> exact rdropWhile_slash_append _ rfl held text
  | none =>
    cases query? with
    | some held =>
      simpa [characters, hierarchy] using rdropWhile_slash_append
        (scheme ++ ':' :: hierarchy ⟨scheme, some authority, base, some held, none⟩) rfl held text
    | none =>
      -- The path may lose all its characters, and what is before it ends with the authority.
      obtain ⟨front, last, ends⟩ := List.eq_nil_or_concat authority.text |>.resolve_left ofWeb.text_ne_nil
      have stays : (last == '/') = false := by
        have plain := ofWeb.isPlain_of_mem_text (c := last) (by simp [ends])
        exact beq_false_of_ne fun same => absurd (same ▸ plain) (by decide)
      simpa [characters, hierarchy, ends] using
        rdropWhile_slash_append (scheme ++ ':' :: '/' :: '/' :: front) stays base text

theorem Settled.read_text {url : Url} (settled : url.Settled) : Url.read url.text = .ok url := by
  obtain ⟨web, ⟨authority, placed, ofWeb⟩, path, query, fragment⟩ := settled
  refine (read_characters web placed ofWeb path (fun asked given => Percent.visible_inWebQuery (query asked given))
    fun pointed given => Percent.visible_inFragment (fragment pointed given)).trans ?_
  have kept {reserved : Percent.Reserved} {part : Option (List Char)}
      (free : ∀ text ∈ part, ∀ c ∈ text, Percent.isFree reserved c = true) :
      part.map (Percent.encode reserved) = part := by
    cases part with
    | none => rfl
    | some text => exact congrArg some (Percent.encode_of_free (free text rfl))
  rw [kept query, kept fragment]

/-- A settled path behind the text of a URL of the web, without the last slashes of that text, extends the
last part of the URL. -/
theorem Settled.read_trim_append {url : Url} (settled : url.Settled) {path : List Char}
    (follows : UrlPath.Settled path) :
    Url.read (String.ofList (url.characters.rdropWhile (· == '/') ++ path)) = .ok (url.extended path) := by
  obtain ⟨web, ⟨authority, placed, ofWeb⟩, settledPath, query, fragment⟩ := settled
  rw [trim_characters_append placed ofWeb]
  obtain ⟨scheme, _, base, query?, fragment?⟩ := url
  obtain rfl := placed
  simp only at web ofWeb settledPath query fragment
  have unmarked : ∀ c ∈ path, 0x20 < Char.toNat c ∧ c ≠ '#' :=
    fun c member => ⟨follows.visible c member, (follows.unmarked c member).2⟩
  have within {p : Char → Prop} {text : List Char} (each : ∀ c ∈ text, p c) : ∀ c ∈ text.rdropWhile (· == '/'), p c :=
    fun c member => each c ((List.rdropWhile_prefix _ text).subset member)
  cases fragment? with
  | some held =>
    have free : ∀ c ∈ held.rdropWhile (· == '/') ++ path, Percent.isFree Percent.inFragment c = true :=
      List.forall_mem_append.mpr ⟨within (fragment held rfl), follows.free_inFragment⟩
    have read := @read_characters
      ⟨scheme, some authority, base, query?, some (held.rdropWhile (· == '/') ++ path)⟩ authority web rfl ofWeb
      settledPath (fun query? given => Percent.visible_inWebQuery (query query? given))
      (by simpa using Percent.visible_inFragment free)
    cases query? with
    | none => simpa [extended, Percent.encode_of_free free] using read
    | some asked => simpa [extended, Percent.encode_of_free free, Percent.encode_of_free (query asked rfl)] using read
  | none =>
    cases query? with
    | some held =>
      have asked : ∀ c ∈ held.rdropWhile (· == '/') ++ path, 0x20 < Char.toNat c ∧ c ≠ '#' :=
        List.forall_mem_append.mpr ⟨within (Percent.visible_inWebQuery (query held rfl)), unmarked⟩
      refine (read_characters web rfl ofWeb settledPath (by simpa using asked) (by simp)).trans ?_
      simp [extended, Percent.encode_append, Percent.encode_of_free (within (query held rfl))]
    | none => exact read_characters web rfl ofWeb (settledPath.trim_append follows) (by simp) (by simp)

/-- A path stands behind that of a base URL, whose last slashes are gone, and not in its query or fragment. -/
structure Follows (url base : Url) (path : List Char) : Prop where
  path : url.path = base.path.rdropWhile (· == '/') ++ path
  query : url.query = base.query ∨ url.query = none
  fragment : url.fragment = base.fragment ∨ url.fragment = none

/-- A path that is more than slashes stands behind that of the base URL just where nothing else does. -/
theorem follows_extended_iff {base : Url} {path : List Char} (more : ∃ c ∈ path, c ≠ '/') :
    (base.extended path).Follows base path ↔ base.query = none ∧ base.fragment = none := by
  have apart : base.path ≠ base.path.rdropWhile (· == '/') ++ path := by
    intro same
    have trimmed : base.path.rdropWhile (· == '/') ++ base.path.rtakeWhile (· == '/') = base.path :=
      List.rdropWhile_append_rtakeWhile
    obtain rfl := List.append_cancel_left (trimmed.trans same)
    obtain ⟨c, member, other⟩ := more
    exact other (by simpa using List.mem_rtakeWhile_imp member)
  constructor
  · intro follows
    have path := follows.path
    cases fragment : base.fragment with
    | some held =>
      simp only [extended, fragment] at path
      exact absurd path apart
    | none =>
      cases query : base.query with
      | some held =>
        simp only [extended, fragment, query] at path
        exact absurd path apart
      | none => exact ⟨rfl, rfl⟩
  · rintro ⟨query, fragment⟩
    simp only [extended, query, fragment]
    exact ⟨rfl, .inl query.symm, .inl fragment.symm⟩

end Url

theorem Request.url_authorize (request : Request) :
    ∃ authority, request.authorize.url = { request.url with authority } := by
  cases place : request.url.authority with
  | none =>
    have kept : request.authorize = request := by rw [authorize, place]
    exact ⟨request.url.authority, by rw [kept]⟩
  | some authority =>
    rcases authorize_cases place with kept | moved
    · exact ⟨request.url.authority, by rw [kept]⟩
    · exact ⟨request.url.withoutUserinfo.authority, by rw [moved]; rfl⟩

/-- A path template that a URL holds as it is written. -/
structure Endpoint.HasPlainPath (endpoint : Endpoint) : Prop where
  slash : endpoint.template.toList.head? = some '/'
  level : ∀ segment ∈ Text.splitAt (· == '/') endpoint.template.toList,
    UrlPath.isUp segment = false ∧ UrlPath.isHere segment = false
  kept : ∀ c ∈ endpoint.template.toList, Percent.isFree Percent.inPath c = true ∧ c ≠ '\\'

theorem Endpoint.HasPlainPath.settled {endpoint : Endpoint} (plain : endpoint.HasPlainPath) :
    UrlPath.Settled endpoint.template.toList := by
  obtain ⟨rest, spelled⟩ : ∃ rest, endpoint.template.toList = '/' :: rest :=
    ⟨_, List.eq_cons_of_mem_head? plain.slash⟩
  obtain ⟨_, level, kept⟩ := plain
  rw [spelled] at level kept ⊢
  refine ⟨_, Text.splitAt_ne_nil (· == '/') rest, fun segment among => ?_, (UrlPath.joined_splitAt rest).symm⟩
  have inside (c : Char) (member : c ∈ segment) : c ∈ '/' :: rest :=
    List.mem_cons_of_mem _ (Text.subset_of_mem_splitAt among member)
  refine ⟨level segment (by simp [Text.splitAt, among]), fun c member => (kept c (inside c member)).1, ?_⟩
  intro c member
  have slash : (c == '/') = false := Text.not_mem_of_mem_splitAt among c member
  simp [UrlPath.isSlash, slash, (kept c (inside c member)).2]

namespace Draft

variable {endpoint : Endpoint}

/-- Apart from a query that setters spell, what follows the authority in an address stays. -/
theorem url_of_assemble {draft : Draft} {url : Url} {boundary : String} {request : Request}
    (made : draft.assemble endpoint url boundary = .ok request) :
    request.url.path = url.path ∧ request.url.fragment = url.fragment ∧
      (endpoint.method.carriesPayload = true ∨ draft.query.isEmpty = true → request.url.query = url.query) := by
  unfold assemble at made
  split at made
  next =>
    have kept : ∃ authority, request.url = { url with authority } := by
      cases laden_of_payload made with
      | nothing => exact ⟨url.authority, rfl⟩
      | content contentType bytes => exact ⟨url.authority, rfl⟩
      | parts fields => exact (Request.ofUrl endpoint.method.name url).url_authorize
    obtain ⟨authority, same⟩ := kept
    rw [same]
    exact ⟨rfl, rfl, fun _ => rfl⟩
  next bare =>
    obtain rfl := Except.ok.inj made
    simp only [queried, Url.withQuery_encode]
    split
    next asked =>
      refine ⟨rfl, rfl, ?_⟩
      rintro (carries | empty)
      · exact absurd carries bare
      · simp [empty] at asked
    next => exact ⟨rfl, rfl, fun _ => rfl⟩

/-- What a plain template makes of a base URL, whatever the setters are. -/
structure ExtendsBase (endpoint : Endpoint) (client : Client) (calls : List (SetterCall endpoint)) (boundary : String) :
    Prop where
  /-- An address is always read, so only the payload and the headers can fail. -/
  addressed : (ofCalls calls).build endpoint (some client) boundary =
    ((ofCalls calls).assemble endpoint (client.options.baseUrl.extended endpoint.template.toList) boundary).bind
      fun request => (ofCalls calls).setHeaders endpoint request.accepting
  path : ∀ request, (ofCalls calls).build endpoint (some client) boundary = .ok request →
    request.url.path = (client.options.baseUrl.extended endpoint.template.toList).path ∧
      request.url.fragment = (client.options.baseUrl.extended endpoint.template.toList).fragment
  query : ∀ request, (ofCalls calls).build endpoint (some client) boundary = .ok request →
    endpoint.method.carriesPayload = true ∨ (SetterCall.settings calls).filterMap (Setting.entry? .query) = [] →
      request.url.query = (client.options.baseUrl.extended endpoint.template.toList).query
  follows : (∃ c ∈ endpoint.template.toList, c ≠ '/') →
    ((client.options.baseUrl.extended endpoint.template.toList).Follows client.options.baseUrl
        endpoint.template.toList ↔
      client.options.baseUrl.query = none ∧ client.options.baseUrl.fragment = none)

/-- A plain template extends the last part that the base URL has. That is the path just where the base URL has
neither a query nor a fragment, and then the request has the query of the base URL, which is none. -/
theorem extendsBase_of_plain {client : Client} {text : String} (read : Url.read text = .ok client.options.baseUrl)
    (web : client.options.baseUrl.scheme = "http".toList ∨ client.options.baseUrl.scheme = "https".toList)
    (unbound : endpoint.uses .path = false) (plain : endpoint.HasPlainPath) (calls : List (SetterCall endpoint))
    (boundary : String) : ExtendsBase endpoint client calls boundary := by
  have address : Url.read (client.baseText ++ (ofCalls calls).target endpoint) =
      .ok (client.options.baseUrl.extended endpoint.template.toList) := by
    have joined := (Url.settled_of_read read web).read_trim_append plain.settled
    rw [String.ofList_append, String.ofList_toList] at joined
    simpa [target, unbound, Client.baseText, List.rdropWhile] using joined
  have addressed : (ofCalls calls).build endpoint (some client) boundary =
      ((ofCalls calls).assemble endpoint (client.options.baseUrl.extended endpoint.template.toList) boundary).bind
        fun request => (ofCalls calls).setHeaders endpoint request.accepting := by
    simp only [build, address]
    rfl
  have located {request : Request} (built : (ofCalls calls).build endpoint (some client) boundary = .ok request) :
      ∃ assembled, (ofCalls calls).assemble endpoint (client.options.baseUrl.extended endpoint.template.toList)
        boundary = .ok assembled ∧ request.url = assembled.url := by
    rw [addressed] at built
    obtain ⟨assembled, made, set⟩ := bind_eq_ok_iff.mp built
    exact ⟨assembled, made, (setHeaders_calls calls set).url⟩
  refine ⟨addressed, ?_, ?_, Url.follows_extended_iff⟩
  · intro request built
    obtain ⟨assembled, made, same⟩ := located built
    obtain ⟨path, fragment, _⟩ := url_of_assemble made
    rw [same]
    exact ⟨path, fragment⟩
  · intro request built unasked
    obtain ⟨assembled, made, same⟩ := located built
    obtain ⟨_, _, query⟩ := url_of_assemble made
    rw [same]
    apply query
    rcases unasked with carries | none
    · exact .inl carries
    · refine .inr ?_
      rw [query_ofSettings, none]
      rfl

end Draft

/-- A question that is asked at a fixed path. -/
def pingEndpoint : Endpoint where
  name := "Ping"
  visibility := .inherited
  method := .get
  template := "/ping"
  methods := [⟨"run", [], .sync (.path (.ofName "String")), .reference,
    Builder.plainSignature "run" [Builder.sharedSelf]
      (some (.path (.mk false [.mk "Result" (.angle false
        [.type (.path (.ofName "String")), .type (.path (.ofName "Error"))] false)])))⟩]

/-- A client for a service below a path, which is asked with some query. -/
def serviceClient (query : Option (List Char)) : Client where
  options := .ofBaseUrl
    ⟨"http".toList, some ⟨[], none, .name "localhost".toList, some 8080⟩, "/api".toList, query, none⟩
  defaults := .empty

namespace Draft

theorem ping_hasPlainPath : pingEndpoint.HasPlainPath where
  slash := by decide
  level := by decide
  kept := by
    have free : pingEndpoint.template.toList.all (fun c => Percent.isFree Percent.inPath c && c != '\\') = true := by
      decide
    simpa using free

theorem ping_extendsBase :
    ∃ request, empty.build pingEndpoint (some (serviceClient none)) "" = .ok request ∧
      request.url.text = "http://localhost:8080/api/ping" ∧
      ExtendsBase pingEndpoint (serviceClient none) [] "" := by
  obtain ⟨_, read, rfl⟩ := exists_ok_of_toOption (Url.read "http://localhost:8080/api")
    (· = (serviceClient none).options.baseUrl) (by decide +kernel)
  obtain ⟨request, built, text⟩ := exists_ok_of_toOption
    (empty.build pingEndpoint (some (serviceClient none)) "")
    (fun request => request.url.text = "http://localhost:8080/api/ping") (by decide +kernel)
  exact ⟨request, built, text, extendsBase_of_plain read (.inl rfl) rfl ping_hasPlainPath [] ""⟩

/-- Behind a base URL with a query, the template lands in that query. -/
theorem ping_lands_in_query :
    ∃ client, Url.read "http://localhost:8080/api?key=1" = .ok client.options.baseUrl ∧
      client.options.baseUrl.scheme = "http".toList ∧ pingEndpoint.uses .path = false ∧
      pingEndpoint.HasPlainPath ∧ ∃ request, empty.build pingEndpoint (some client) "" = .ok request ∧
        request.url.path = "/api".toList ∧ request.url.query = some "key=1/ping".toList ∧
        ¬ request.url.Follows client.options.baseUrl pingEndpoint.template.toList := by
  obtain ⟨_, read, rfl⟩ := exists_ok_of_toOption (Url.read "http://localhost:8080/api?key=1")
    (· = (serviceClient (some "key=1".toList)).options.baseUrl) (by decide +kernel)
  obtain ⟨request, built, path, query⟩ := exists_ok_of_toOption
    (empty.build pingEndpoint (some (serviceClient (some "key=1".toList))) "")
    (fun request => request.url.path = "/api".toList ∧ request.url.query = some "key=1/ping".toList)
    (by decide +kernel)
  refine ⟨_, read, rfl, rfl, ping_hasPlainPath, request, built, path, query, fun follows => ?_⟩
  exact absurd (path.symm.trans follows.path) (by decide)

end Draft
end Endpoints
