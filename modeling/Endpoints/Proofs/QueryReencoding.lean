import Endpoints.Proofs.ClientSharing
import Endpoints.Proofs.QueryIntegrity
import Endpoints.Proofs.SettingOrder

/-! The order of a query before it is sent. Putting a query in order touches nothing else of a request, keeps its
pairs and comes to rest at once. A query that setters spell is in order from the start. -/

namespace Endpoints

/-- The pairs that the query of a URL spells. -/
def Url.queryPairs (url : Url) : List (String × String) :=
  Form.decode (String.ofList (url.query.getD []))

/-- The query that spells pairs in order, if there are any. -/
def Url.spelled? (pairs : List (String × String)) : Option (List Char) :=
  if pairs = [] then none else some (Form.ofPairs pairs).encode.toList

theorem Url.spelled?_of_pairs {pairs : List (String × String)} (some : pairs ≠ []) :
    spelled? pairs = Option.some (Form.ofPairs pairs).encode.toList := if_neg some

theorem Url.withQuery_none {url : Url} (place : url.authority.isSome = true) :
    url.withQuery none = { url with query := none } := by
  obtain ⟨authority, found⟩ := Option.isSome_iff_exists.mp place
  have hierarchical : url.isOpaque = false := by simp [isOpaque, found]
  simp [withQuery, hierarchical]

theorem Form.sorted_eq_nil_iff {pairs : List (String × String)} : sorted pairs = [] ↔ pairs = [] := by
  have length : (sorted pairs).length = pairs.length := List.length_mergeSort pairs
  rw [← List.length_eq_zero_iff, length, List.length_eq_zero_iff]

theorem Url.spelled?_sorted (pairs : List (String × String)) : spelled? (Form.sorted pairs) = spelled? pairs := by
  have same : Form.ofPairs (Form.sorted pairs) = Form.ofPairs pairs := by
    rw [← Form.pairs_ofPairs, Form.ofPairs_pairs]
  simp only [spelled?, Form.sorted_eq_nil_iff, same]

/-- One request is another one with its query in order. -/
structure Request.OrdersQuery (before after : Request) : Prop where
  /-- Method, headers, body and all other parts of the URL stay. -/
  frame : after = { before with url := { before.url with query := after.url.query } }
  unasked : before.url.query = none → after = before
  pairs : after.url.queryPairs = Form.sorted before.url.queryPairs
  dropped : after.url.query = none ↔ before.url.queryPairs = []
  rests : after.reencodeQuery = after

namespace Request

/-- What becomes of the query follows from its pairs alone. -/
theorem reencodeQuery_eq {request : Request} (place : request.url.authority.isSome = true) :
    request.reencodeQuery = { request with url := { request.url with query := Url.spelled? request.url.queryPairs } } := by
  unfold reencodeQuery Url.queryPairs
  split
  · next unasked =>
    have nothing : Url.spelled? (Form.decode (String.ofList [])) = none := rfl
    rw [unasked, Option.getD_none, nothing, ← unasked]
  · next query asked =>
    rw [asked, Option.getD_some]
    generalize Form.decode (String.ofList query) = pairs
    cases pairs with
    | nil =>
      have empty : (Form.ofPairs []).encode.isEmpty = true := rfl
      simp only [empty, if_true, Url.withQuery_none place]
      rfl
    | cons pair rest =>
      have written : (Form.ofPairs (pair :: rest)).encode.isEmpty = false := by
        rw [Form.isEmpty_encode, Form.isEmpty_ofPairs]
        rfl
      simp only [written, Bool.false_eq_true, if_false, Url.withQuery_encode]
      rfl

theorem ordersQuery_reencodeQuery {request : Request} (place : request.url.authority.isSome = true) :
    request.OrdersQuery request.reencodeQuery := by
  have pairs : request.reencodeQuery.url.queryPairs = Form.sorted request.url.queryPairs := by
    rw [reencodeQuery_eq place, Url.queryPairs]
    generalize request.url.queryPairs = pairs
    cases pairs with
    | nil => exact (Form.sorted_eq_nil_iff.mpr rfl).symm
    | cons pair rest =>
      rw [Url.spelled?_of_pairs (List.cons_ne_nil pair rest), Option.getD_some, String.ofList_toList, Form.decode_encode,
        Form.pairs_ofPairs]
  constructor
  case frame =>
    rw [reencodeQuery_eq place]
  case unasked =>
    intro unasked
    unfold reencodeQuery
    rw [unasked]
  case pairs => exact pairs
  case dropped =>
    rw [reencodeQuery_eq place]
    simp [Url.spelled?]
  case rests =>
    have kept : request.reencodeQuery.url.authority = request.url.authority := by rw [reencodeQuery_eq place]
    rw [reencodeQuery_eq (kept ▸ place), pairs, Url.spelled?_sorted, reencodeQuery_eq place]

theorem reencodeQuery_of_encode {request : Request} {form : Form} (some : form.isEmpty = false)
    (query : request.url.query = Option.some form.encode.toList) : request.reencodeQuery = request := by
  have read : Form.ofPairs (Form.decode (String.ofList form.encode.toList)) = form := by
    rw [String.ofList_toList, Form.decode_encode, Form.ofPairs_pairs]
  have written : form.encode.isEmpty = false := by rw [Form.isEmpty_encode, some]
  unfold reencodeQuery
  rw [query]
  simp only [read, written, Bool.false_eq_true, if_false, Url.withQuery_encode]
  rw [← query]

end Request

/-- The call sends no payload, and its setters have bound a pair of the query. -/
def Call.BindsQuery (call : Call) : Prop :=
  call.endpoint.method.carriesPayload = false ∧ ∃ calls : List (SetterCall call.endpoint),
    call.draft = .ofCalls calls ∧ (SetterCall.settings calls).filterMap (Setting.entry? .query) ≠ []

theorem Call.BindsQuery.reencodeQuery_eq {call : Call} (binds : call.BindsQuery) {registry : Registry}
    {request : Request} (built : call.draft.build call.endpoint registry call.boundary = .ok request) :
    request.reencodeQuery = request := by
  obtain ⟨sends, calls, stored, some⟩ := binds
  rw [stored] at built
  apply Request.reencodeQuery_of_encode _ (Draft.query_of_built sends some built)
  rw [Form.isEmpty_ofPairs, List.isEmpty_eq_false_iff]
  exact some

/-- A run that is about to send sends to the URL of the request that is built, by the first client that it has
asked for. -/
def Run.SendsBuilt (call : Call) (run : Run) : Prop :=
  ∀ sender sent, run.phase = .loaded sender sent → ∃ client request, run.loads.head? = some (some client) ∧
    call.draft.build call.endpoint (some client) call.boundary = .ok request ∧
      (sender.outgoing sent).url = request.url

theorem Call.BindsQuery.sendsBuilt {call : Call} (binds : call.BindsQuery) {run : Run} (reached : call.Reached run) :
    run.SendsBuilt call := by
  intro sender sent loaded
  cases reached with
  | @loaded client request _ made =>
    obtain ⟨rfl, rfl⟩ := Call.Phase.loaded.inj loaded
    refine ⟨client, request, rfl, made, ?_⟩
    rw [binds.reencodeQuery_eq made]
    rfl
  | started | refused _ | built _ | ordered _ | stranded _ | answered _ _ _ => cases loaded

/-- Before a request is sent its query is put in order, by the keys of its pairs, and nothing else happens to it
where its URL has an authority, as all URLs of the web have. Where setters have bound pairs, their query is in
order from the start, so that runs of any interleaving send to the URL of the request that is built. -/
theorem Request.query_in_order :
    (∀ request : Request, request.url.authority.isSome = true → request.OrdersQuery request.reencodeQuery) ∧
      (∀ (call : Call) (registry : Registry) (request : Request), call.BindsQuery →
        call.draft.build call.endpoint registry call.boundary = .ok request → request.reencodeQuery = request) ∧
      ∀ {ι : Type} [DecidableEq ι] (calls : ι → Call) (registry : Registry) (moves : List (Move ι)) (name : ι),
        (calls name).BindsQuery →
          (((World.start registry).after calls moves).runs name).SendsBuilt (calls name) := by
  refine ⟨?_, ?_, ?_⟩
  · intro request place
    exact ordersQuery_reencodeQuery place
  · intro call registry request binds built
    exact binds.reencodeQuery_eq built
  · intro ι _ calls registry moves name binds
    exact binds.sendsBuilt (World.reached_after .started moves)

/-- Pictures by their tags. -/
def taggedEndpoint : Endpoint :=
  { photoEndpoint with methods := uploadEndpoint.setter "tag" .query "tag" :: photoEndpoint.methods }

def photoTag (value : String) : SetterCall taggedEndpoint where
  setting := .query "tag" value
  offered := ⟨_, List.mem_cons_self, rfl⟩

/-- Tags that need escapes, and a query with an empty part and a key without value. -/
theorem tagged_query_in_order :
    let call : Call := ⟨taggedEndpoint, .ofCalls [photoTag "a b", photoTag "ü&"], "", .text⟩
    let flagged := Request.ofUrl "GET" { (localClient 8080).options.baseUrl with query := some "b=1&&a&b=0".toList }
    let step : Move Unit := .advance () .silent
    ∃ request, call.draft.build call.endpoint (some (localClient 8080)) call.boundary = .ok request ∧
      request.url.query = some "tag=a+b&tag=%C3%BC%26".toList ∧ request.reencodeQuery = request ∧
        (((World.start (some (localClient 8080))).after (fun _ => call) [step, step, step]).runs ()).SendsBuilt call ∧
          flagged.reencodeQuery.url.query = some "a=&b=1&b=0".toList ∧ flagged.OrdersQuery flagged.reencodeQuery := by
  intro call flagged step
  have binds : call.BindsQuery := ⟨rfl, _, rfl, List.cons_ne_nil _ _⟩
  obtain ⟨request, built, query⟩ := Checks.exists_ok_of_toOption
    (call.draft.build call.endpoint (some (localClient 8080)) call.boundary)
    (fun request => request.url.query = some "tag=a+b&tag=%C3%BC%26".toList) (by decide +kernel)
  obtain ⟨orders, kept, sends⟩ := Request.query_in_order
  exact ⟨request, built, query, kept call _ request binds built, sends _ _ _ _ binds, by decide +kernel,
    orders flagged rfl⟩

end Endpoints
