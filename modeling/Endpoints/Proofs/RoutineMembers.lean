import Endpoints.Builder.Items
import Endpoints.Proofs.SelfMembers

/-! The members of a builder that its generated functions mention. Of each routine there is a lemma that
says what has to be allowed for all its members to be: the fields of the kinds that it reads, the routines
that it calls, and whatever the runtime path spells. -/

namespace Endpoints

theorem BindingKind.field_ne_self (kind : BindingKind) : kind.field ≠ "self" := by
  cases kind <;> decide

theorem BindingKind.field_injective : Function.Injective field := by
  intro first second same
  cases first <;> cases second <;> first | rfl | exact absurd same (by decide)

namespace Builder
open Tokens

@[simp] theorem selfMembers_heldBy (kind : BindingKind) :
    selfMembers (heldBy kind) = [⟨kind.field, false⟩] :=
  selfMembers_member_self kind.field

@[simp] theorem closed_member_heldBy (kind : BindingKind) {name : String} (other : name ≠ "self") :
    Closed (member (heldBy kind) name) := by
  intro rest
  simp [member, heldBy, self, word, operator, operatorOf, selfMembers_ident, namedMember?,
    memberAfterDot?, startsGroup, other, kind.field_ne_self]

@[simp] theorem selfMembers_member_heldBy (kind : BindingKind) (name : String) :
    selfMembers (member (heldBy kind) name) = [⟨kind.field, false⟩] := by
  simp [member, heldBy, self, word, operator, operatorOf, selfMembers_ident, namedMember?,
    memberAfterDot?, startsGroup, kind.field_ne_self]

@[simp] theorem selfMembers_methodTokens (method : HttpMethod) (runtime : Path) :
    selfMembers (method.tokens runtime) = selfMembers runtime.tokens :=
  selfMembers_below runtime ["reqwest", "Method", method.name]

/-- Tokens whose members are all allowed. -/
def Within (allowed : SelfMember → Prop) (tokens : Tokens) : Prop :=
  ∀ member ∈ selfMembers tokens, allowed member

theorem within_iff {allowed : SelfMember → Prop} {tokens : Tokens} :
    Within allowed tokens ↔ ∀ member ∈ selfMembers tokens, allowed member := Iff.rfl

theorem within_given {allowed : SelfMember → Prop} {condition : Bool} {tokens : Tokens}
    (within : condition = true → Within allowed tokens) :
    Within allowed (given condition tokens) := by
  cases condition
  · exact nofun
  · exact within rfl

theorem within_append_iff {allowed : SelfMember → Prop} {first : Tokens} (closed : Closed first)
    (second : Tokens) :
    Within allowed (first ++ second) ↔ Within allowed first ∧ Within allowed second := by
  simp [within_iff, closed, or_imp, forall_and]

section
variable {endpoint : Endpoint} {runtime : Path} {allowed : SelfMember → Prop}
  (spelled : Within allowed runtime.tokens)
  (field : ∀ kind, endpoint.uses kind = true → allowed ⟨kind.field, false⟩)

theorem within_pathValue
    (fill : endpoint.uses .path = true → allowed ⟨"apply_path_substitutions", true⟩) :
    Within allowed (pathValue endpoint) := by
  unfold pathValue
  split
  next used => simpa [Within] using fill used
  next => simp [Within]

include field in
theorem within_setQuery (used : endpoint.uses .query = true) : Within allowed setQuery := by
  simpa [Within, setQuery] using field .query used

@[simp] theorem closed_setBody (value : Tokens) : Closed (setBody value) := closed_assignment _ _

@[simp] theorem selfMembers_setBody (value : Tokens) :
    selfMembers (setBody value) = selfMembers value := by
  simp [setBody]

@[simp] theorem closed_setFixedHeader (runtime : Path) (constant value : String) :
    Closed (setFixedHeader runtime constant value) := closed_statement _

include spelled

theorem within_setFixedHeader (constant value : String) :
    Within allowed (setFixedHeader runtime constant value) := by
  simpa [Within, setFixedHeader] using spelled

theorem within_requestOf : Within allowed (requestOf endpoint runtime) := by
  simpa [Within, requestOf, request] using spelled

include field

theorem within_bodyBranch (used : endpoint.uses .body = true) :
    Within allowed (bodyBranch endpoint runtime) := by
  have held := field .body used
  have made : Within allowed (requestOf endpoint runtime) := within_requestOf spelled
  have header := within_setFixedHeader spelled "CONTENT_TYPE" "application/json"
  simp_all [within_iff, bodyBranch, or_imp]

theorem within_formBranch (used : endpoint.uses .form = true) :
    Within allowed (formBranch endpoint runtime) := by
  have held := field .form used
  have made : Within allowed (requestOf endpoint runtime) := within_requestOf spelled
  have header := within_setFixedHeader spelled "CONTENT_TYPE" "application/x-www-form-urlencoded"
  simp_all [within_iff, formBranch, or_imp]

theorem within_multipartBranch (used : endpoint.uses .multipart = true) :
    Within allowed (multipartBranch endpoint runtime) := by
  have held := field .multipart used
  simp_all [within_iff, multipartBranch, or_imp]

theorem within_payloadBranches : ∀ branch ∈ payloadBranches endpoint runtime, Within allowed branch := by
  intro branch member
  simp only [payloadBranches, payloadBranches.given, List.append_assoc, List.mem_append,
    List.mem_ite_nil_right, List.mem_singleton] at member
  rcases member with ⟨used, rfl⟩ | ⟨used, rfl⟩ | ⟨used, rfl⟩
  · exact within_bodyBranch spelled field used
  · exact within_formBranch spelled field used
  · exact within_multipartBranch spelled field used

omit spelled field in
theorem closed_payloadBranches (endpoint : Endpoint) (runtime : Path) :
    ∀ branch ∈ payloadBranches endpoint runtime, Closed branch := by
  intro branch member
  simp only [payloadBranches, payloadBranches.given, List.append_assoc, List.mem_append,
    List.mem_ite_nil_right, List.mem_singleton] at member
  rcases member with ⟨_, rfl⟩ | ⟨_, rfl⟩ | ⟨_, rfl⟩ <;> exact closed_conditional _ _

theorem within_assemble : Within allowed (assemble endpoint runtime) := by
  have made : Within allowed (requestOf endpoint runtime) := within_requestOf spelled
  unfold assemble
  split
  next =>
    split
    next => simpa [within_iff] using made
    next =>
      have each := within_payloadBranches spelled field
      obtain ⟨members, closed⟩ := separated_of_closed (closed_word (by decide : "else" ≠ "self"))
        (selfMembers_word "else") (closed_payloadBranches endpoint runtime)
      have branches : Within allowed (separated (word "else") (payloadBranches endpoint runtime)) := by
        rw [within_iff, members]
        intro member among
        obtain ⟨branch, chosen, named⟩ := List.mem_flatMap.mp among
        exact each branch chosen member named
      have last : Within allowed (word "else" ++ braces (requestOf endpoint runtime)) := by
        simpa [within_iff] using made
      rw [within_iff, selfMembers_mutableBinding, List.append_assoc, ← within_iff]
      exact (within_append_iff closed _).mpr ⟨branches, last⟩
  next =>
    have query : Within allowed (given (endpoint.uses .query) setQuery) :=
      within_given fun used => within_setQuery field used
    simp_all [within_iff, or_imp]

omit spelled field in
theorem closed_assemble (endpoint : Endpoint) (runtime : Path) : Closed (assemble endpoint runtime) := by
  unfold assemble
  split
  next => split <;> exact closed_mutableBinding _ _
  next => exact (closed_mutableBinding _ _).append (closed_given (closed_conditional _ _))

omit spelled field in
@[simp] theorem closed_setBoundHeaders (runtime : Path) : Closed (setBoundHeaders runtime) :=
  closed_concat rfl _

theorem within_setBoundHeaders (used : endpoint.uses .header = true) :
    Within allowed (setBoundHeaders runtime) := by
  have held := field .header used
  simp_all [within_iff, setBoundHeaders, or_imp]

theorem within_fillBody (used : endpoint.uses .path = true) : Within allowed (fillBody runtime) := by
  have held := field .path used
  simp_all [within_iff, fillBody, or_imp]

theorem within_buildBody
    (fill : endpoint.uses .path = true → allowed ⟨"apply_path_substitutions", true⟩) :
    Within allowed (buildBody endpoint runtime) := by
  have path := within_pathValue fill
  have assembled := within_assemble spelled field
  have accept := within_setFixedHeader spelled "ACCEPT" "application/json"
  have headers : Within allowed (given (endpoint.uses .header) (setBoundHeaders runtime)) :=
    within_given fun used => within_setBoundHeaders spelled field used
  have closed := closed_assemble endpoint runtime
  simp_all [within_iff, buildBody, or_imp]

end

section
variable {runtime : Path} {allowed : SelfMember → Prop} (spelled : Within allowed runtime.tokens)

@[simp] theorem closed_whenDebugging (runtime : Path) (routine value : String) :
    Closed (whenDebugging runtime routine value) := closed_conditional _ _

include spelled

theorem within_whenDebugging {routine : String} (other : routine ≠ "self") (value : String) :
    Within allowed (whenDebugging runtime routine value) := by
  simp_all [within_iff, whenDebugging, other.symm]

/-- The type of a response may end in the middle of a member, and then the word after it is the name of that
member. -/
theorem within_fromResponse {response : Ty} (result : Within allowed response.tokens)
    (ended : ∀ called, allowed ⟨"as", called⟩) (value : String) :
    Within allowed (call (operator "<" ++ response.tokens ++ word "as" ++ below runtime ["FromResponse"]
      ++ operator ">" ++ operator "::" ++ word "from_response") [mutableReference (word value)]) := by
  have closed := closed_qualified (operator "<" ++ response.tokens ++ word "as"
    ++ below runtime ["FromResponse"] ++ operator ">") (by decide : "from_response" ≠ "self")
  rw [← List.append_assoc] at closed
  intro found among
  rw [selfMembers_call closed, List.append_assoc, List.append_assoc, List.append_assoc, List.append_assoc,
    List.append_assoc, closed_operator "<", selfMembers_operator, List.nil_append] at among
  simp only [List.flatMap_cons, List.flatMap_nil, selfMembers_mutableReference, selfMembers_word,
    List.append_nil] at among
  rcases mem_selfMembers_append_ident among with inside | name | after
  · exact result found inside
  · obtain ⟨_, called⟩ := found
    obtain rfl : _ = "as" := name
    exact ended called
  · refine spelled found ?_
    simpa [selfMembers_ident_of_ne] using after

theorem within_executeBody {response : Ty} (build : allowed ⟨"build", true⟩)
    (result : Within allowed response.tokens) (ended : ∀ called, allowed ⟨"as", called⟩) :
    Within allowed (executeBody runtime response) := by
  have conversion := within_fromResponse spelled result ended "response"
  have request := within_whenDebugging spelled (by decide : "debug_request" ≠ "self") "request"
  have answer := within_whenDebugging spelled (by decide : "debug_response" ≠ "self") "response"
  simp_all [within_iff, executeBody, or_imp]

end

@[simp] theorem selfMembers_bytesOf (value : Tokens) :
    selfMembers (bytesOf value) = selfMembers value := by
  have closed := closed_qualified (std ["convert", "AsRef"] ++ operator "::" ++ operator "<"
    ++ brackets (word "u8") ++ operator ">") (by decide : "as_ref" ≠ "self")
  rw [← List.append_assoc] at closed
  have silent : selfMembers (std ["convert", "AsRef"] ++ operator "::" ++ operator "<"
    ++ brackets (word "u8") ++ operator ">" ++ operator "::" ++ word "as_ref") = [] := by decide
  rw [bytesOf, selfMembers_callOn (closed_member_call (by decide)), selfMembers_member (closed_call _ _),
    selfMembers_call closed, silent]
  simp

theorem within_store {allowed : SelfMember → Prop} {kind : BindingKind} (key name : String)
    (held : allowed ⟨kind.field, false⟩) : Within allowed (store kind key (word name) ++ self) := by
  cases kind <;> simp_all [within_iff, store, self]

theorem within_syncBody {allowed : SelfMember → Prop} (execute : allowed ⟨"execute", true⟩) :
    Within allowed syncBody := by
  simp_all [within_iff, syncBody]

theorem within_callOn_word {allowed : SelfMember → Prop} (name : String) {called : String}
    (other : called ≠ "self") (named : allowed ⟨called, true⟩) {arguments : List Tokens}
    (silent : ∀ argument ∈ arguments, selfMembers argument = []) :
    Within allowed (callOn (word name) called arguments) := by
  have none : arguments.flatMap selfMembers = [] := List.flatMap_eq_nil_iff.mpr silent
  by_cases same : name = "self"
  · have builder : word name = self := congrArg word same
    simpa [within_iff, builder, none] using named
  · simp [within_iff, same, other, none]

theorem within_asyncBody {allowed : SelfMember → Prop} (name : String)
    (execute : allowed ⟨"execute", true⟩)
    (notified : ∀ called ∈ ["on_start", "on_success", "on_error"], allowed ⟨called, true⟩) :
    Within allowed (asyncBody (word name)) := by
  have started : Within allowed (callOn (word name) "on_start" []) :=
    within_callOn_word name (by decide) (notified _ (by simp)) (by simp)
  have succeeded : Within allowed (callOn (word name) "on_success" [word "response"]) :=
    within_callOn_word name (by decide) (notified _ (by simp)) (by simp)
  have failed : Within allowed (callOn (word name) "on_error" [shown (word "err")]) :=
    within_callOn_word name (by decide) (notified _ (by simp)) (by simp)
  simp_all [within_iff, asyncBody, or_imp]

/-! A function has its attributes, its visibility and its signature before its body. -/

theorem closed_attributesTokens (attributes : List Attribute) : Closed (attributesTokens attributes) := by
  induction attributes with
  | nil => exact closed_nil
  | cons single rest ih => exact (closed_concat rfl _).append ih

theorem within_attributesTokens {allowed : SelfMember → Prop} {attributes : List Attribute}
    (each : ∀ single ∈ attributes, Within allowed single.tokens) :
    Within allowed (attributesTokens attributes) := by
  induction attributes with
  | nil => exact nofun
  | cons single rest ih =>
    obtain ⟨first, others⟩ := List.forall_mem_cons.mp each
    have closed : Closed single.tokens := closed_concat rfl _
    exact (within_append_iff closed _).mpr ⟨first, ih others⟩

theorem closed_visibility (visibility : Visibility) : Closed visibility.tokens := by
  cases visibility with
  | inherited => exact closed_nil
  | everywhere => exact closed_word (by decide)
  | inside keyword path => exact closed_concat rfl _

theorem within_function {allowed : SelfMember → Prop} {attributes : List Attribute}
    {visibility : Visibility} {signature : Signature} {body : Tokens}
    (documented : ∀ single ∈ attributes, Within allowed single.tokens)
    (visible : Within allowed visibility.tokens) (declared : Within allowed signature.tokens)
    (inside : Within allowed body) :
    Within allowed (function attributes visibility signature body).tokens := by
  have outer : Within allowed (outerOnly attributes) :=
    within_attributesTokens fun single member => documented single (List.mem_filter.mp member).1
  have inner : Within allowed (innerOnly attributes) :=
    within_attributesTokens fun single member => documented single (List.mem_filter.mp member).1
  have outerClosed : Closed (outerOnly attributes) := closed_attributesTokens _
  have innerClosed : Closed (innerOnly attributes) := closed_attributesTokens _
  have visibleClosed := closed_visibility visibility
  simp_all [within_iff, FunctionDeclaration.tokens, function, given, or_imp]

theorem within_documented {allowed : SelfMember → Prop} (sentence : String) :
    Within allowed (documented sentence).tokens := by
  simp [within_iff, documented, Attribute.tokens, AttributeBody.tokens, given, brackets]

theorem within_allowing {allowed : SelfMember → Prop} (lint : String) :
    Within allowed (allowing lint).tokens := by
  simp [within_iff, allowing, Attribute.tokens, AttributeBody.tokens, given, brackets]

theorem within_plainSignature {allowed : SelfMember → Prop} {name : String} (other : name ≠ "self")
    {inputs : List Input} (output : Option Ty) (each : ∀ input ∈ inputs, Within allowed input.tokens)
    (result : Within allowed (outputTokens output)) :
    Within allowed (plainSignature name inputs output).tokens := by
  have inner : Within allowed (commaList (inputs.map Input.tokens) false) := by
    simp only [within_iff, selfMembers_commaList, List.mem_flatMap, List.mem_map]
    rintro member ⟨_, ⟨input, among, rfl⟩, named⟩
    exact each input among member named
  have spelling : (plainSignature name inputs output).tokens =
      word "fn" ++ word name ++ parens (commaList (inputs.map Input.tokens) false)
        ++ outputTokens output := by
    have parameters : Generics.empty.tokens = [] := rfl
    have constraints : Generics.empty.whereTokens = [] := rfl
    simp [Signature.tokens, plainSignature, parameters, constraints, conventionTokens, given, inputsOf]
  have named : Closed (word "fn" ++ word name) := (closed_word (by decide)).append (closed_word other)
  have silent : Within allowed (word "fn" ++ word name) := by simp [within_iff]
  have listed : Within allowed (parens (commaList (inputs.map Input.tokens) false)) := by
    simpa only [within_iff, selfMembers_parens] using inner
  rw [spelling, within_append_iff (named.append (closed_parens _)), within_append_iff named]
  exact ⟨⟨silent, listed⟩, result⟩

theorem within_sharedSelf {allowed : SelfMember → Prop} : Within allowed sharedSelf.tokens := by
  simp [within_iff, sharedSelf, Input.tokens, Receiver.tokens, attributesTokens, given]

theorem within_parameter {allowed : SelfMember → Prop} {name : String} {type : Tokens}
    (typed : Within allowed type) : Within allowed (parameter name type).tokens := by
  have apart : (operator ":" ++ type).startsApart = true := by simp [operator, operatorOf, startsApart]
  have spelling : (parameter name type).tokens = word name ++ (operator ":" ++ type) := rfl
  simpa [within_iff, spelling, apart] using typed

theorem within_output {allowed : SelfMember → Prop} {type : Ty} (typed : Within allowed type.tokens) :
    Within allowed (outputTokens (some type)) := by
  simpa [within_iff, outputTokens] using typed

theorem within_result {allowed : SelfMember → Prop} {runtime : Path} {value : Tokens}
    (spelled : Within allowed runtime.tokens) (held : Within allowed value) :
    Within allowed (result runtime value) := by
  simp_all [within_iff, result, or_imp]

theorem selfMembers_ofName (name : String) : selfMembers (Ty.path (.ofName name)).tokens = [] := by
  have spelling : (Ty.path (.ofName name)).tokens = word name := by
    simp [Ty.tokens, Path.ofName, Path.tokens, segmentsTokens, Segment.tokens, Arguments.tokens,
      separated, given]
  simp [spelling]

theorem within_initialFields {endpoint : Endpoint} {runtime : Path} {allowed : SelfMember → Prop}
    (spelled : Within allowed runtime.tokens) :
    Within allowed (initialFields endpoint runtime) := by
  simp only [within_iff, initialFields, selfMembers_commaList, List.mem_flatMap, List.mem_map]
  rintro member ⟨_, ⟨kind, _, rfl⟩, named⟩
  have apart : (operator ":" ++ initial kind runtime).startsApart = true := by
    simp [operator, operatorOf, startsApart]
  have value : selfMembers (word kind.field ++ operator ":" ++ initial kind runtime) =
      selfMembers (initial kind runtime) := by simp [kind.field_ne_self]
  rw [value] at named
  have own : member ∈ selfMembers runtime.tokens := by cases kind <;> simp_all [initial, Builder.map]
  exact spelled member own

end Builder

end Endpoints
