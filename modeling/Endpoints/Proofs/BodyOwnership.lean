import Endpoints.Proofs.EndpointContents

/-! Bodies that are owned through and through. A trait is refused for a body that is borrowed or opaque at its
outside, and accepted for every other one, whatever its parts are. The builder declares no generics, so a part that
is borrowed or opaque leaves its field without a parameter that it needs. -/

namespace Endpoints

def Argument.type? : Argument → Option Ty
  | .type inner => some inner
  | _ => none

def Segment.typeArguments (segment : Segment) : List Ty :=
  match segment.arguments with
  | .angle _ arguments _ => arguments.filterMap Argument.type?
  | _ => []

namespace Ty

/-- The types right below a type: in parentheses, in a tuple, an array or a slice, behind a pointer, or among arguments
in angle brackets. -/
def parts : Ty → List Ty
  | .array element _ | .slice element => [element]
  | .paren inner => [inner]
  | .pointer _ target => [target]
  | .tuple elements _ => elements
  | .path named => named.segments.flatMap Segment.typeArguments
  | .qualified _ ofTrait segments =>
    (ofTrait.toList.flatMap Path.segments ++ segments).flatMap Segment.typeArguments
  | _ => []

/-- A type that is another one or stands below it. -/
inductive Within (part : Ty) : Ty → Prop where
  | self : Within part part
  | through {inner whole : Ty} (direct : inner ∈ whole.parts) (within : Within part inner) : Within part whole

/-- A type that needs a parameter of what holds it: a lifetime, or a type. -/
def IsBorrow : Ty → Prop
  | .reference lifetime .. => lifetime ≠ some "static"
  | .implementing .. => True
  | _ => False

instance decidableIsBorrow (ty : Ty) : Decidable ty.IsBorrow :=
  match ty with
  | .reference lifetime .. => inferInstanceAs (Decidable (lifetime ≠ some "static"))
  | .implementing .. => .isTrue trivial
  | .array .. | .function .. | .inferred | .never | .paren _ | .path _ | .qualified .. | .pointer .. | .slice _
  | .traitObject .. | .tuple .. | .call .. | .verbatim _ => .isFalse nofun

def Owned (ty : Ty) : Prop := ∀ part, Within part ty → ¬ part.IsBorrow

end Ty

mutual

def Ty.borrows : Ty → List Ty
  | .reference lifetime mutable target =>
    if lifetime = some "static" then [] else [.reference lifetime mutable target]
  | .implementing bounds trailing => [.implementing bounds trailing]
  | .array element _ | .slice element => element.borrows
  | .paren inner => inner.borrows
  | .pointer _ target => target.borrows
  | .tuple elements _ => typesBorrows elements
  | .path path => path.borrows
  | .qualified _ none segments => segmentsBorrows segments
  | .qualified _ (some ofTrait) segments => ofTrait.borrows ++ segmentsBorrows segments
  | _ => []

def typesBorrows : List Ty → List Ty
  | [] => []
  | type :: rest => type.borrows ++ typesBorrows rest

def Path.borrows : Path → List Ty
  | .mk _ segments => segmentsBorrows segments

def segmentsBorrows : List Segment → List Ty
  | [] => []
  | segment :: rest => segment.borrows ++ segmentsBorrows rest

def Segment.borrows : Segment → List Ty
  | .mk _ arguments => arguments.borrows

def Arguments.borrows : Arguments → List Ty
  | .angle _ arguments _ => argumentsBorrows arguments
  | _ => []

def argumentsBorrows : List Argument → List Ty
  | [] => []
  | argument :: rest => argument.borrows ++ argumentsBorrows rest

def Argument.borrows : Argument → List Ty
  | .type type => type.borrows
  | _ => []

end

theorem typesBorrows_eq (types : List Ty) : typesBorrows types = types.flatMap Ty.borrows := by
  induction types with
  | nil => rfl
  | cons type rest ih => rw [typesBorrows, ih, List.flatMap_cons]

theorem argumentsBorrows_eq (arguments : List Argument) :
    argumentsBorrows arguments = (arguments.filterMap Argument.type?).flatMap Ty.borrows := by
  induction arguments with
  | nil => rfl
  | cons argument rest ih =>
    rw [argumentsBorrows, ih]
    cases argument <;> simp [Argument.borrows, Argument.type?, List.filterMap_cons]

theorem Segment.borrows_eq (segment : Segment) : segment.borrows = segment.typeArguments.flatMap Ty.borrows := by
  obtain ⟨name, arguments⟩ := segment
  cases arguments with
  | none => rfl
  | angle turbofish arguments trailing => exact argumentsBorrows_eq arguments
  | call inputs trailing output => rfl

theorem segmentsBorrows_eq (segments : List Segment) :
    segmentsBorrows segments = (segments.flatMap Segment.typeArguments).flatMap Ty.borrows := by
  induction segments with
  | nil => rfl
  | cons segment rest ih =>
    rw [segmentsBorrows, ih, List.flatMap_cons, List.flatMap_append, Segment.borrows_eq]

theorem Path.borrows_eq (path : Path) : path.borrows = segmentsBorrows path.segments := by
  cases path
  rfl

namespace Ty

/-- The borrowed types in a type are the type itself, if it is one, and those in the types right below it. -/
theorem borrows_eq (ty : Ty) :
    ty.borrows = (if ty.IsBorrow then [ty] else []) ++ ty.parts.flatMap borrows := by
  cases ty with
  | reference lifetime mutable target =>
    by_cases lasting : lifetime = some "static" <;> simp [borrows, parts, IsBorrow, lasting]
  | path named => simp [borrows, parts, IsBorrow, Path.borrows_eq, segmentsBorrows_eq]
  | qualified self ofTrait segments =>
    cases ofTrait <;> simp [borrows, parts, IsBorrow, Path.borrows_eq, segmentsBorrows_eq]
  | tuple elements trailing => simp [borrows, parts, IsBorrow, typesBorrows_eq]
  | _ => simp [borrows, parts, IsBorrow]

theorem sizeOf_lt_of_mem_parts {part whole : Ty} (direct : part ∈ whole.parts) : sizeOf part < sizeOf whole := by
  have inArguments (segments : List Segment) (direct : part ∈ segments.flatMap Segment.typeArguments) :
      sizeOf part < sizeOf segments := by
    obtain ⟨⟨name, arguments⟩, among, direct⟩ := List.mem_flatMap.mp direct
    have first := List.sizeOf_lt_of_mem among
    cases arguments with
    | angle turbofish arguments trailing =>
      obtain ⟨argument, given, typed⟩ := List.mem_filterMap.mp direct
      have second := List.sizeOf_lt_of_mem given
      cases argument <;> simp [Argument.type?] at typed
      subst typed
      simp at first second
      omega
    | _ => simp [Segment.typeArguments, Segment.arguments] at direct
  cases whole with
  | path named =>
    obtain ⟨isGlobal, segments⟩ := named
    have smaller := inArguments segments direct
    simp
    omega
  | qualified self ofTrait segments =>
    cases ofTrait with
    | none =>
      have smaller := inArguments segments direct
      simp
      omega
    | some named =>
      obtain ⟨isGlobal, others⟩ := named
      rw [parts, List.flatMap_append, List.mem_append] at direct
      rcases direct with inTrait | inItem
      · have smaller := inArguments others (by simpa [Path.segments] using inTrait)
        simp
        omega
      · have smaller := inArguments segments inItem
        simp
        omega
  | tuple elements trailing =>
    have smaller : sizeOf part < sizeOf elements := List.sizeOf_lt_of_mem direct
    simp
    omega
  | array | slice | paren | pointer =>
    obtain rfl := List.mem_singleton.mp direct
    simp
    try omega
  | _ => cases direct

theorem mem_borrows_iff {part ty : Ty} : part ∈ ty.borrows ↔ Within part ty ∧ part.IsBorrow := by
  constructor
  · -- By induction on the size of the type, since its parts are spread over several kinds of nodes.
    induction size : sizeOf ty using Nat.strongRecOn generalizing ty with
    | ind size ih =>
      subst size
      rw [borrows_eq, List.mem_append, List.mem_flatMap]
      rintro (self | ⟨inner, direct, borrowed⟩)
      · split at self
        next borrow =>
          obtain rfl := List.mem_singleton.mp self
          exact ⟨.self, borrow⟩
        next => cases self
      · obtain ⟨within, borrow⟩ := ih _ (sizeOf_lt_of_mem_parts direct) rfl borrowed
        exact ⟨.through direct within, borrow⟩
  · rintro ⟨within, borrow⟩
    induction within with
    | self => simp [borrows_eq part, borrow]
    | through direct _ ih =>
      rw [borrows_eq, List.mem_append, List.mem_flatMap]
      exact .inr ⟨_, direct, ih⟩

theorem owned_iff {ty : Ty} : ty.Owned ↔ ty.borrows = [] := by
  simp only [Owned, List.eq_nil_iff_forall_not_mem, mem_borrows_iff, not_and]

instance decidableOwned (ty : Ty) : Decidable ty.Owned :=
  decidable_of_iff (ty.borrows.isEmpty = true) (List.isEmpty_iff.trans owned_iff.symm)

theorem owned_iff_parts {ty : Ty} (outside : ¬ ty.IsBorrow) : ty.Owned ↔ ∀ part ∈ ty.parts, part.Owned := by
  simp [owned_iff, borrows_eq ty, outside]

end Ty

theorem Borrowed.of_isBorrow {ty : Ty} (borrow : ty.IsBorrow) : Borrowed ty := by
  cases ty with
  | reference lifetime mutable target => exact .inl ⟨_, _, _, rfl⟩
  | implementing bounds trailing => exact .inr ⟨_, _, rfl⟩
  | _ => cases borrow

def optionOf (body : Ty) : Ty :=
  .path (.mk true [.mk "std" .none, .mk "option" .none, .mk "Option" (.angle false [.type body] false)])

theorem optionOf_borrows (body : Ty) : (optionOf body).borrows = body.borrows := by
  simp [optionOf, Ty.borrows, Path.borrows, segmentsBorrows, Segment.borrows, Arguments.borrows, argumentsBorrows,
    Argument.borrows]

theorem optionOf_tokens (body : Ty) :
    (optionOf body).tokens = Builder.applied (Builder.std ["option", "Option"]) [body.tokens] := by
  simp [optionOf, Ty.tokens, Path.tokens, segmentsTokens, Segment.tokens, Arguments.tokens, argumentsTokens,
    Argument.tokens, lifetimesFirst, withCommas, spread, Builder.applied, Builder.std, Builder.joined,
    Tokens.separated, Tokens.commaList, Tokens.given]

namespace Method

theorem role_of_bodyType? {method : Method} {body : Ty} (holds : method.bodyType? = some body) :
    ∃ key, method.role = .binding .body key := by
  unfold bodyType? at holds
  split at holds
  next key role => exact ⟨key, role⟩
  next => cases holds

theorem Accepted.not_borrowed {method : Method} (accepted : method.Accepted) {body : Ty}
    (holds : method.bodyType? = some body) : ¬ Borrowed body := by
  obtain ⟨key, role⟩ := role_of_bodyType? holds
  obtain ⟨first, others, parameters, rfl⟩ := bodyType?_eq_some holds
  have owns := accepted.ownsBody
  rw [role, Role.ownsBody_binding_iff] at owns
  exact owns rfl first (by rw [parameters]; rfl)

end Method

namespace Endpoint

/-- How an endpoint holds its body. -/
structure HoldsBody (endpoint : Endpoint) (body : Ty) : Prop where
  /-- The body is neither a reference, of whatever lifetime, nor opaque at its outside. -/
  outside : ¬ Borrowed body
  /-- It is owned as far as its parts are. -/
  owned : body.Owned ↔ ∀ part ∈ body.parts, part.Owned
  /-- The builder has a field for it, and declares nothing that the types in that field could name. -/
  field : ∀ runtime, (Builder.declaration endpoint runtime).generics = .empty ∧
    ⟨[], .inherited, BindingKind.body.field, .verbatim (optionOf body).tokens⟩ ∈
      (Builder.declaration endpoint runtime).fields.items
  /-- So the field needs what the parts of the body need. -/
  needs : (optionOf body).borrows = body.parts.flatMap Ty.borrows

theorem not_borrowed_of_built {interface : Interface} {endpoint : Endpoint} {body : Ty}
    (built : ofInterface interface = .ok endpoint) (holds : endpoint.bodyType? = some body) : ¬ Borrowed body := by
  obtain ⟨_, accepted, _, _⟩ := methods_of_built built
  obtain ⟨method, among, held⟩ := List.exists_of_findSome?_eq_some holds
  exact (accepted method among).not_borrowed held

theorem body_of_built {declaration : TraitDeclaration} {endpoint : Endpoint} {body : Ty}
    (built : ofInterface (.ofTrait declaration) = .ok endpoint) (holds : endpoint.bodyType? = some body) :
    endpoint.HoldsBody body := by
  obtain ⟨method, among, held⟩ := List.exists_of_findSome?_eq_some holds
  have outside := not_borrowed_of_built built holds
  have bare : ¬ body.IsBorrow := fun borrow => outside (.of_isBorrow borrow)
  have used : endpoint.uses .body = true := by
    obtain ⟨key, role⟩ := Method.role_of_bodyType? held
    exact uses_iff.mpr ⟨method, among, key, role⟩
  refine ⟨outside, Ty.owned_iff_parts bare, fun runtime => ⟨rfl, ?_⟩, ?_⟩
  · refine List.mem_map.mpr ⟨.body, by simp [kinds, BindingKind.mem_all, used], ?_⟩
    simp [Builder.fieldType, holds, optionOf_tokens]
  · rw [optionOf_borrows, Ty.borrows_eq, if_neg bare, List.nil_append]

end Endpoint

/-- A method that sets the body from a value of some type. -/
def photoSignature (body : Ty) : Signature :=
  Builder.plainSignature "photo"
    [.receiver ⟨[], none, false, none⟩, .parameter [] (.name false false "photo" none) body] (some selfTy)

def runSignature : Signature :=
  Builder.plainSignature "run" [.receiver ⟨[], none, false, none⟩]
    (some (.path (.mk false [.mk "Result" (.angle false
      [.type (.path (.ofName "Photo")), .type (.path (.ofName "Error"))] false)])))

def uploadTrait (body : Ty) : TraitDeclaration where
  attributes := [Builder.documented "@POST(\"/photos\")"]
  visibility := .inherited
  isUnsafe := false
  isAuto := false
  name := "Upload"
  generics := .empty
  supertraits := .nil
  items := [.method ⟨[Builder.documented "@BODY"], photoSignature body, none⟩,
    .method ⟨[Builder.documented "@SYNC(\"Photo\")"], runSignature, none⟩]

namespace Endpoint

theorem exists_upload {body : Ty} (outside : ¬ Borrowed body) :
    ∃ endpoint, ofInterface (.ofTrait (uploadTrait body)) = .ok endpoint ∧ endpoint.bodyType? = some body := by
  have named : (Interface.ofTrait (uploadTrait body)).NamesEndpoint .post "/photos" :=
    ⟨"@POST(\"/photos\")", show (Documentation.ofAttributes [Builder.documented "@POST(\"/photos\")"]).tags = _ by
      decide +kernel, Directive.interpret_of_read ⟨"POST", some "/photos"⟩ (by decide +kernel)⟩
  have sets : AsksFor "@BODY" (.binding .body "") :=
    ⟨_, Directive.interpret_of_read ⟨"BODY", none⟩ (by decide +kernel), rfl⟩
  have waits : AsksFor "@SYNC(\"Photo\")" (.sync (.path (.ofName "Photo"))) :=
    ⟨_, Directive.interpret_of_read ⟨"SYNC", some "Photo"⟩ (by decide +kernel), rfl⟩
  let photo : Method := ⟨"photo", [⟨"photo", body⟩], .binding .body "", .owned, photoSignature body⟩
  let run : Method := ⟨"run", [], .sync (.path (.ofName "Photo")), .owned, runSignature⟩
  have setter : Method.ofInterface "Upload" false (.ofDeclaration
      ⟨[Builder.documented "@BODY"], photoSignature body, none⟩) = .ok (some photo) := by
    refine Method.ofInterface_eq_ok_iff.mpr ⟨_, .tagged ?_ sets,
      .some (Method.ofSignature_eq_ok_iff.mpr ⟨⟨rfl, ?_, .binding .byValue fun _ => rfl, ?_⟩, rfl, rfl⟩)⟩
    · show (Documentation.ofAttributes [Builder.documented "@BODY"]).tags = ["@BODY"]
      decide +kernel
    · exact ⟨rfl, .owned rfl, .cons ⟨_, _, _, rfl⟩ .nil⟩
    · rintro value ⟨⟩
      exact outside
  have terminal : Method.ofInterface "Upload" false (.ofDeclaration
      ⟨[Builder.documented "@SYNC(\"Photo\")"], runSignature, none⟩) = .ok (some run) := by
    refine Method.ofInterface_eq_ok_iff.mpr ⟨_, .tagged (by decide +kernel) waits,
      .some (Method.ofSignature_eq_ok_iff.mpr ⟨⟨rfl, ?_, .sync ⟨_, _, _, rfl⟩ rfl, trivial⟩, rfl, rfl⟩)⟩
    exact ⟨rfl, .owned rfl, .nil⟩
  have collected : Method.collect "Upload" false [] (Interface.ofTrait (uploadTrait body)).methods =
      .ok [photo, run] := by
    have once : Role.AtMostOnce [.binding .body "", .sync (.path (.ofName "Photo"))] :=
      ⟨by decide, by decide, by decide⟩
    exact (@Method.collect_eq_ok_iff _ _ _ [] _ (by simp) .nil).mpr
      ⟨[some photo, some run], .cons setter (.cons terminal .nil), rfl, once⟩
  have plain : (uploadTrait body).IsPlain := ⟨rfl, rfl, nofun, by simp [uploadTrait]⟩
  exact ⟨⟨"Upload", .inherited, .post, "/photos", [photo, run]⟩,
    ofInterface_eq_ok_iff.mpr ⟨plain, named, collected, ⟨run, by simp, rfl⟩, rfl, rfl⟩, rfl⟩

theorem exists_body_iff {body : Ty} :
    (∃ declaration endpoint, ofInterface (.ofTrait declaration) = .ok endpoint ∧ endpoint.bodyType? = some body) ↔
      ¬ Borrowed body := by
  constructor
  · rintro ⟨declaration, endpoint, built, holds⟩
    exact not_borrowed_of_built built holds
  · intro outside
    exact ⟨_, exists_upload outside⟩

/-- A text that is optional and lasts, `Option<&'static str>`. -/
def lastingNote : Ty :=
  .path (.mk false [.mk "Option" (.angle false
    [.type (.reference (some "static") false (.path (.ofName "str")))] false)])

theorem lastingNote_held : ∃ endpoint, ofInterface (.ofTrait (uploadTrait lastingNote)) = .ok endpoint ∧
    endpoint.bodyType? = some lastingNote ∧ endpoint.HoldsBody lastingNote ∧ lastingNote.Owned := by
  have outside : ¬ Borrowed lastingNote := Method.isOwnedType_iff.mp rfl
  obtain ⟨endpoint, built, holds⟩ := exists_upload outside
  exact ⟨endpoint, built, holds, body_of_built built holds, by decide⟩

/-- A text that is optional and borrowed, `Option<&str>`. -/
def borrowedNote : Ty :=
  .path (.mk false [.mk "Option" (.angle false [.type (.reference none false (.path (.ofName "str")))] false)])

/-- A body that is borrowed one level down is accepted, and the field for it lacks a lifetime. -/
theorem borrowedNote_accepted : ∃ endpoint, ofInterface (.ofTrait (uploadTrait borrowedNote)) = .ok endpoint ∧
    endpoint.bodyType? = some borrowedNote ∧ ¬ borrowedNote.Owned := by
  have outside : ¬ Borrowed borrowedNote := Method.isOwnedType_iff.mp rfl
  obtain ⟨endpoint, built, holds⟩ := exists_upload outside
  exact ⟨endpoint, built, holds, by decide⟩

end Endpoint
end Endpoints
