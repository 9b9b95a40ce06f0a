import Endpoints.Proofs.TypeFormsReadBack

/-! Structural types that are read are read back: what a type is read as tells its form, and where the types in it are
read back, so is the type. -/

namespace Endpoints
open Reader

variable {nested again : Nested} {plus more : Bool} {tokens rest : Tokens}

theorem gives_functionType (binder : Tokens) :
    Gives (fun ty => ty.isStructural = false) (functionType nested binder) :=
  gives_bind fun _ => gives_bind fun _ => gives_bind fun _ => gives_bind fun _ => gives_pure rfl

theorem of_pathType {ty : Ty} (read : pathType nested false tokens = .ok (ty, rest)) :
    (∃ path, ty = .path path ∧ Endpoints.path nested false tokens = .ok (path, rest)) ∨
      ∃ self ofTrait segments, ty = .qualified self ofTrait segments := by
  obtain continued | continued := of_operator?_ite read
  · have qualified : Gives (fun found => ∃ self ofTrait segments, found = Ty.qualified self ofTrait segments) (do
        let self ← nested.type true
        let ofTrait ← if ← word? "as" then pure (some (← Endpoints.path nested false)) else pure none
        operator ">"
        operator "::"
        let segments ← chain "::" (fun _ => true) (segment nested false)
        return .qualified self ofTrait segments.items) := by
      refine gives_bind fun self => gives_bind fun _ => ?_
      have later (ofTrait : Option Path) : Gives (fun found => ∃ self ofTrait segments,
          found = Ty.qualified self ofTrait segments) (do
            operator ">"
            operator "::"
            let segments ← chain "::" (fun _ => true) (segment nested false)
            return .qualified self ofTrait segments.items) :=
        gives_bind fun _ => gives_bind fun _ => gives_bind fun _ => gives_pure ⟨_, _, _, rfl⟩
      exact gives_ite (gives_bind fun _ => gives_bind later) (gives_bind later)
    exact .inr (qualified _ _ _ continued)
  · obtain ⟨path, _, taken, made⟩ := bind_eq_ok_iff.mp continued
    cases made
    exact .inl ⟨path, rfl, taken⟩

/-- A structural type that starts with a path is that path, without a binder before it. -/
theorem of_namedType {binder : Tokens} {ty : Ty} (structural : ty.isStructural = true)
    (read : namedType nested binder plus tokens = .ok (ty, rest)) :
    binder = [] ∧ ∃ path, ty = .path path ∧ Endpoints.path nested false tokens = .ok (path, rest) := by
  obtain ⟨found, after, taken, read⟩ := bind_eq_ok_iff.mp read
  obtain ⟨path, rfl, spelled⟩ | ⟨_, _, _, rfl⟩ := of_pathType taken
  · obtain ⟨called, _, looked, read⟩ := bind_eq_ok_iff.mp read
    cases looked
    split at read
    · obtain ⟨_, _, -, read⟩ := bind_eq_ok_iff.mp read
      obtain ⟨⟨_, _⟩, _, -, read⟩ := bind_eq_ok_iff.mp read
      cases read
      cases structural
    obtain ⟨joined, _, looked, read⟩ := bind_eq_ok_iff.mp read
    cases looked
    split at read
    · split at read
      · obtain ⟨_, _, -, read⟩ := bind_eq_ok_iff.mp read
        cases read
        cases structural
      · obtain ⟨_, _, -, read⟩ := bind_eq_ok_iff.mp read
        cases read
        cases structural
    next alone =>
      cases read
      simp only [Bool.or_eq_true, Bool.not_eq_true', not_or, Bool.not_eq_false, List.isEmpty_iff] at alone
      exact ⟨alone.1, path, rfl, spelled⟩
  · cases read
    cases structural

/-- A reference after its sign. -/
def referenceType (nested : Nested) : Reader Ty := do
  let name ← lifetime?
  let mutable ← word? "mut"
  return .reference name mutable (← nested.type false)

/-- A type that no binder stands before. -/
def bareType (nested : Nested) (plus : Bool) : Reader Ty := do
  if ← ahead (Tokens.startsGroup .parenthesis) then parenthesizedType nested plus
  else if ← ahead fun tokens => ["fn", "unsafe", "extern"].any (tokens.startsWord ·) then functionType nested []
  else if ← ahead startsNamed then namedType nested [] plus
  else if ← word? "dyn" then dynamicType nested plus
  else if ← ahead (Tokens.startsGroup .bracket) then group .bracket (bracketedType nested)
  else if ← operator? "*" then
    let mutable ← pointerMutability
    return .pointer mutable (← nested.type false)
  else if ← operator? "&" then referenceType nested
  else if ← ahead fun tokens => tokens.startsOperator "!" && !tokens.startsOperator "=" then
    operator "!"
    return .never
  else if ← word? "impl" then opaqueType nested plus
  else if ← word? "_" then return .inferred
  else if ← ahead Tokens.startsLifetime then
    let bounds ← objectBounds nested true
    return .traitObject false bounds.items bounds.trailing
  else fail typeOpenings

theorem type_eq_bareType (free : tokens.startsWord "for" = false) :
    type nested plus tokens = bareType nested plus tokens := by
  refine bind_of_ok (ahead_of free) ?_
  exact bind_of_ok (binder_absent free) rfl

theorem startsNamed_of_followsBinder (follows : followsBinder tokens = true) :
    (["fn", "unsafe", "extern"].any fun word => tokens.startsWord word) = true ∨ startsNamed tokens = true := by
  match tokens with
  | .ident name :: rest =>
    have known : ∀ word ∈ ["fn", "unsafe", "extern", "super", "self", "Self", "crate"],
        (["fn", "unsafe", "extern"].any fun other => Tokens.startsWord other [.ident word]) = true ∨
          startsNamed [.ident word] = true := by decide
    obtain isName | isWord := Bool.or_eq_true_iff.mp follows
    · refine .inr ?_
      rw [startsNamed, isName]
      rfl
    · obtain ⟨word, member, same⟩ := List.any_eq_true.mp isWord
      obtain rfl : name = word := eq_of_beq same
      exact known name member
  | [] | .literal _ :: _ | .group _ _ :: _ | .punct _ _ :: _ => cases follows

theorem type_bound {binding after : Tokens} (bound : tokens.startsWord "for" = true)
    (read : binder nested tokens = .ok (binding, after)) (follows : followsBinder after = true) :
    type nested plus tokens = functionType nested binding after ∨
      type nested plus tokens = namedType nested binding plus after := by
  cases called : ["fn", "unsafe", "extern"].any fun word => after.startsWord word with
  | true =>
    refine .inl (bind_of_ok (ahead_of bound) (bind_of_ok read (bind_of_ok (ahead_of follows) ?_)))
    exact bind_of_ok rfl (bind_of_ok (ahead_of called) rfl)
  | false =>
    have named := (startsNamed_of_followsBinder follows).resolve_left fun found =>
      absurd (called.symm.trans found) (by decide)
    refine .inr (bind_of_ok (ahead_of bound) (bind_of_ok read (bind_of_ok (ahead_of follows) ?_)))
    exact bind_of_ok rfl (bind_of_ok (ahead_of called) (bind_of_ok (ahead_of named) rfl))

/-- No binder stands before a structural type. -/
theorem bareType_of_type {ty : Ty} (structural : ty.isStructural = true)
    (read : type nested plus tokens = .ok (ty, rest)) : bareType nested plus tokens = .ok (ty, rest) := by
  cases bound : tokens.startsWord "for" with
  | false => rwa [← type_eq_bareType bound]
  | true =>
    have whole := read
    obtain ⟨_, _, looked, read⟩ := bind_eq_ok_iff.mp read
    cases (of_ahead looked).2
    obtain ⟨binding, after, given, read⟩ := bind_eq_ok_iff.mp read
    have filled : binding ≠ [] := by
      rintro rfl
      exact absurd (bound.symm.trans (of_binder given).1) (by decide)
    cases follows : followsBinder after with
    | true =>
      obtain called | named := @type_bound nested plus tokens binding after bound given follows
      · rw [gives_functionType _ _ _ _ (called.symm.trans whole)] at structural
        cases structural
      · exact absurd (of_namedType structural (named.symm.trans whole)).1 filled
    | false =>
      have refused : type nested plus tokens = .error ⟨after.isEmpty, "expected identifier"⟩ :=
        bind_of_ok (ahead_of bound) (bind_of_ok given (bind_of_ok (ahead_of follows) rfl))
      cases refused.symm.trans whole

theorem leaves_pointerMutability : Leaves pointerMutability := by
  refine (leaves_word? "const").bind fun isConst => ?_
  split
  · exact leaves_pure false
  · refine (leaves_word? "mut").bind fun isMut => ?_
    split
    · exact leaves_pure true
    · exact leaves_fail _

/-- Types in parentheses that make a structural type are one in parentheses or a tuple. -/
theorem of_enclosedType {elements : Separated Ty} {ty : Ty} (structural : ty.isStructural = true)
    (read : enclosedType nested plus elements tokens = .ok (ty, rest)) :
    rest = tokens ∧
      ((∃ inner, elements = ⟨[inner], false⟩ ∧ ty = .paren inner) ∨ ty = .tuple elements.items elements.trailing) := by
  unfold enclosedType at read
  split at read
  next inner =>
    obtain ⟨joined, _, looked, made⟩ := bind_eq_ok_iff.mp read
    cases (of_ahead looked).2
    cases joined with
    | true =>
      cases first : parenthesizedBound? inner with
      | some bound =>
        rw [first] at made
        obtain ⟨_, _, -, made⟩ := bind_eq_ok_iff.mp made
        cases made
        cases structural
      | none =>
        rw [first] at made
        cases made
        exact ⟨rfl, .inl ⟨inner, rfl, rfl⟩⟩
    | false =>
      cases made
      exact ⟨rfl, .inl ⟨inner, rfl, rfl⟩⟩
  next =>
    cases read
    exact ⟨rfl, .inr rfl⟩

theorem of_objectBounds {found : Separated Bound} (read : objectBounds nested plus tokens = .ok (found, rest)) :
    bounds nested plus false false tokens = .ok (found, rest) ∧ found.items.any Bound.isTrait = true := by
  obtain ⟨bounds, between, listed, checked⟩ := bind_eq_ok_iff.mp read
  split at checked
  next some =>
    cases checked
    exact ⟨listed, some⟩
  next =>
    obtain ⟨_, _, failed, -⟩ := bind_eq_ok_iff.mp checked
    cases failed

variable (faithful : Faithful nested again)
include faithful

theorem Faithful.parenthesizedType {ty : Ty} (worded : tokens.Worded) (structural : ty.isStructural = true)
    (read : Endpoints.parenthesizedType nested plus tokens = .ok (ty, rest)) :
    ty.IsReread (Endpoints.type again) more ∧ rest.Worded := by
  obtain ⟨content, after, held, chosen⟩ := bind_eq_ok_iff.mp read
  clear read
  obtain rfl : tokens = .group .parenthesis content :: after := by
    unfold rawGroup at held
    split at held
    · split at held
      next same =>
        cases held
        rw [same]
      next => cases held
    · cases held
  split at chosen
  · cases chosen
    exact ⟨isReread_tuple (List.forall_mem_nil _) false, worded.tail⟩
  split at chosen
  · obtain ⟨_, _, -, chosen⟩ := bind_eq_ok_iff.mp chosen
    cases chosen
    cases structural
  split at chosen
  · obtain ⟨_, _, -, chosen⟩ := bind_eq_ok_iff.mp chosen
    obtain ⟨_, _, -, chosen⟩ := bind_eq_ok_iff.mp chosen
    cases chosen
    cases structural
  obtain ⟨elements, left, inside, made⟩ := bind_eq_ok_iff.mp chosen
  obtain ⟨listed, rfl⟩ : commaList (nested.type true) content = .ok (elements, []) ∧ left = after := by
    unfold within at inside
    split at inside <;> cases inside
    next listed => exact ⟨listed, rfl⟩
  have each (structural : ∀ element ∈ elements.items, element.isStructural = true) :
      ∀ element ∈ elements.items, element.IsReread again.type true :=
    (each_of_separatedUntil faithful.type worded.content structural listed).1
  obtain ⟨rfl, ⟨inner, rfl, rfl⟩ | rfl⟩ := of_enclosedType structural made
  · have one := each (List.forall_mem_singleton.mpr structural)
    exact ⟨isReread_paren (List.forall_mem_singleton.mp one), worded.tail⟩
  · exact ⟨isReread_tuple (each (typesStructural_iff.mp structural)) _, worded.tail⟩

theorem Faithful.dynamicType (wider : plus = true → more = true) {ty : Ty} (worded : tokens.Worded)
    (structural : ty.isStructural = true) (read : Endpoints.dynamicType nested plus tokens = .ok (ty, rest)) :
    ty.IsReread (Endpoints.type again) more ∧ rest.Worded := by
  obtain ⟨⟨⟨pointer, found⟩, taken⟩, _, held, read⟩ := bind_eq_ok_iff.mp read
  obtain ⟨_, after, marked, held⟩ := bind_eq_ok_iff.mp (of_withTokens held)
  obtain ⟨bounds, _, listed, held⟩ := bind_eq_ok_iff.mp held
  cases held
  cases pointer with
  | true =>
    cases read
    cases structural
  | false =>
    cases read
    obtain ⟨listed, some⟩ := of_objectBounds listed
    obtain ⟨reread, left⟩ := faithful.bounds wider (worded.left (leaves_operator? "*") marked) structural listed
    exact ⟨isReread_traitObject some reread _, left⟩

theorem Faithful.opaqueType (wider : plus = true → more = true) {ty : Ty} (worded : tokens.Worded)
    (structural : ty.isStructural = true) (read : Endpoints.opaqueType nested plus tokens = .ok (ty, rest)) :
    ty.IsReread (Endpoints.type again) more ∧ rest.Worded := by
  obtain ⟨found, between, listed, read⟩ := bind_eq_ok_iff.mp read
  split at read
  next some =>
    cases read
    obtain ⟨reread, left⟩ := faithful.bounds wider worded structural listed
    exact ⟨isReread_implementing some reread _, left⟩
  next =>
    obtain ⟨_, _, failed, -⟩ := bind_eq_ok_iff.mp read
    cases failed

theorem Faithful.bracketedType {ty : Ty} (worded : tokens.Worded) (structural : ty.isStructural = true)
    (read : Endpoints.bracketedType nested tokens = .ok (ty, rest)) : ty.IsReread (Endpoints.type again) more := by
  obtain ⟨element, after, taken, read⟩ := bind_eq_ok_iff.mp read
  obtain read | read := of_operator?_ite read
  · obtain ⟨length, _, counted, read⟩ := bind_eq_ok_iff.mp read
    cases read
    simp only [Ty.isStructural, Bool.and_eq_true] at structural
    have number : again.expression length = .ok (length, []) := by
      have whole := structural.2
      unfold Tokens.isWholeNumber at whole
      split at whole
      next => exact faithful.number counted whole
      next => cases whole
    exact isReread_array structural.2 number (faithful.type worded structural.1 taken).1
  · cases read
    have inner : element.isStructural = true := structural
    exact isReread_slice (faithful.type worded inner taken).1

theorem Faithful.referenceType {ty : Ty} (worded : tokens.Worded) (structural : ty.isStructural = true)
    (read : Endpoints.referenceType nested tokens = .ok (ty, rest)) :
    ty.IsReread (Endpoints.type again) more ∧ rest.Worded := by
  obtain ⟨lifetime, after, told, read⟩ := bind_eq_ok_iff.mp read
  obtain ⟨mutable, behind, marked, read⟩ := bind_eq_ok_iff.mp read
  obtain ⟨target, _, taken, read⟩ := bind_eq_ok_iff.mp read
  cases read
  have words : (∀ name ∈ lifetime, Lexer.IsWord name) ∧ after.Worded := by
    obtain ⟨-, told⟩ | ⟨-, told⟩ := of_ahead_ite told
    · obtain ⟨name, _, named, told⟩ := bind_eq_ok_iff.mp told
      cases told
      obtain rfl := of_lifetime named
      exact ⟨fun _ same => Option.some.inj same ▸ worded.tail.isWord, worded.tail.tail⟩
    · cases told
      exact ⟨nofun, worded⟩
  have inner : target.isStructural = true := structural
  obtain ⟨reread, left⟩ := faithful.type (words.2.left (leaves_word? "mut") marked) inner taken
  exact ⟨isReread_reference words.1 mutable reread, left⟩

theorem Faithful.bareType (wider : plus = true → more = true) {ty : Ty} (worded : tokens.Worded)
    (structural : ty.isStructural = true) (read : Endpoints.bareType nested plus tokens = .ok (ty, rest)) :
    ty.IsReread (Endpoints.type again) more ∧ rest.Worded := by
  obtain ⟨-, read⟩ | ⟨-, read⟩ := of_ahead_ite read
  · exact faithful.parenthesizedType worded structural read
  obtain ⟨-, read⟩ | ⟨-, read⟩ := of_ahead_ite read
  · rw [gives_functionType _ _ _ _ read] at structural
    cases structural
  obtain ⟨named, read⟩ | ⟨-, read⟩ := of_ahead_ite read
  · obtain ⟨-, path, rfl, taken⟩ := of_namedType structural read
    obtain ⟨reread, left⟩ := faithful.path worded structural taken
    exact ⟨isReread_path named reread, left⟩
  obtain read | read := of_word?_ite read
  · exact faithful.dynamicType wider (worded.of_subset (List.drop_subset 1 tokens)) structural read
  obtain ⟨-, read⟩ | ⟨-, read⟩ := of_ahead_ite read
  · obtain ⟨content, rfl, held⟩ := group_eq_ok_iff.mp read
    exact ⟨faithful.bracketedType worded.content structural held, worded.tail⟩
  obtain read | read := of_operator?_ite read
  · obtain ⟨mutable, after, told, read⟩ := bind_eq_ok_iff.mp read
    obtain ⟨target, _, taken, read⟩ := bind_eq_ok_iff.mp read
    cases read
    have left := (worded.of_subset (List.drop_subset _ _)).left leaves_pointerMutability told
    have inner : target.isStructural = true := structural
    obtain ⟨reread, last⟩ := faithful.type left inner taken
    exact ⟨isReread_pointer mutable reread, last⟩
  obtain read | read := of_operator?_ite read
  · exact faithful.referenceType (worded.of_subset (List.drop_subset _ _)) structural read
  obtain ⟨-, read⟩ | ⟨-, read⟩ := of_ahead_ite read
  · obtain ⟨_, _, marked, read⟩ := bind_eq_ok_iff.mp read
    cases read
    exact ⟨isReread_never, worded.left (leaves_operator "!") marked⟩
  obtain read | read := of_word?_ite read
  · exact faithful.opaqueType wider (worded.of_subset (List.drop_subset 1 tokens)) structural read
  obtain read | read := of_word?_ite read
  · cases read
    exact ⟨isReread_inferred, worded.of_subset (List.drop_subset 1 tokens)⟩
  obtain ⟨-, read⟩ | ⟨-, read⟩ := of_ahead_ite read
  · obtain ⟨_, _, -, read⟩ := bind_eq_ok_iff.mp read
    cases read
    cases structural
  · cases read

end Endpoints
