import Endpoints.Builder.Items
import Endpoints.Proofs.SettledReading

/-! Reading the headers of generated items. A header ends with a body in braces, and no rule that reads it looks
past them. -/

namespace Endpoints
open Reader

/-- A word that is no keyword. -/
def IsName (word : String) : Prop := Tokens.keywords.contains word = false

theorem isName_of_name {tokens rest : Tokens} {declared : String}
    (read : Reader.name tokens = .ok (declared, rest)) : IsName declared := by
  obtain ⟨-, free⟩ := Reader.name_eq_ok_iff.mp read
  simpa [IsName] using free

/-- A token at which the path of a type ends. -/
inductive Token.EndsPath : Token → Prop where
  | word (name : String) : EndsPath (.ident name)
  | body (content : Tokens) : EndsPath (.group .brace content)

section
variable {declared : String} (isName : IsName declared) (rest : Tokens)
include isName

theorem IsName.name_eq : Reader.name (.ident declared :: rest) = .ok (declared, rest) := by
  exact if_neg (Bool.eq_false_iff.mp isName)

theorem IsName.startsName : Tokens.startsName (.ident declared :: rest) = true := by
  rw [Tokens.startsName, isName]
  rfl

theorem IsName.startsWord {keyword : String} (reserved : Tokens.keywords.contains keyword = true) :
    Tokens.startsWord keyword (.ident declared :: rest) = false := by
  rw [Tokens.startsWord, beq_eq_false_iff_ne]
  rintro rfl
  exact Bool.false_ne_true (isName.symm.trans reserved)

theorem IsName.startsAny {words : List String} (reserved : ∀ word ∈ words, Tokens.keywords.contains word = true) :
    words.any (Tokens.startsWord · (.ident declared :: rest)) = false := by
  rw [List.any_eq_false]
  intro word member
  rw [isName.startsWord rest (reserved word member)]
  exact Bool.false_ne_true

theorem IsName.segment_eq (nested : Nested) {last : Token} (ends : last.EndsPath) :
    segment nested false (.ident declared :: last :: rest) = .ok (.mk declared .none, last :: rest) := by
  refine bind_of_ok (ahead_of (isName.startsAny _ (by decide))) ?_
  refine bind_of_ok (ahead_of (isName.startsWord _ (by decide))) ?_
  refine bind_of_ok (isName.name_eq _) ?_
  cases ends with
  | word name => rfl
  | body content => rfl

theorem IsName.path_eq (nested : Nested) {last : Token} (ends : last.EndsPath) :
    path nested false (.ident declared :: last :: rest) = .ok (.ofName declared, last :: rest) := by
  refine bind_of_ok rfl ?_
  refine bind_of_ok (isName.segment_eq rest nested ends) ?_
  cases ends with
  | word name => rfl
  | body content => rfl

theorem IsName.pathType_eq (nested : Nested) {last : Token} (ends : last.EndsPath) :
    pathType nested false (.ident declared :: last :: rest) = .ok (.path (.ofName declared), last :: rest) :=
  bind_of_ok rfl (bind_of_ok (isName.path_eq rest nested ends) rfl)

theorem IsName.type_eq (nested : Nested) {last : Token} (ends : last.EndsPath) :
    type nested true (.ident declared :: last :: rest) = .ok (.path (.ofName declared), last :: rest) := by
  have starts : (Tokens.startsName (.ident declared :: last :: rest)
      || startsPathWord (.ident declared :: last :: rest)
      || Tokens.startsOperator "::" (.ident declared :: last :: rest)
      || Tokens.startsOperator "<" (.ident declared :: last :: rest)) = true := by
    rw [isName.startsName]
    rfl
  have noBinder : binder nested (.ident declared :: last :: rest) = .ok ([], .ident declared :: last :: rest) := by
    have other : word? "for" (.ident declared :: last :: rest) = .ok (false, .ident declared :: last :: rest) := by
      rw [word?, isName.startsWord _ (by decide)]
      rfl
    exact bind_of_ok other rfl
  refine bind_of_ok (ahead_of (isName.startsWord _ (by decide))) ?_
  refine bind_of_ok noBinder ?_
  refine bind_of_ok rfl ?_
  refine bind_of_ok rfl ?_
  refine bind_of_ok (ahead_of (isName.startsAny _ (by decide))) ?_
  refine bind_of_ok (ahead_of starts) ?_
  refine bind_of_ok (isName.pathType_eq rest nested ends) ?_
  cases ends with
  | word name => rfl
  | body content => rfl

end

/-- Tokens after `impl` that are read as a type, where a word or a body follows. -/
structure HeadsImplementation (tokens : Tokens) : Prop where
  noGenerics : ∀ rest, startsGenerics (tokens ++ rest) = false
  noConst : ∀ rest, (Tokens.startsWord "const" (tokens ++ rest) || Tokens.startsOperator "?" (tokens ++ rest)
    && Tokens.startsWord "const" (Tokens.skip 1 (tokens ++ rest))) = false
  notDenied : ∀ rest, (Tokens.startsOperator "!" (tokens ++ rest)
    && !Tokens.startsGroup .brace (Tokens.skip 1 (tokens ++ rest))) = false
  typed : ∃ path : Path, ∀ (nested : Nested) (last : Token) (rest : Tokens), last.EndsPath →
    type nested true (tokens ++ last :: rest) = .ok (.path path, last :: rest)

theorem IsName.headsImplementation {declared : String} (isName : IsName declared) :
    HeadsImplementation [.ident declared] where
  noGenerics _ := rfl
  noConst rest := by
    rw [List.cons_append, isName.startsWord _ (by decide)]
    rfl
  notDenied _ := rfl
  typed := ⟨.ofName declared, fun nested _ rest ends => isName.type_eq rest nested ends⟩

theorem headsImplementation_default : HeadsImplementation Builder.defaultPath.tokens where
  noGenerics _ := rfl
  noConst _ := rfl
  notDenied _ := rfl
  typed := by
    refine ⟨Builder.defaultPath, fun nested last rest ends => ?_⟩
    cases ends with
    | word name => rfl
    | body content => rfl

def forType : Option String → Tokens
  | some name => [.ident "for", .ident name]
  | none => []

theorem settled_implementation (depth : Nat) (attributes : List Attribute) (visible : Visibility) {first : Tokens}
    (heads : HeadsImplementation first) {target : Option String} (named : ∀ name ∈ target, IsName name)
    (body : Tokens) :
    Settled (fun rest => implementation (.ofDepth (depth + 1)) attributes visible
      (.ident "impl" :: (first ++ (forType target ++ .group .brace body :: rest)))) [] := by
  -- neither `default` nor `unsafe`, and then the keyword
  refine .after (fun _ => rfl) ?_
  refine .after (fun _ => rfl) ?_
  refine .after (fun _ => rfl) ?_
  refine .after (fun rest => ahead_of (heads.noGenerics _)) ?_
  refine .after (fun _ => rfl) ?_
  refine .after (fun rest => ahead_of (heads.noConst _)) ?_
  refine .after (fun rest => ahead_of (heads.notDenied _)) ?_
  refine .after (fun _ => rfl) ?_
  obtain ⟨path, typed⟩ := heads.typed
  cases target with
  | none =>
    -- the type ends at the body, so it is the one that is implemented
    refine .after (fun rest => typed _ _ rest (.body body)) ?_
    refine .after (fun _ => rfl) ?_
    refine .after (fun _ => rfl) ?_
    refine .after (fun _ => rfl) ?_
    refine (settled_group .brace _ body).bind fun content _ => ?_
    obtain ⟨inner, items⟩ := content
    exact settled_pure_or _ _ []
  | some name =>
    refine .after (fun rest => typed _ _ _ (.word "for")) ?_
    refine .after (fun _ => rfl) ?_
    refine .after (fun rest => (named name rfl).type_eq rest _ (.body body)) ?_
    refine .after (fun _ => rfl) ?_
    refine (settled_group .brace _ body).bind fun content _ => ?_
    obtain ⟨inner, items⟩ := content
    exact settled_pure_or _ _ []

theorem signature_eq (depth : Nat) {declared output : String} (isName : IsName declared) (outputs : IsName output)
    (body rest : Tokens) :
    signature (.ofDepth (depth + 1)) (.ident "fn" :: .ident declared :: .group .parenthesis []
        :: (Tokens.operator "->" ++ .ident output :: .group .brace body :: rest)) =
      .ok (Builder.plainSignature declared [] (some (.path (.ofName output))), .group .brace body :: rest) := by
  -- no qualifier before the keyword
  refine bind_of_ok rfl ?_
  refine bind_of_ok rfl ?_
  refine bind_of_ok rfl ?_
  refine bind_of_ok rfl ?_
  refine bind_of_ok rfl ?_
  refine bind_of_ok (isName.name_eq _) ?_
  refine bind_of_ok rfl ?_
  refine bind_of_ok rfl ?_
  refine bind_of_ok (bind_of_ok rfl (bind_of_ok (outputs.type_eq rest _ (.body _)) rfl)) ?_
  rfl

theorem settled_function (depth : Nat) (attributes : List Attribute) (visible : Visibility)
    {declared output : String} (isName : IsName declared) (outputs : IsName output) (body : Tokens) :
    Settled (fun rest => functionItem (.ofDepth (depth + 1)) attributes visible
      (.ident "fn" :: .ident declared :: .group .parenthesis []
        :: (Tokens.operator "->" ++ .ident output :: .group .brace body :: rest))) [] := by
  refine .after (fun _ => rfl) ?_
  refine .after (fun rest => signature_eq depth isName outputs body rest) ?_
  refine .after (fun _ => rfl) ?_
  -- what was looked at in advance is read again, now with its body
  have read : Settled (fun rest => functionAfter (.ofDepth (depth + 1)) attributes visible false
      (.ident "fn" :: .ident declared :: .group .parenthesis []
        :: (Tokens.operator "->" ++ .ident output :: .group .brace body :: rest))) [] := by
    refine .after (fun rest => signature_eq depth isName outputs body rest) ?_
    have block : Settled (fun rest => Endpoints.body (.ofDepth (depth + 1)) (.group .brace body :: rest)) [] :=
      (settled_group .brace _ body).bind fun content _ => settled_pure _ []
    exact block.bind fun found _ => settled_pure _ []
  exact read.bind fun found _ => settled_pure _ []

theorem settled_structure (grammar : Grammar) (attributes : List Attribute) (visible : Visibility)
    {declared : String} (isName : IsName declared) (body : Tokens) :
    Settled (fun rest => structureItem grammar attributes visible
      (.ident "struct" :: .ident declared :: .group .brace body :: rest)) [] := by
  refine .after (fun _ => rfl) ?_
  refine .after (fun rest => isName.name_eq _) ?_
  refine .after (fun _ => rfl) ?_
  refine .after (fun _ => rfl) ?_
  refine .after (fun _ => rfl) ?_
  exact (settled_group .brace _ body).bind fun found _ => settled_pure _ []

theorem supertraits_eq (depth : Nat) (body rest : Tokens) :
    supertraits (.ofDepth (depth + 1))
        (Tokens.operator ":" ++ Builder.std ["marker", "Send"] ++ .group .brace body :: rest) =
      .ok (⟨[.ofTrait false false [] (.mk true [.mk "std" .none, .mk "marker" .none, .mk "Send" .none])], false⟩,
        .group .brace body :: rest) := rfl

theorem settled_trait (depth : Nat) (attributes : List Attribute) {visible : Visibility} {start : Tokens → Tokens}
    {declared : String} (isName : IsName declared) (body : Tokens)
    (opens : ∀ rest, visibility (start rest) = .ok (visible, .ident "trait" :: .ident declared
      :: (Tokens.operator ":" ++ Builder.std ["marker", "Send"] ++ .group .brace body :: rest))) :
    Settled (fun rest => traitOrAlias (.ofDepth (depth + 1)) attributes visible (start rest) (.ident "trait"
      :: .ident declared :: (Tokens.operator ":" ++ Builder.std ["marker", "Send"] ++ .group .brace body :: rest))) [] := by
  have noAlias (rest : Tokens) : (do
      Reader.word "trait"
      let _ ← name
      let _ ← genericParameters (.ofDepth (depth + 1))
      ahead (Tokens.startsOperator "=") : Reader Bool) (.ident "trait" :: .ident declared
        :: (Tokens.operator ":" ++ Builder.std ["marker", "Send"] ++ .group .brace body :: rest)) =
      .ok (false, Tokens.operator ":" ++ Builder.std ["marker", "Send"] ++ .group .brace body :: rest) :=
    bind_of_ok rfl (bind_of_ok (isName.name_eq _) rfl)
  refine .after (fun rest => by rw [noAlias]) ?_
  have read : Settled (fun rest => traitAfter (.ofDepth (depth + 1)) attributes (start rest)) [] := by
    refine .after opens ?_
    refine .after (fun _ => rfl) ?_
    refine .after (fun _ => rfl) ?_
    refine .after (fun _ => rfl) ?_
    refine .after (fun rest => isName.name_eq _) ?_
    refine .after (fun _ => rfl) ?_
    refine .after (fun rest => supertraits_eq depth body rest) ?_
    refine .after (fun _ => rfl) ?_
    exact (settled_group .brace _ body).bind fun found _ => settled_pure _ []
  exact read.bind fun found _ => settled_pure _ []

end Endpoints
