import Endpoints.Proofs.TypeShapes

/-! What kind of type, argument or bound a text stands for. The text of a tidy one tells it, so that types of different
kinds have different texts. -/

namespace Endpoints
open TypeText

section Types

/-- The kind of a type, as far as its text tells it. -/
def Ty.kind : Ty → Kind
  | .array .. | .slice _ => .bracketed
  | .paren _ | .tuple .. => .parenthesized
  | .pointer .. => .pointer
  | .reference .. => .reference
  | .never => .never
  | .inferred => .inferred
  | .implementing .. => .implementing
  | .traitObject .. => .traitObject
  | .path _ => .path
  | .function .. | .qualified .. | .call .. | .verbatim _ => .spelled

theorem kindOf_of_isSpelled {tokens : Tokens} (spelled : isSpelled tokens = true) :
    kindOf (compactText tokens).toList = .spelled := by
  simp only [isSpelled, Bool.and_eq_true, beq_iff_eq] at spelled
  exact spelled.2

theorem Ty.kindOf_text {ty : Ty} (tidy : ty.isTidy = true) : kindOf ty.text.toList = ty.kind := by
  cases ty with
  | array element length => rw [Ty.text_array]; rfl
  | slice element => rw [Ty.text_slice]; rfl
  | paren inner => rw [Ty.text_paren]; rfl
  | tuple elements trailing => rw [Ty.text_tuple]; rfl
  | pointer mutable target => rw [Ty.text_pointer]; rfl
  | reference lifetime mutable target => rw [Ty.text_reference]; rfl
  | never => rw [Ty.text]; rfl
  | inferred => rw [Ty.text]; decide
  | implementing bounds trailing => rw [Ty.text_implementing]; rfl
  | traitObject keyword bounds trailing => rw [Ty.text_traitObject]; rfl
  | path named =>
    rw [Ty.isTidy] at tidy
    rw [Ty.text]
    exact kindOf_of_pathLike (Path.pathLike_text tidy)
  | function | qualified | call | verbatim =>
    rw [Ty.isTidy] at tidy
    rw [Ty.text]
    exact kindOf_of_isSpelled tidy

theorem Ty.kind_eq_of_text {first second : Ty} (one : first.isTidy = true) (two : second.isTidy = true)
    (same : first.text.toList = second.text.toList) : first.kind = second.kind := by
  rw [← kindOf_text one, same, kindOf_text two]

/-- A type that is printed from its tokens shows nothing but its text. -/
theorem Ty.exists_spelled {ty : Ty} (kind : ty.kind = .spelled) :
    ∃ tokens, ty.text = compactText tokens ∧ ty.kept false = .spelled tokens := by
  cases ty with
  | function | call => exact ⟨_, by rw [Ty.text], by simp [Ty.kept]⟩
  | verbatim tokens => exact ⟨tokens, text_verbatim tokens, by simp [Ty.kept]⟩
  | qualified self ofTrait segments => cases ofTrait <;> exact ⟨_, by rw [Ty.text], by simp [Ty.kept]⟩
  | _ => cases kind

theorem Ty.spelled_congr {tokens others : Tokens} (same : compactText tokens = compactText others) :
    Ty.spelled tokens = .spelled others := by
  rw [Ty.spelled, Ty.spelled, same]

theorem Ty.shown_of_spelled {first second : Ty} (kind : first.kind = .spelled) (one : first.isTidy = true)
    (two : second.isTidy = true) (same : first.text.toList = second.text.toList) :
    first.kept false = second.kept false := by
  obtain ⟨tokens, text, shown⟩ := exists_spelled kind
  obtain ⟨others, alike, again⟩ := exists_spelled ((kind_eq_of_text one two same).symm.trans kind)
  rw [shown, again]
  exact spelled_congr (text.symm.trans ((String.toList_injective same).trans alike))

end Types

section Arguments

inductive ArgumentKind where
  | lifetime
  | constant
  | associated
  | type

def argumentKindOf (text : List Char) : ArgumentKind :=
  if lifetimeLike text then .lifetime
  else if constantLike text then .constant
  else if associatedLike text then .associated
  else .type

def Argument.kind : Argument → ArgumentKind
  | .lifetime _ => .lifetime
  | .const _ => .constant
  | .associatedType .. => .associated
  | .type _ | .associatedConst .. | .constraint .. => .type

theorem argumentKindOf_of_standalone {text : List Char} (standalone : Standalone text) : argumentKindOf text = .type := by
  simp [argumentKindOf, standalone.lifetime, standalone.constant, standalone.associated]

theorem argumentKindOf_named {name : String} {text : List Char} (named : isName name = true)
    (standalone : Standalone text) : argumentKindOf (name.toList ++ ' ' :: '=' :: ' ' :: text) = .associated := by
  obtain ⟨word, digit, free⟩ := isName_iff.mp named
  obtain ⟨nonempty, names⟩ := isWord_iff.mp word
  have associated : associatedLike (name.toList ++ ' ' :: '=' :: ' ' :: text) = true := by
    have left : (name.toList ++ ' ' :: '=' :: ' ' :: text).dropWhile isNameCharacter = ' ' :: '=' :: ' ' :: text := by
      rw [List.dropWhile_append_of_pos names]
      rfl
    simp [associatedLike, left, standalone.constant]
  obtain ⟨c, rest, start⟩ := List.exists_cons_of_ne_nil nonempty
  rw [start] at names digit
  have first := names c List.mem_cons_self
  have unquoted : c ≠ '\'' := ne_of_isNameCharacter first rfl
  have lifetime : lifetimeLike (name.toList ++ ' ' :: '=' :: ' ' :: text) = false := by
    rw [start]
    unfold lifetimeLike
    split
    next same => exact absurd (List.cons.inj same).1 unquoted
    next => rfl
  have constant : constantLike (name.toList ++ ' ' :: '=' :: ' ' :: text) = false := by
    have apart {word : List Char} (blankless : ' ' ∉ word) : name.toList ++ ' ' :: '=' :: ' ' :: text ≠ word := by
      rintro rfl
      simp at blankless
    have others : ['\x7b', '-', '"', '\''].contains c = false := by
      simp [@ne_of_isNameCharacter _ first '\x7b' rfl, @ne_of_isNameCharacter _ first '-' rfl,
        @ne_of_isNameCharacter _ first '"' rfl, unquoted]
    have head : (name.toList ++ ' ' :: '=' :: ' ' :: text).head? = some c := by rw [start]; rfl
    have unnumbered : c.isDigit = false := by simpa using digit
    rw [constantLike, head, Option.any_some, unnumbered, others, beq_eq_false_iff_ne.mpr (apart (by decide)),
      beq_eq_false_iff_ne.mpr (apart (by decide))]
    rfl
  simp [argumentKindOf, lifetime, constant, associated]

theorem Argument.kindOf_text {argument : Argument} (tidy : argument.isTidy = true) :
    argumentKindOf argument.text.toList = argument.kind := by
  cases argument with
  | lifetime name =>
    rw [Argument.isTidy] at tidy
    have like : lifetimeLike ('\'' :: name.toList) = true := by
      have ends : (name.toList ++ []).dropWhile isNameCharacter = [] :=
        List.dropWhile_append_of_pos (isWord_iff.mp tidy).2
      rw [List.append_nil] at ends
      simp [lifetimeLike, ends]
    rw [text_lifetime, argumentKindOf, if_pos like]
    rfl
  | const value =>
    simp only [Argument.isTidy, isConstant, Bool.and_eq_true, Bool.not_eq_true'] at tidy
    rw [Argument.text, argumentKindOf, if_neg (by simp [tidy.2]), if_pos tidy.1.2]
    rfl
  | associatedType name arguments type =>
    simp only [Argument.isTidy, Bool.and_eq_true] at tidy
    rw [text_associatedType, argumentKindOf_named tidy.1 (type.standalone tidy.2)]
    rfl
  | type type =>
    rw [Argument.isTidy] at tidy
    rw [Argument.text, argumentKindOf_of_standalone (type.standalone tidy)]
    rfl
  | associatedConst | constraint =>
    rw [Argument.isTidy] at tidy
    rw [Argument.text, argumentKindOf_of_standalone (standalone_of_isSpelled tidy)]
    rfl

theorem Argument.kind_eq_of_text {first second : Argument} (one : first.isTidy = true) (two : second.isTidy = true)
    (same : first.text.toList = second.text.toList) : first.kind = second.kind := by
  rw [← kindOf_text one, same, kindOf_text two]

theorem Argument.exists_type {argument : Argument} (kind : argument.kind = .type) :
    ∃ type : Ty, argument.isTidy = type.isTidy ∧ argument.text = type.text ∧
      argument.kept false = .type (type.kept false) := by
  cases argument with
  | type type => exact ⟨type, by rw [Argument.isTidy], by rw [Argument.text], by rw [Argument.kept]⟩
  | associatedConst | constraint =>
    exact ⟨.verbatim _, by rw [Argument.isTidy, Ty.isTidy], by rw [Argument.text, Ty.text_verbatim],
      by simp [Argument.kept, Ty.kept]⟩
  | _ => cases kind

theorem Argument.exists_verbatim {argument : Argument} (kind : argument.kind = .type)
    (untyped : ∀ type, argument ≠ .type type) :
    ∃ tokens, argument.isTidy = (Ty.verbatim tokens).isTidy ∧ argument.text = (Ty.verbatim tokens).text ∧
      argument.kept false = .type ((Ty.verbatim tokens).kept false) := by
  cases argument with
  | type type => exact absurd rfl (untyped type)
  | associatedConst | constraint =>
    exact ⟨_, by rw [Argument.isTidy, Ty.isTidy], by rw [Argument.text, Ty.text_verbatim],
      by simp [Argument.kept, Ty.kept]⟩
  | _ => cases kind

theorem Argument.shown_of_verbatim {first second : Argument} (kind : first.kind = .type)
    (untyped : ∀ type, first ≠ .type type) (one : first.isTidy = true) (two : second.isTidy = true)
    (same : first.text.toList = second.text.toList) : first.kept false = second.kept false := by
  obtain ⟨other, neat, alike, again⟩ := exists_type ((kind_eq_of_text one two same).symm.trans kind)
  obtain ⟨tokens, tidy, text, shown⟩ := exists_verbatim kind untyped
  rw [tidy] at one
  rw [neat] at two
  rw [text, alike] at same
  rw [shown, again, Ty.shown_of_spelled rfl one two same]

end Arguments

section Bounds

inductive BoundKind where
  | named
  | relaxed
  | lifetime
  | spelled

def boundKindOf (text : List Char) : BoundKind :=
  if pathLike text then .named
  else match text with
    | '?' :: _ => .relaxed
    | '\'' :: _ => .lifetime
    | _ => .spelled

def Bound.kind : Bound → BoundKind
  | .ofTrait _ false _ _ => .named
  | .ofTrait _ true _ _ => .relaxed
  | .lifetime _ => .lifetime
  | .capturing .. | .verbatim _ => .spelled

theorem boundKindOf_of_isSpelledBound {tokens : Tokens} (spelled : isSpelledBound tokens = true) :
    boundKindOf (compactText tokens).toList = .spelled := by
  simp only [isSpelledBound, Bool.and_eq_true, Bool.not_eq_true'] at spelled
  obtain ⟨⟨_, start⟩, path⟩ := spelled
  cases found : (compactText tokens).toList with
  | nil => rfl
  | cons c rest =>
    rw [found] at start path
    unfold boundKindOf
    rw [if_neg (by simp [path])]
    split
    next same =>
      rw [same] at start
      cases start
    next same =>
      rw [same] at start
      cases start
    next => rfl

theorem Bound.kindOf_text {bound : Bound} (tidy : bound.isTidy = true) :
    boundKindOf bound.text.toList = bound.kind := by
  cases bound with
  | ofTrait parenthesized optional binder path =>
    rw [Bound.isTidy] at tidy
    rw [Bound.text_ofTrait]
    cases optional with
    | true => rfl
    | false => simp [boundKindOf, Path.pathLike_text tidy, kind]
  | lifetime name =>
    rw [Bound.text_lifetime]
    rfl
  | capturing | verbatim =>
    rw [Bound.isTidy] at tidy
    rw [Bound.text]
    exact boundKindOf_of_isSpelledBound tidy

theorem Bound.kind_eq_of_text {first second : Bound} (one : first.isTidy = true) (two : second.isTidy = true)
    (same : first.text.toList = second.text.toList) : first.kind = second.kind := by
  rw [← kindOf_text one, same, kindOf_text two]

theorem Bound.exists_spelled {bound : Bound} (kind : bound.kind = .spelled) :
    ∃ tokens, bound.text = compactText tokens ∧ bound.kept false = .verbatim [.literal (compactText tokens)] := by
  cases bound with
  | ofTrait parenthesized optional binder path => cases optional <;> cases kind
  | lifetime name => cases kind
  | capturing | verbatim => exact ⟨_, by rw [Bound.text], by simp [Bound.kept]⟩

theorem Bound.shown_of_spelled {first second : Bound} (kind : first.kind = .spelled) (one : first.isTidy = true)
    (two : second.isTidy = true) (same : first.text.toList = second.text.toList) :
    first.kept false = second.kept false := by
  obtain ⟨tokens, text, shown⟩ := exists_spelled kind
  obtain ⟨others, alike, again⟩ := exists_spelled ((kind_eq_of_text one two same).symm.trans kind)
  rw [shown, again, ← text, ← alike, String.toList_injective same]

end Bounds

end Endpoints
