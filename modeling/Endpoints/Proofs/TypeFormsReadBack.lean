import Endpoints.Proofs.BoundsReadBack

/-! Reading the texts of types back: each form of a structural type is read back where its parts are. -/

namespace Endpoints
open Reader Piece Lexeme

section Forms
variable {again : Nested} {plus : Bool}

theorem isReread_never : Ty.never.IsReread (type again) plus := by
  refine ⟨[.mark '!'], .never, ?_, rfl, .mark (by decide) (by decide) .nil, fun _ => rfl, fun _ _ => rfl⟩
  simp [Ty.text, textAll, Piece.text]

theorem isReread_inferred : Ty.inferred.IsReread (type again) plus := by
  refine ⟨[.word "_"], .inferred, ?_, rfl, .word (.plain (by decide +kernel)) parts_nil .nil, fun _ => rfl,
    fun _ _ => rfl⟩
  simp [Ty.text, textAll, Piece.text]

theorem isReread_pointer (mutable : Bool) {target : Ty} (reread : target.IsReread again.type false) :
    (Ty.pointer mutable target).IsReread (type again) plus := by
  obtain ⟨pieces, other, spelled, same, prints⟩ := reread
  have word : Lexer.IsWord (if mutable then "mut" else "const") := by
    cases mutable <;> exact .plain (by decide +kernel)
  refine ⟨.mark '*' :: .word (if mutable then "mut" else "const") :: .blank :: pieces, .pointer mutable other, ?_, ?_,
    .mark (by decide) (by decide) (.word word (by rintro _ ⟨⟩; decide) (.blank prints.fits)), fun _ => rfl,
    fun rest ends => ?_⟩
  · rw [Ty.text_pointer]
    cases mutable <;> simp [textAll, Piece.text, spelled, pointerPart]
  · simp only [Ty.kept, same]
  · have read := prints.reads rest ends.weaker
    have step : type again plus
        (tokensAll (.mark '*' :: .word (if mutable then "mut" else "const") :: .blank :: pieces ++ rest)) =
          (again.type false >>= fun target => pure (Ty.pointer mutable target)) (tokensAll (pieces ++ rest)) := by
      cases mutable <;> rfl
    exact step.trans (bind_of_ok read rfl)

theorem startsWord_mut_of_opensType {tokens : Tokens} (opens : opensType tokens = true) :
    tokens.startsWord "mut" = false := by
  match tokens with
  | [] | .literal _ :: _ | .group _ _ :: _ | .punct _ _ :: _ => rfl
  | .ident name :: _ =>
    simp only [opensType, Bool.not_eq_true', List.contains_eq_mem, decide_eq_false_iff_not] at opens
    refine Bool.eq_false_iff.mpr fun same => opens ?_
    rw [eq_of_beq same]
    decide

theorem isReread_reference {lifetime : Option String} (words : ∀ name ∈ lifetime, Lexer.IsWord name) (mutable : Bool)
    {target : Ty} (reread : target.IsReread again.type false) :
    (Ty.reference lifetime mutable target).IsReread (type again) plus := by
  obtain ⟨pieces, other, spelled, same, prints⟩ := reread
  let behind : List Piece := (if mutable then [.word "mut", .blank] else []) ++ pieces
  have fits : Fits behind := by
    cases mutable with
    | false => exact prints.fits
    | true => exact .word (.plain (by decide +kernel)) (by rintro _ ⟨⟩; decide) (.blank prints.fits)
  have spelledBehind : textAll behind = mutablePart mutable ++ target.text.toList := by
    cases mutable <;> simp [behind, textAll, Piece.text, mutablePart, spelled]
  have static (rest : List Piece) : (tokensAll (behind ++ rest)).startsLifetime = false := by
    cases mutable with
    | false => exact (plain_of_opensType (prints.opens rest)).1
    | true => rfl
  have read (rest : List Piece) (ends : EndsType plus (tokensAll rest)) :
      (word? "mut" >>= fun changeable => again.type false >>= fun found =>
        (pure (Ty.reference lifetime changeable found) : Reader Ty)) (tokensAll (behind ++ rest)) =
          .ok (.reference lifetime mutable other, tokensAll rest) := by
    have target := prints.reads rest ends.weaker
    cases mutable with
    | false => exact bind_of_ok (word?_absent (startsWord_mut_of_opensType (prints.opens rest))) (bind_of_ok target rfl)
    | true => exact bind_of_ok rfl (bind_of_ok target rfl)
  have alike : (Ty.reference lifetime mutable other).kept true = (Ty.reference lifetime mutable target).kept true := by
    simp only [Ty.kept, same]
  cases lifetime with
  | none =>
    refine ⟨.mark '&' :: behind, .reference none mutable other, ?_, alike, .mark (by decide) (by decide) fits,
      fun _ => rfl, fun rest ends => ?_⟩
    · rw [Ty.text_reference, textAll, spelledBehind]
      rfl
    · have step : type again plus (tokensAll (.mark '&' :: behind ++ rest)) =
          (lifetime? >>= fun name => word? "mut" >>= fun changeable => again.type false >>= fun found =>
            (pure (Ty.reference name changeable found) : Reader Ty)) (tokensAll (behind ++ rest)) := rfl
      exact step.trans (bind_of_ok (bind_of_ok (ahead_of (static rest)) rfl) (read rest ends))
  | some name =>
    refine ⟨.mark '&' :: .lifetime name :: .blank :: behind, .reference (some name) mutable other, ?_, alike,
      .mark (by decide) (by decide) (.lifetime (words name rfl) (by rintro _ ⟨⟩; decide) (.blank fits)),
      fun _ => rfl, fun rest ends => ?_⟩
    · rw [Ty.text_reference, textAll, textAll, textAll, spelledBehind]
      simp [Piece.text, lifetimePart]
    · have step : type again plus (tokensAll (.mark '&' :: .lifetime name :: .blank :: behind ++ rest)) =
          (word? "mut" >>= fun changeable => again.type false >>= fun found =>
            (pure (Ty.reference (some name) changeable found) : Reader Ty)) (tokensAll (behind ++ rest)) := rfl
      exact step.trans (read rest ends)

/-- What stands in the brackets of a slice or an array. -/
def bracketedType (nested : Nested) : Reader Ty := do
  let element ← nested.type true
  if ← operator? ";" then return .array element (← nested.expression)
  else return .slice element

theorem type_bracket (nested : Nested) (plus : Bool) (content rest : Tokens) :
    type nested plus (.group .bracket content :: rest) =
      group .bracket (bracketedType nested) (.group .bracket content :: rest) := rfl

theorem isReread_slice {element : Ty} (reread : element.IsReread again.type true) :
    (Ty.slice element).IsReread (type again) plus := by
  obtain ⟨pieces, other, spelled, same, prints⟩ := reread
  refine ⟨[.group .bracket pieces], .slice other, ?_, ?_, .group prints.fits .nil, fun _ => rfl, fun rest _ => ?_⟩
  · rw [Ty.text_slice]
    simp [textAll, Piece.text, spelled, Delimiter.opens, Delimiter.closes]
  · simp only [Ty.kept, same]
  · have read := prints.reads [] (endsType_nil true)
    rw [List.append_nil] at read
    have inside : bracketedType again (tokensAll pieces) = .ok (.slice other, []) := bind_of_ok read rfl
    exact (type_bracket again plus _ _).trans (group_eq_ok_iff.mpr ⟨_, rfl, inside⟩)

theorem isReread_array {element : Ty} {length : Tokens} (whole : length.isWholeNumber = true)
    (number : again.expression length = .ok (length, [])) (reread : element.IsReread again.type true) :
    (Ty.array element length).IsReread (type again) plus := by
  obtain ⟨pieces, other, spelled, same, prints⟩ := reread
  unfold Tokens.isWholeNumber at whole
  split at whole
  next text =>
    let counted : List Piece := [.mark ';', .blank, .number text]
    have fits : Fits counted := .mark (by decide) (by decide) (.blank (.number whole parts_nil .nil))
    refine ⟨[.group .bracket (pieces ++ counted)], .array other [.literal text], ?_, ?_,
      .group (prints.fits.append fits (by rintro _ ⟨⟩; decide)) .nil, fun _ => rfl, fun rest _ => ?_⟩
    · rw [Ty.text_array, compactText_of_isWholeNumber whole]
      simp [counted, textAll, textAll_append, Piece.text, spelled, Delimiter.opens, Delimiter.closes]
    · simp only [Ty.kept, same]
    · have read := prints.reads counted ⟨⟨rfl, rfl⟩, rfl, rfl, rfl, fun _ => rfl⟩
      have inside : bracketedType again (tokensAll (pieces ++ counted)) = .ok (.array other [.literal text], []) :=
        bind_of_ok read (bind_of_ok rfl (bind_of_ok number rfl))
      exact (type_bracket again plus _ _).trans (group_eq_ok_iff.mpr ⟨_, rfl, inside⟩)
  next => cases whole

/-- What one type or several in parentheses are, with what may be joined to them. -/
def enclosedType (nested : Nested) (plus : Bool) : Separated Ty → Reader Ty
  | ⟨[inner], false⟩ => do
    let joined ← ahead fun tokens => plus && tokens.startsOperator "+"
    match joined, parenthesizedBound? inner with
    | true, some first => return .traitObject false (← moreBounds nested first) false
    | _, _ => return .paren inner
  | ⟨elements, trailing⟩ => return .tuple elements trailing

theorem type_parenthesis (nested : Nested) (plus : Bool) (content rest : Tokens) :
    type nested plus (.group .parenthesis content :: rest) =
      parenthesizedType nested plus (.group .parenthesis content :: rest) := rfl

theorem type_enclosed (nested : Nested) (plus : Bool) {content : Tokens} (opens : opensType content = true)
    (rest : Tokens) :
    type nested plus (.group .parenthesis content :: rest) =
      (within content (commaList (nested.type true)) >>= enclosedType nested plus) rest := by
  have unmarked : content.startsOperator "?" = false := by
    match content with
    | .ident _ :: _ | .literal _ :: _ | .group _ _ :: _ => rfl
    | .punct symbol spacing :: others =>
      rcases symbol_of_opensType opens with rfl | rfl | rfl | rfl <;> rfl
  have filled : content.isEmpty = false := isEmpty_of_opensType opens
  have static : content.startsLifetime = false := (plain_of_opensType opens).1
  rw [type_parenthesis]
  refine bind_of_ok rfl ?_
  rw [filled, if_neg Bool.false_ne_true, static, if_neg Bool.false_ne_true, unmarked, if_neg Bool.false_ne_true]
  rfl

theorem isReread_paren {inner : Ty} (reread : inner.IsReread again.type true) :
    (Ty.paren inner).IsReread (type again) plus := by
  obtain ⟨pieces, values, spelled, same, length, fits, opens, listed⟩ :=
    exists_typeList (List.forall_mem_singleton.mpr reread)
  obtain ⟨other, rfl⟩ := List.length_eq_one_iff.mp length
  have opens := (opens.resolve_left fun empty => List.cons_ne_nil _ _ empty.1).2
  refine ⟨[.group .parenthesis pieces], .paren other, ?_, ?_, .group fits .nil, fun _ => rfl, fun rest ends => ?_⟩
  · rw [Ty.text_paren]
    simp [textAll, Piece.text, spelled, commaTexts, typeTexts, Delimiter.opens, Delimiter.closes]
  · simpa [Ty.kept, typesKept] using same
  · have single : (plus && (tokensAll rest).startsOperator "+") = false := by
      cases plus with
      | false => rfl
      | true => exact ends.sum rfl
    have start := opens []
    rw [List.append_nil] at start
    have held : within (tokensAll pieces) (commaList (again.type true)) (tokensAll rest) =
        .ok (⟨[other], false⟩, tokensAll rest) := by rw [within, listed]
    refine (type_enclosed again plus start _).trans (bind_of_ok held ?_)
    exact bind_of_ok (ahead_of single) rfl

theorem isReread_tuple {elements : List Ty} (each : ∀ element ∈ elements, element.IsReread again.type true)
    (trailing : Bool) : (Ty.tuple elements trailing).IsReread (type again) plus := by
  match elements with
  | [] =>
    refine ⟨[.group .parenthesis []], .tuple [] false, ?_, rfl, .group .nil .nil, fun _ => rfl, fun _ _ => rfl⟩
    simp [Ty.text_tuple, typeTexts, tupleText, commaTexts, textAll, Piece.text, Delimiter.opens, Delimiter.closes]
  | [element] =>
    obtain ⟨pieces, other, spelled, same, prints⟩ := List.forall_mem_singleton.mp each
    have fits : Fits (pieces ++ [.mark ',']) :=
      prints.fits.append (.mark (by decide) (by decide) .nil) (by rintro _ ⟨⟩; decide)
    refine ⟨[.group .parenthesis (pieces ++ [.mark ','])], .tuple [other] true, ?_, ?_, .group fits .nil, fun _ => rfl,
      fun rest ends => ?_⟩
    · rw [Ty.text_tuple]
      simp [textAll, textAll_append, Piece.text, spelled, typeTexts, tupleText, Delimiter.opens, Delimiter.closes]
    · simp only [Ty.kept, typesKept, same]
    · have listed : commaList (again.type true) (tokensAll (pieces ++ [.mark ','])) = .ok (⟨[other], true⟩, []) :=
        separatedUntil_single prints (fun _ => isEmpty_of_opensType)
          ⟨(endsArgument_comma .alone []).toEndsType, rfl⟩ rfl
      have held : within (tokensAll (pieces ++ [.mark ','])) (commaList (again.type true)) (tokensAll rest) =
          .ok (⟨[other], true⟩, tokensAll rest) := by rw [within, listed]
      exact (type_enclosed again plus (prints.opens _) _).trans (bind_of_ok held rfl)
  | first :: next :: more =>
    obtain ⟨pieces, values, spelled, same, length, fits, opens, listed⟩ := exists_typeList each
    have opens := (opens.resolve_left fun empty => List.cons_ne_nil _ _ empty.1).2
    refine ⟨[.group .parenthesis pieces], .tuple values false, ?_, ?_, .group fits .nil, fun _ => rfl,
      fun rest ends => ?_⟩
    · rw [Ty.text_tuple]
      simp [textAll, Piece.text, spelled, typeTexts, tupleText, Delimiter.opens, Delimiter.closes]
    · simp only [Ty.kept, same]
    · have start := opens []
      rw [List.append_nil] at start
      have held : within (tokensAll pieces) (commaList (again.type true)) (tokensAll rest) =
          .ok (⟨values, false⟩, tokensAll rest) := by rw [within, listed]
      obtain ⟨head, others, rfl⟩ := List.exists_of_length_succ values length
      obtain ⟨second, more, rfl⟩ := List.exists_of_length_succ others (Nat.succ.inj length)
      exact (type_enclosed again plus start _).trans (bind_of_ok held rfl)

theorem any_isTrait_kept (bounds : List Bound) :
    (boundsKept true bounds).any Bound.isTrait = bounds.any Bound.isTrait := by
  induction bounds with
  | nil => rfl
  | cons bound rest ih =>
    have first : (bound.kept true).isTrait = bound.isTrait := by cases bound <;> simp [Bound.kept, Bound.isTrait]
    rw [boundsKept, List.any_cons, List.any_cons, first, ih]

/-- Bounds of which one is a trait, as they are read again. -/
theorem any_isTrait_of_kept {first second : List Bound} (same : boundsKept true second = boundsKept true first)
    (some : first.any Bound.isTrait = true) : second.any Bound.isTrait = true := by
  rw [← any_isTrait_kept, same, any_isTrait_kept, some]

theorem startsOperator_star_of_startsBound {tokens : Tokens} (starts : startsBound tokens = true) :
    tokens.startsOperator "*" = false := by
  match tokens with
  | [] | .ident _ :: _ | .literal _ :: _ | .group _ _ :: _ => rfl
  | .punct symbol _ :: _ =>
    refine Bool.eq_false_iff.mpr fun star => ?_
    obtain rfl : symbol = '*' := eq_of_beq star
    cases starts

/-- What stands after `dyn`, and whether a star comes before it. -/
def dynamicBounds (nested : Nested) (plus : Bool) : Reader (Bool × Separated Bound) := do
  let pointer ← operator? "*"
  return (pointer, ← objectBounds nested plus)

/-- A type after `dyn`. -/
def dynamicType (nested : Nested) (plus : Bool) : Reader Ty := do
  let (bounds, tokens) ← withTokens (dynamicBounds nested plus)
  if bounds.1 then return .verbatim (Tokens.word "dyn" ++ tokens)
  else return .traitObject true bounds.2.items bounds.2.trailing

/-- A type after `impl`. -/
def opaqueType (nested : Nested) (plus : Bool) : Reader Ty := do
  let bounds ← bounds nested plus true true
  unless bounds.items.any Bound.isTrait do reject "at least one trait must be specified"
  return .implementing bounds.items bounds.trailing

theorem isReread_traitObject {bounds : List Bound} (some : bounds.any Bound.isTrait = true)
    (reread : ReadsBack (Endpoints.bounds again plus false false) (startsBound · = true) (EndsType plus)
      (plusTexts (boundTexts bounds)) (fun other => boundsKept true other.items = boundsKept true bounds))
    (trailing : Bool) : (Ty.traitObject true bounds trailing).IsReread (type again) plus := by
  obtain ⟨pieces, other, spelled, same, prints⟩ := reread
  refine ⟨.word "dyn" :: .blank :: pieces, .traitObject true other.items other.trailing, ?_, ?_,
    .word (.plain (by decide +kernel)) (by rintro _ ⟨⟩; decide) (.blank prints.fits), fun _ => rfl, fun rest ends => ?_⟩
  · rw [Ty.text_traitObject, textAll, textAll, spelled]
    rfl
  · simp only [Ty.kept, same]
  · have unmarked := startsOperator_star_of_startsBound (prints.opens rest)
    have read : dynamicBounds again plus (tokensAll (pieces ++ rest)) = .ok ((false, other), tokensAll rest) := by
      refine bind_of_ok (operator?_absent unmarked) (bind_of_ok (bind_of_ok (prints.reads rest ends) ?_) rfl)
      rw [any_isTrait_of_kept same some]
      rfl
    obtain ⟨_, taken⟩ := exists_withTokens read
    have step : type again plus (tokensAll (.word "dyn" :: .blank :: pieces ++ rest)) =
        dynamicType again plus (tokensAll (pieces ++ rest)) := rfl
    exact step.trans (bind_of_ok taken rfl)

theorem isReread_implementing {bounds : List Bound} (some : bounds.any Bound.isTrait = true)
    (reread : ReadsBack (Endpoints.bounds again plus true true) (startsBound · = true) (EndsType plus)
      (plusTexts (boundTexts bounds)) (fun other => boundsKept true other.items = boundsKept true bounds))
    (trailing : Bool) : (Ty.implementing bounds trailing).IsReread (type again) plus := by
  obtain ⟨pieces, other, spelled, same, prints⟩ := reread
  refine ⟨.word "impl" :: .blank :: pieces, .implementing other.items other.trailing, ?_, ?_,
    .word (.plain (by decide +kernel)) (by rintro _ ⟨⟩; decide) (.blank prints.fits), fun _ => rfl, fun rest ends => ?_⟩
  · rw [Ty.text_implementing, textAll, textAll, spelled]
    rfl
  · simp only [Ty.kept, same]
  · have step : type again plus (tokensAll (.word "impl" :: .blank :: pieces ++ rest)) =
        opaqueType again plus (tokensAll (pieces ++ rest)) := rfl
    refine step.trans (bind_of_ok (prints.reads rest ends) ?_)
    rw [any_isTrait_of_kept same some]
    rfl

/-- Whether tokens start as a path of words does, or as a type in angle brackets. -/
def startsNamed (tokens : Tokens) : Bool :=
  tokens.startsName || startsPathWord tokens || tokens.startsOperator "::" || tokens.startsOperator "<"

theorem ne_of_startsNamed {name : String} {rest : Tokens} (starts : startsNamed (.ident name :: rest) = true) :
    name ∉ ["true", "false", "mut", "for", "fn", "unsafe", "extern"] := by
  have other : ∀ name ∈ ["true", "false", "mut", "for", "fn", "unsafe", "extern"],
      startsNamed [.ident name] = false := by decide
  exact fun member => absurd ((other name member).symm.trans starts) (by decide)

theorem StartsAs.opensType {tokens others : Tokens} (starts : StartsAs tokens others)
    (named : startsNamed tokens = true) : opensType others = true := by
  cases starts with
  | global => rfl
  | named same =>
    subst same
    have among : ["true", "false", "mut"] ⊆ ["true", "false", "mut", "for", "fn", "unsafe", "extern"] := by decide
    have free := fun found => ne_of_startsNamed named (among (List.contains_iff_mem.mp found))
    exact congrArg (!·) (Bool.eq_false_iff.mpr free)

theorem StartsAs.unqualified {tokens others : Tokens} (starts : StartsAs tokens others) :
    others.startsOperator "<" = false := by cases starts <;> rfl

theorem type_named {tokens others : Tokens} (starts : StartsAs tokens others) (named : startsNamed tokens = true)
    (nested : Nested) (plus : Bool) : type nested plus others = namedType nested [] plus others := by
  cases starts with
  | global => rfl
  | @named name before same rest =>
    subst same
    have other (word : String) (member : word ∈ ["for", "fn", "unsafe", "extern"]) : (name == word) = false := by
      refine Bool.eq_false_iff.mpr fun same => ne_of_startsNamed named ?_
      rw [eq_of_beq same]
      exact @List.mem_of_mem_drop _ _ 3 _ member
    have binderless : Tokens.startsWord "for" (.ident name :: rest) = false := other "for" List.mem_cons_self
    have dataless : (["fn", "unsafe", "extern"].any fun word => Tokens.startsWord word (.ident name :: rest)) = false :=
      List.any_eq_false.mpr fun word member => Bool.eq_false_iff.mp (other word (List.mem_cons_of_mem _ member))
    refine bind_of_ok (ahead_of binderless) ?_
    refine bind_of_ok (binder_absent binderless) ?_
    refine bind_of_ok rfl ?_
    refine bind_of_ok rfl ?_
    refine bind_of_ok (ahead_of dataless) ?_
    exact bind_of_ok (ahead_of named) rfl

theorem isReread_path {tokens : Tokens} (named : startsNamed tokens = true) {path : Path}
    (reread : ReadsBack (Endpoints.path again false) (StartsAs tokens) EndsPath path.text.toList
      (fun other => other.kept true = path.kept true)) : (Ty.path path).IsReread (type again) plus := by
  obtain ⟨pieces, other, spelled, same, prints⟩ := reread
  refine ⟨pieces, .path other, ?_, ?_, prints.fits, fun rest => (prints.opens rest).opensType named,
    fun rest ends => ?_⟩
  · rw [spelled, Ty.text]
  · simp only [Ty.kept, same]
  · have starts := prints.opens rest
    have single : (plus && (tokensAll rest).startsOperator "+") = false := by
      cases plus with
      | false => rfl
      | true => exact ends.sum rfl
    have taken : pathType again false (tokensAll (pieces ++ rest)) = .ok (.path other, tokensAll rest) :=
      bind_of_ok (operator?_absent starts.unqualified) (bind_of_ok (prints.reads rest ends.toEndsPath) rfl)
    rw [type_named starts named]
    refine bind_of_ok taken ?_
    refine bind_of_ok (ahead_of (by rw [ends.call, Bool.false_and, Bool.false_and])) ?_
    exact bind_of_ok (ahead_of (congrArg (false || ·) single)) rfl

end Forms

end Endpoints
