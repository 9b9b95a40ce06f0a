import Endpoints.Proofs.HeaderReading
import Endpoints.Proofs.StructuralTypes

/-! Reading the texts of paths and bounds back, where the types in them are read back: arguments, segments and paths,
the arguments of function traits, and lists of bounds. -/

namespace Endpoints
open Reader Piece Lexeme

/-- Whether tokens start as a structural type does. -/
def opensType : Tokens → Bool
  | .ident name :: _ => !(["true", "false", "mut"].contains name)
  | .punct symbol _ :: _ => [':', '*', '&', '!'].contains symbol
  | .group delimiter _ :: _ => delimiter != .brace
  | _ => false

theorem symbol_of_opensType {symbol : Char} {spacing : Spacing} {rest : Tokens}
    (opens : opensType (.punct symbol spacing :: rest) = true) :
    symbol = ':' ∨ symbol = '*' ∨ symbol = '&' ∨ symbol = '!' := by
  have member : symbol ∈ [':', '*', '&', '!'] := List.contains_iff_mem.mp opens
  simpa using member

/-- What does not go on with a path. -/
structure EndsPath (tokens : Tokens) : Prop where
  separator : tokens.startsOperator "::" = false
  angle : tokens.startsOperator "<" = false

/-- What does not go on with a type. Bounds are joined only to one that is read with them. -/
structure EndsType (plus : Bool) (tokens : Tokens) : Prop extends EndsPath tokens where
  arrow : tokens.startsOperator "->" = false
  group : tokens.startsGroup .parenthesis = false
  call : tokens.startsOperator "!" = false
  sum : plus = true → tokens.startsOperator "+" = false

/-- What does not go on with an argument in angle brackets. -/
structure EndsArgument (tokens : Tokens) : Prop extends EndsType true tokens where
  value : tokens.startsOperator "=" = false
  constraint : tokens.startsOperator ":" = false

/-- A type whose text is read as the same type, up to the separators at the ends of lists. -/
def Ty.IsReread (reader : Bool → Reader Ty) (plus : Bool) (ty : Ty) : Prop :=
  ReadsBack (reader plus) (opensType · = true) (EndsType plus) ty.text.toList
    (fun other => other.kept true = ty.kept true)

/-- Readers of nested types of which the second read back what the first have read. -/
structure Faithful (nested again : Nested) : Prop where
  type : ∀ {plus tokens rest ty}, tokens.Worded → ty.isStructural = true → nested.type plus tokens = .ok (ty, rest) →
    ty.IsReread again.type plus ∧ rest.Worded
  block : ∀ {tokens value rest}, nested.block tokens = .ok (value, rest) → value.isInteger = false
  number : ∀ {tokens value rest text}, nested.expression tokens = .ok (value, rest) → isWholeNumber text = true →
    again.expression [.literal text] = .ok ([.literal text], [])

section Looks
variable {tokens : Tokens}

theorem endsType_nil (plus : Bool) : EndsType plus [] := ⟨⟨rfl, rfl⟩, rfl, rfl, rfl, fun _ => rfl⟩

theorem endsArgument_comma (spacing : Spacing) (rest : Tokens) : EndsArgument (.punct ',' spacing :: rest) :=
  ⟨⟨⟨rfl, rfl⟩, rfl, rfl, rfl, fun _ => rfl⟩, rfl, rfl⟩

/-- Whether tokens start as an argument in angle brackets does. -/
def opensArgument : Tokens → Bool
  | [] => false
  | .punct symbol _ :: _ => [':', '*', '&', '!', '\'', '-'].contains symbol
  | _ => true

/-- Nothing that opens an argument closes the brackets or goes on with the one that opens them. -/
theorem angle_of_opensArgument (opens : opensArgument tokens = true) :
    tokens.startsOperator ">" = false ∧ tokens.startsOperator "=" = false ∧ tokens.startsOperator "<" = false := by
  match tokens with
  | .ident _ :: _ | .literal _ :: _ | .group _ _ :: _ => exact ⟨rfl, rfl, rfl⟩
  | .punct symbol spacing :: rest =>
    have member : symbol ∈ [':', '*', '&', '!', '\'', '-'] := List.contains_iff_mem.mp opens
    simp only [List.mem_cons, List.not_mem_nil, or_false] at member
    rcases member with rfl | rfl | rfl | rfl | rfl | rfl <;> exact ⟨rfl, rfl, rfl⟩

theorem opensArgument_of_opensType (opens : opensType tokens = true) : opensArgument tokens = true := by
  match tokens with
  | .ident _ :: _ | .literal _ :: _ | .group _ _ :: _ => rfl
  | .punct symbol spacing :: rest =>
    rcases symbol_of_opensType opens with rfl | rfl | rfl | rfl <;> rfl

theorem plain_of_opensType (opens : opensType tokens = true) :
    tokens.startsLifetime = false ∧ tokens.startsLiteral = false ∧ tokens.startsGroup .brace = false := by
  match tokens with
  | [] => cases opens
  | .ident name :: rest =>
    simp only [opensType, Bool.not_eq_true', List.contains_eq_mem, List.mem_cons, List.not_mem_nil, or_false,
      decide_eq_false_iff_not, not_or] at opens
    simp [Tokens.startsLifetime, Tokens.startsLiteral, Tokens.startsGroup, opens]
  | .literal text :: rest => cases opens
  | .group delimiter content :: rest =>
    cases delimiter
    · exact ⟨rfl, rfl, rfl⟩
    · exact ⟨rfl, rfl, rfl⟩
    · cases opens
  | .punct symbol spacing :: rest =>
    rcases symbol_of_opensType opens with rfl | rfl | rfl | rfl <;> cases spacing <;> exact ⟨rfl, rfl, rfl⟩

end Looks

section Arguments
variable {again : Nested}

theorem readsBack_lifetimeArgument {name : String} (word : Lexer.IsWord name) :
    ReadsBack (argument again) (opensArgument · = true) EndsArgument (Argument.lifetime name).text.toList
      (fun other => other.kept true = (Argument.lifetime name).kept true) := by
  refine ⟨[.lifetime name], .lifetime name, ?_, rfl, .lifetime word parts_nil .nil, fun _ => rfl, fun rest ends => ?_⟩
  · rw [Argument.text_lifetime, textAll, textAll, Piece.text, List.append_nil]
  · have alone : (Tokens.startsLifetime (tokensAll ([.lifetime name] ++ rest)) &&
        !Tokens.startsOperator "+" (Tokens.afterFirst (tokensAll ([.lifetime name] ++ rest)))) = true := by
      have sum : Tokens.startsOperator "+" (tokensAll rest) = false := ends.sum rfl
      exact congrArg (true && !·) sum
    exact bind_of_ok (ahead_of alone) (bind_of_ok rfl rfl)

theorem readsBack_constant {value : Tokens} (integer : value.isInteger = true) :
    ReadsBack (argument again) (opensArgument · = true) EndsArgument (Argument.const value).text.toList
      (fun other => other.kept true = (Argument.const value).kept true) := by
  rw [Argument.text]
  unfold Tokens.isInteger at integer
  split at integer
  next text =>
    obtain ⟨first, more, spelled, digit⟩ := isDigit_of_isWholeNumber integer
    refine ⟨[.mark '-', .blank, .number text], .const [.punct '-' .alone, .literal text], ?_, rfl,
      .mark (by decide) (by decide) (.blank (.number integer parts_nil .nil)), fun _ => rfl, fun rest _ => ?_⟩
    · rw [compactText_of_negative integer, String.toList_append]
      simp [textAll, Piece.text]
    · have negative : (text.toList.head?.any Char.isDigit) = true := by
        rw [spelled]
        exact digit
      have literal : Reader.literal (tokensAll ([.mark '-', .blank, .number text] ++ rest)) =
          .ok ([.punct '-' .alone, .literal text], tokensAll rest) := if_pos negative
      have starts : Tokens.startsLiteral (tokensAll ([.mark '-', .blank, .number text] ++ rest)) = true := negative
      refine bind_of_ok rfl ?_
      refine bind_of_ok (ahead_of (congrArg (· || false) starts)) ?_
      exact bind_of_ok (bind_of_ok (ahead_of starts) literal) rfl
  next =>
    unfold Tokens.isWholeNumber at integer
    split at integer
    next text _ =>
      refine ⟨[.number text], .const [.literal text], ?_, rfl, .number integer parts_nil .nil, fun _ => rfl,
        fun rest _ => ?_⟩
      · rw [compactText_of_isWholeNumber integer, textAll, textAll, Piece.text, List.append_nil]
      · exact bind_of_ok rfl (bind_of_ok rfl (bind_of_ok (bind_of_ok rfl rfl) rfl))
    next => cases integer

theorem Ty.eq_ofName {ty : Ty} {name : String} (same : ty.kept true = (Ty.path (.ofName name)).kept true) :
    ty = .path (.ofName name) := by
  cases ty with
  | path path =>
    obtain ⟨isGlobal, segments⟩ := path
    match segments with
    | [] => simp [Ty.kept, Path.kept, Path.ofName, segmentsKept] at same
    | [.mk other arguments] =>
      cases arguments <;>
        simp_all [Ty.kept, Path.kept, Path.ofName, segmentsKept, Segment.kept, Arguments.kept]
    | _ :: _ :: _ => simp [Ty.kept, Path.kept, Path.ofName, segmentsKept] at same
  | qualified self ofTrait segments => cases ofTrait <;> simp [Ty.kept] at same
  | _ => simp [Ty.kept] at same

theorem readsBack_typeArgument {ty : Ty} (reread : ty.IsReread again.type true) :
    ReadsBack (argument again) (opensArgument · = true) EndsArgument (Argument.type ty).text.toList
      (fun other => other.kept true = (Argument.type ty).kept true) := by
  obtain ⟨pieces, value, spelled, same, prints⟩ := reread
  refine ⟨pieces, .type value, by rw [spelled, Argument.text], ?_, prints.fits,
    fun rest => opensArgument_of_opensType (prints.opens rest), fun rest ends => ?_⟩
  · simp only [Argument.kept, same]
  · obtain ⟨lifetime, literal, brace⟩ := plain_of_opensType (prints.opens rest)
    refine bind_of_ok (ahead_of (by rw [lifetime, Bool.false_and])) ?_
    refine bind_of_ok (ahead_of (by rw [literal, brace, Bool.or_self])) ?_
    refine bind_of_ok (prints.reads rest ends.toEndsType) ?_
    split
    next name arguments =>
      have none : associatedArgument? again name arguments (tokensAll rest) = .ok (none, tokensAll rest) :=
        bind_of_ok (operator?_absent ends.value) (bind_of_ok (operator?_absent ends.constraint) rfl)
      split
      · rfl
      · exact bind_of_ok none rfl
    next => rfl

theorem readsBack_associated {name : String} {ty : Ty} (named : (Ty.path (.ofName name)).IsReread again.type true)
    (reread : ty.IsReread again.type true) :
    ReadsBack (argument again) (opensArgument · = true) EndsArgument
      (Argument.associatedType name .none ty).text.toList
      (fun other => other.kept true = (Argument.associatedType name .none ty).kept true) := by
  obtain ⟨pieces, value, spelled, same, prints⟩ := named
  obtain rfl := Ty.eq_ofName same
  obtain ⟨behind, other, spelledOther, alike, printsOther⟩ := reread
  refine ⟨pieces ++ .blank :: .mark '=' :: .blank :: behind, .associatedType name .none other, ?_, ?_, ?_, ?_,
    fun rest ends => ?_⟩
  · rw [Argument.text_associatedType, textAll_append, spelled]
    simp [textAll, spelledOther, Piece.text, Ty.text, Path.ofName, Path.text, segmentTexts, Segment.text,
      Arguments.text]
  · simp only [Argument.kept, alike]
  · exact prints.fits.append (.blank (.mark (by decide) (by decide) (.blank printsOther.fits)))
      (by rintro _ ⟨⟩; decide)
  · intro rest
    rw [List.append_assoc]
    exact opensArgument_of_opensType (prints.opens _)
  · have opens := printsOther.opens rest
    obtain ⟨_, literalOther, braceOther⟩ := plain_of_opensType opens
    rw [List.append_assoc]
    obtain ⟨lifetime, literal, brace⟩ :=
      plain_of_opensType (prints.opens (.blank :: .mark '=' :: .blank :: behind ++ rest))
    refine bind_of_ok (ahead_of (by rw [lifetime, Bool.false_and])) ?_
    refine bind_of_ok (ahead_of (by rw [literal, brace, Bool.or_self])) ?_
    refine bind_of_ok (prints.reads _ ⟨⟨rfl, rfl⟩, rfl, rfl, rfl, fun _ => rfl⟩) ?_
    have found : associatedArgument? again name .none
        (tokensAll (.blank :: .mark '=' :: .blank :: behind ++ rest)) =
          .ok (some (.associatedType name .none other), tokensAll rest) := by
      refine bind_of_ok rfl ?_
      refine bind_of_ok (ahead_of (by exact (congrArg₂ (· || ·) literalOther braceOther))) ?_
      exact bind_of_ok (printsOther.reads rest ends.toEndsType) rfl
    exact bind_of_ok found rfl

theorem leaves_literal : Leaves Reader.literal := by
  intro tokens value rest read
  unfold Reader.literal at read
  split at read
  · cases read
    exact List.subset_cons_self _ _
  · cases read
    exact List.subset_cons_self _ _
  · cases read
    exact List.subset_cons_self _ _
  · split at read <;> cases read
    exact List.subset_cons_of_subset _ (List.subset_cons_self _ _)
  · cases read

variable {nested : Nested} (faithful : Faithful nested again) {tokens rest : Tokens}
include faithful

theorem Faithful.constArgument {value : Tokens} (worded : tokens.Worded) (integer : value.isInteger = true)
    (read : constArgument nested tokens = .ok (value, rest)) : rest.Worded := by
  obtain ⟨-, read⟩ | ⟨-, read⟩ := of_ahead_ite read
  · exact worded.left leaves_literal read
  obtain ⟨-, read⟩ | ⟨-, read⟩ := of_ahead_ite read
  · obtain ⟨name, _, -, read⟩ := bind_eq_ok_iff.mp read
    cases read
    cases integer
  obtain ⟨-, read⟩ | ⟨-, read⟩ := of_ahead_ite read
  · rw [faithful.block read] at integer
    cases integer
  · cases read

theorem Faithful.argument {value : Argument} (worded : tokens.Worded) (structural : value.isStructural = true)
    (read : argument nested tokens = .ok (value, rest)) :
    ReadsBack (Endpoints.argument again) (opensArgument · = true) EndsArgument value.text.toList
      (fun other => other.kept true = value.kept true) ∧ rest.Worded := by
  obtain ⟨-, read⟩ | ⟨-, read⟩ := of_ahead_ite read
  · obtain ⟨name, after, taken, read⟩ := bind_eq_ok_iff.mp read
    cases read
    obtain rfl := of_lifetime taken
    exact ⟨readsBack_lifetimeArgument worded.tail.isWord, worded.tail.tail⟩
  obtain ⟨-, read⟩ | ⟨-, read⟩ := of_ahead_ite read
  · obtain ⟨constant, after, taken, read⟩ := bind_eq_ok_iff.mp read
    cases read
    exact ⟨readsBack_constant structural, faithful.constArgument worded structural taken⟩
  obtain ⟨type, after, taken, read⟩ := bind_eq_ok_iff.mp read
  split at read
  next name arguments =>
    split at read
    · cases read
      obtain ⟨reread, left⟩ := faithful.type worded structural taken
      exact ⟨readsBack_typeArgument reread, left⟩
    obtain ⟨found, _, associated, read⟩ := bind_eq_ok_iff.mp read
    cases read
    obtain ⟨given, between, equals, associated⟩ := bind_eq_ok_iff.mp associated
    have leftEquals {behind : Tokens} (worded : behind.Worded) {found : Bool} {after : Tokens} {spelling : String}
        (read : operator? spelling behind = .ok (found, after)) : after.Worded :=
      worded.left (leaves_operator? spelling) read
    split at associated
    · obtain ⟨-, associated⟩ | ⟨-, associated⟩ := of_ahead_ite associated
      · obtain ⟨_, _, -, associated⟩ := bind_eq_ok_iff.mp associated
        cases associated
        cases structural
      obtain ⟨other, _, takenOther, associated⟩ := bind_eq_ok_iff.mp associated
      cases associated
      simp only [Option.getD_some, Argument.isStructural, Bool.and_eq_true] at structural
      obtain ⟨plain, structural⟩ := structural
      cases arguments with
      | none =>
        obtain ⟨named, left⟩ := faithful.type worded rfl taken
        obtain ⟨reread, last⟩ := faithful.type (leftEquals left equals) structural takenOther
        exact ⟨readsBack_associated named reread, last⟩
      | _ => cases plain
    · obtain ⟨bounded, _, colon, associated⟩ := bind_eq_ok_iff.mp associated
      split at associated
      · obtain ⟨_, _, -, associated⟩ := bind_eq_ok_iff.mp associated
        cases associated
        cases structural
      · cases associated
        obtain ⟨reread, left⟩ := faithful.type worded structural taken
        exact ⟨readsBack_typeArgument reread, leftEquals (leftEquals left equals) colon⟩
  next =>
    cases read
    obtain ⟨reread, left⟩ := faithful.type worded structural taken
    exact ⟨readsBack_typeArgument reread, left⟩

end Arguments

section Segments

/-- The bracket that opens arguments, and not a mark that starts with the same character. -/
structure OpensAngle (tokens : Tokens) : Prop where
  opens : tokens.startsOperator "<" = true
  atMost : tokens.startsOperator "<=" = false
  shift : tokens.startsOperator "<<=" = false

theorem opensAngle_cons (spacing : Spacing) {tokens : Tokens} (value : tokens.startsOperator "=" = false)
    (angle : tokens.startsOperator "<" = false) : OpensAngle (.punct '<' spacing :: tokens) where
  opens := rfl
  atMost := by
    have same : Tokens.startsOperator "<=" (.punct '<' spacing :: tokens) =
        ((true && spacing == .joint) && tokens.startsOperator "=") := rfl
    rw [same, value, Bool.and_false]
  shift := by
    have none : Tokens.startsOperatorOf ['<', '='] tokens = false := by
      match tokens with
      | [] | .ident _ :: _ | .literal _ :: _ | .group _ _ :: _ => rfl
      | .punct symbol _ :: _ =>
        have other : (symbol == '<') = false := angle
        simp [Tokens.startsOperatorOf, other]
    have same : Tokens.startsOperator "<<=" (.punct '<' spacing :: tokens) =
        ((true && spacing == .joint) && Tokens.startsOperatorOf ['<', '='] tokens) := rfl
    rw [same, none, Bool.and_false]

/-- What does not go on with a segment of a path. -/
structure EndsSegment (tokens : Tokens) : Prop where
  angle : tokens.startsOperator "<" = false
  turbofish : (tokens.startsOperator "::" && (tokens.skip 2).startsOperator "<") = false

theorem EndsPath.endsSegment {tokens : Tokens} (ends : EndsPath tokens) : EndsSegment tokens where
  angle := ends.angle
  turbofish := by rw [ends.separator, Bool.false_and]

/-- The name of a segment: `Self`, or a word that is no keyword. -/
def segmentName (tokens : Tokens) : Reader String := if tokens.startsWord "Self" then anyWord else name

/-- What follows the name of a segment. -/
def segmentArguments (nested : Nested) (name : String) : Reader Segment := do
  if ← ahead fun tokens => tokens.startsOperator "<" && !tokens.startsOperator "<="
      && !tokens.startsOperator "<<=" then
    return .mk name (← angleArguments nested false)
  else if ← ahead fun tokens => tokens.startsOperator "::" && (tokens.skip 2).startsOperator "<" then
    operator "::"
    return .mk name (← angleArguments nested true)
  else return .mk name .none

theorem segment_eq_ite (nested : Nested) (tokens : Tokens) :
    segment nested false tokens =
      if pathWords.any (tokens.startsWord ·) then (do return .mk (← anyWord) .none : Reader Segment) tokens
      else (segmentName tokens >>= segmentArguments nested) tokens := by
  by_cases isPath : pathWords.any (tokens.startsWord ·) = true
  · rw [if_pos isPath]
    exact bind_of_ok (ahead_of isPath) rfl
  · rw [if_neg isPath]
    refine bind_of_ok (ahead_of (Bool.not_eq_true _ ▸ isPath)) ?_
    refine bind_of_ok rfl ?_
    unfold segmentName
    split <;> rfl

theorem segmentName_eq_ok {tokens rest : Tokens} {found : String}
    (read : segmentName tokens tokens = .ok (found, rest)) :
    tokens = .ident found :: rest ∧
      ∀ others, segmentName (.ident found :: others) (.ident found :: others) = .ok (found, others) := by
  unfold segmentName at read
  match tokens with
  | .ident declared :: after =>
    by_cases same : declared = "Self"
    · subst same
      cases read
      exact ⟨rfl, fun _ => rfl⟩
    · have other (rest : Tokens) : Tokens.startsWord "Self" (.ident declared :: rest) = false := by
        simpa [Tokens.startsWord] using same
      rw [other, if_neg Bool.false_ne_true] at read
      have isName := isName_of_name read
      obtain ⟨⟨⟩, -⟩ := Reader.name_eq_ok_iff.mp read
      refine ⟨rfl, fun others => ?_⟩
      rw [segmentName, other, if_neg Bool.false_ne_true]
      exact isName.name_eq others
  | [] | .literal _ :: _ | .group _ _ :: _ | .punct _ _ :: _ => cases read

variable {nested again : Nested} (faithful : Faithful nested again) {tokens rest : Tokens}
include faithful

theorem Faithful.angleArguments {turbofish : Bool} {value : Arguments} (worded : tokens.Worded)
    (structural : value.isStructural = true) (read : angleArguments nested turbofish tokens = .ok (value, rest)) :
    (∃ arguments trailing, value = .angle turbofish arguments trailing ∧
      ReadsBack (Endpoints.angleArguments again turbofish) OpensAngle (fun _ => True)
        ('<' :: (commaTexts (argumentTexts arguments) ++ ['>']))
        (fun other => other.kept true = value.kept true)) ∧ rest.Worded := by
  obtain ⟨_, inside, opened, read⟩ := bind_eq_ok_iff.mp read
  obtain ⟨found, behind, listed, read⟩ := bind_eq_ok_iff.mp read
  obtain ⟨_, _, closed, read⟩ := bind_eq_ok_iff.mp read
  cases read
  obtain ⟨each, left⟩ := each_of_separatedUntil faithful.argument (worded.left (leaves_operator "<") opened)
    (argumentsStructural_iff.mp structural) listed
  refine ⟨⟨found.items, found.trailing, rfl, ?_⟩, left.left (leaves_operator ">") closed⟩
  obtain ⟨pieces, values, spelled, alike, fits, opens, reads⟩ := readsBack_separated true
    (fun _ opens => (angle_of_opensArgument opens).1) (fun spacing rest => ⟨endsArgument_comma spacing rest, rfl⟩) each
  refine ⟨.mark '<' :: (pieces ++ [.mark '>']), .angle turbofish values false, ?_, ?_, ?_, ?_, ?_⟩
  · rw [textAll, textAll_append, spelled, commaTexts, argumentTexts_eq_map, List.map_map]
    rfl
  · simp only [Arguments.kept, argumentsKept_of_forall₂ alike]
  · exact .mark (by decide) (by decide) (fits.append (.mark (by decide) (by decide) .nil) (by rintro _ ⟨⟩; decide))
  · intro rest
    have inside : Tokens.startsOperator "=" (tokensAll (pieces ++ [.mark '>'] ++ rest)) = false ∧
        Tokens.startsOperator "<" (tokensAll (pieces ++ [.mark '>'] ++ rest)) = false := by
      rw [List.append_assoc]
      obtain ⟨-, rfl⟩ | ⟨-, opens⟩ := opens
      · exact ⟨rfl, rfl⟩
      · exact (angle_of_opensArgument (opens _)).2
    exact opensAngle_cons _ inside.1 inside.2
  · intro rest _
    have opened : operator "<" (tokensAll (.mark '<' :: (pieces ++ [.mark '>']) ++ rest)) =
        .ok ((), tokensAll (pieces ++ .mark '>' :: rest)) := by
      rw [List.cons_append, List.append_assoc]
      exact bind_of_ok rfl rfl
    have closed : operator ">" (tokensAll (.mark '>' :: rest)) = .ok ((), tokensAll rest) := bind_of_ok rfl rfl
    have ends : EndsArgument (tokensAll (.mark '>' :: rest)) :=
      ⟨⟨⟨rfl, rfl⟩, rfl, rfl, rfl, fun _ => rfl⟩, rfl, rfl⟩
    exact bind_of_ok opened (bind_of_ok (reads (.mark '>' :: rest) rfl ends) (bind_of_ok closed rfl))

/-- A segment is read back whatever follows it that goes on with neither its name nor its arguments. -/
def Segment.IsReread (again : Nested) (value : Segment) : Prop :=
  ∃ more other, value.name.toList ++ textAll more = value.text.toList ∧ other.kept true = value.kept true ∧
    Prints (segment again false) (∃ others, · = .ident value.name :: others) EndsSegment (.word value.name :: more)
      other

theorem Faithful.segment {value : Segment} (worded : tokens.Worded) (structural : value.isStructural = true)
    (read : segment nested false tokens = .ok (value, rest)) :
    (∃ others, tokens = .ident value.name :: others) ∧ value.IsReread again ∧ rest.Worded := by
  rw [segment_eq_ite] at read
  split at read
  next isPath =>
    obtain ⟨name, after, taken, read⟩ := bind_eq_ok_iff.mp read
    cases read
    unfold anyWord at taken
    split at taken
    next =>
      cases taken
      refine ⟨⟨_, rfl⟩, ⟨[], .mk name .none, ?_, rfl, .word worded.isWord parts_nil .nil, fun rest => ⟨_, rfl⟩,
        fun others _ => ?_⟩, worded.tail⟩
      · rw [Segment.text_mk, Arguments.text]
        rfl
      · rw [segment_eq_ite]
        exact if_pos isPath
    next => cases taken
  next other =>
    obtain ⟨name, after, taken, continued⟩ := bind_eq_ok_iff.mp read
    obtain ⟨rfl, named⟩ := segmentName_eq_ok taken
    have word := worded.isWord
    have left := worded.tail
    have start (others : Tokens) :
        segment again false (.ident name :: others) = segmentArguments again name others := by
      rw [segment_eq_ite]
      refine (if_neg other).trans ?_
      exact bind_of_ok (named others) rfl
    clear read
    obtain ⟨-, read⟩ | ⟨-, read⟩ := of_ahead_ite continued
    · obtain ⟨arguments, _, listed, read⟩ := bind_eq_ok_iff.mp read
      cases read
      obtain ⟨⟨arguments, trailing, rfl, pieces, other, spelled, same, prints⟩, last⟩ :=
        faithful.angleArguments left structural listed
      refine ⟨⟨_, rfl⟩, ⟨pieces, .mk name other, ?_, ?_, .word word ?_ prints.fits, fun rest => ⟨_, rfl⟩,
        fun rest _ => ?_⟩, last⟩
      · rw [Segment.text_mk, Arguments.text_angle, spelled]
        rfl
      · simp only [Segment.kept, same]
      · rw [Parts, spelled]
        rintro _ ⟨⟩
        decide
      · have opens := prints.opens rest
        have looks : (Tokens.startsOperator "<" (tokensAll (pieces ++ rest)) &&
            !Tokens.startsOperator "<=" (tokensAll (pieces ++ rest)) &&
            !Tokens.startsOperator "<<=" (tokensAll (pieces ++ rest))) = true := by
          rw [opens.opens, opens.atMost, opens.shift]
          rfl
        refine (start (tokensAll (pieces ++ rest))).trans (bind_of_ok (ahead_of looks) ?_)
        exact bind_of_ok (prints.reads rest trivial) rfl
    obtain ⟨-, read⟩ | ⟨-, read⟩ := of_ahead_ite read
    · obtain ⟨_, _, separated, read⟩ := bind_eq_ok_iff.mp read
      obtain ⟨arguments, _, listed, read⟩ := bind_eq_ok_iff.mp read
      cases read
      obtain ⟨⟨arguments, trailing, rfl, pieces, other, spelled, same, prints⟩, last⟩ :=
        faithful.angleArguments (left.left (leaves_operator "::") separated) structural listed
      refine ⟨⟨_, rfl⟩, ⟨.mark ':' :: .mark ':' :: pieces, .mk name other, ?_, ?_, .word word ?_ ?_,
        fun rest => ⟨_, rfl⟩, fun rest _ => ?_⟩, last⟩
      · rw [Segment.text_mk, Arguments.text_angle, textAll, textAll, spelled]
        rfl
      · simp only [Segment.kept, same]
      · rintro _ ⟨⟩
        decide
      · exact .mark (by decide) (by decide) (.mark (by decide) (by decide) prints.fits)
      · have opens := prints.opens rest
        have turbofish : Tokens.startsOperator "<" (Tokens.skip 2
            (tokensAll (.mark ':' :: .mark ':' :: pieces ++ rest))) = true := opens.opens
        refine (start (tokensAll (.mark ':' :: .mark ':' :: pieces ++ rest))).trans (bind_of_ok (ahead_of rfl) ?_)
        refine bind_of_ok (ahead_of (congrArg (true && ·) turbofish)) ?_
        exact bind_of_ok (bind_of_ok rfl rfl) (bind_of_ok (prints.reads rest trivial) rfl)
    · cases read
      refine ⟨⟨_, rfl⟩, ⟨[], .mk name .none, ?_, rfl, .word word parts_nil .nil, fun rest => ⟨_, rfl⟩,
        fun rest ends => ?_⟩, left⟩
      · rw [Segment.text_mk, Arguments.text]
        rfl
      · have looks : (Tokens.startsOperator "<" (tokensAll rest) && !Tokens.startsOperator "<=" (tokensAll rest) &&
            !Tokens.startsOperator "<<=" (tokensAll rest)) = false := by
          rw [ends.angle]
          rfl
        refine (start (tokensAll rest)).trans (bind_of_ok (ahead_of looks) ?_)
        exact bind_of_ok (ahead_of ends.turbofish) rfl

end Segments

section Paths
variable {nested again : Nested} (faithful : Faithful nested again) {tokens rest : Tokens}

/-- Whether a further segment of a path comes next. -/
def goesOnPath (tokens : Tokens) : Bool :=
  tokens.startsOperator "::" && !(tokens.skip 2).startsGroup .parenthesis

/-- A further segment of a path. -/
def furtherSegment (nested : Nested) : Reader Segment := do
  operator "::"
  segment nested false

include faithful in
theorem Faithful.furtherSegments {fuel : Nat} {segments : List Segment} (worded : tokens.Worded)
    (structural : segmentsStructural segments = true)
    (read : whileFuel goesOnPath (furtherSegment nested) fuel tokens = .ok (segments, rest)) :
    (∃ pieces others, textAll pieces = segmentsTail segments ∧
      segmentsKept true others = segmentsKept true segments ∧ Fits pieces ∧ Parts pieces ∧
      (∀ rest, EndsPath (tokensAll rest) → EndsSegment (tokensAll (pieces ++ rest))) ∧
      ∀ fuel rest, (tokensAll (pieces ++ rest)).length < fuel → EndsPath (tokensAll rest) →
        whileFuel goesOnPath (furtherSegment again) fuel (tokensAll (pieces ++ rest)) = .ok (others, tokensAll rest)) ∧
      rest.Worded := by
  induction fuel generalizing tokens segments with
  | zero => cases read
  | succ fuel ih =>
    obtain ⟨-, read⟩ | ⟨-, read⟩ := of_ahead_ite read
    · obtain ⟨first, between, taken, read⟩ := bind_eq_ok_iff.mp read
      obtain ⟨more, _, listed, read⟩ := bind_eq_ok_iff.mp read
      cases read
      obtain ⟨_, after, separated, taken⟩ := bind_eq_ok_iff.mp taken
      rw [segmentsStructural, Bool.and_eq_true] at structural
      obtain ⟨-, ⟨arguments, other, spelled, same, prints⟩, left⟩ :=
        faithful.segment (worded.left (leaves_operator "::") separated) structural.1 taken
      obtain ⟨⟨pieces, others, spelledOthers, sames, fits, parts, ends, reads⟩, last⟩ := ih left structural.2 listed
      refine ⟨⟨.mark ':' :: .mark ':' :: (.word first.name :: arguments ++ pieces), other :: others, ?_, ?_, ?_, ?_, ?_,
        ?_⟩, last⟩
      · simp [textAll, textAll_append, Piece.text, segmentsTail, ← spelled, spelledOthers]
      · rw [segmentsKept, segmentsKept, same, sames]
      · exact .mark (by decide) (by decide) (.mark (by decide) (by decide) (prints.fits.append fits parts))
      · rintro _ ⟨⟩
        decide
      · exact fun rest _ => ⟨rfl, rfl⟩
      · intro fuel rest enough endsPath
        obtain ⟨fuel, rfl⟩ := Nat.exists_eq_add_one_of_ne_zero (Nat.ne_of_gt (Nat.zero_lt_of_lt enough))
        have longer := length_tokensAll_append (.word first.name :: arguments) (pieces ++ rest)
        have split : .mark ':' :: .mark ':' :: (.word first.name :: arguments ++ pieces) ++ rest =
            .mark ':' :: .mark ':' :: (.word first.name :: arguments ++ (pieces ++ rest)) := by simp
        rw [split] at enough ⊢
        have counted :
            (tokensAll (.mark ':' :: .mark ':' :: (.word first.name :: arguments ++ (pieces ++ rest)))).length =
              (tokensAll (.word first.name :: arguments ++ (pieces ++ rest))).length + 2 := rfl
        have taken : furtherSegment again
            (tokensAll (.mark ':' :: .mark ':' :: (.word first.name :: arguments ++ (pieces ++ rest)))) =
              .ok (other, tokensAll (pieces ++ rest)) :=
          bind_of_ok (bind_of_ok rfl rfl) (prints.reads (pieces ++ rest) (ends rest endsPath))
        refine bind_of_ok (ahead_of rfl) ?_
        exact bind_of_ok taken (bind_of_ok (reads fuel rest (by omega) endsPath) rfl)
    · cases read
      refine ⟨⟨[], [], rfl, rfl, .nil, parts_nil, fun rest ends => ends.endsSegment, fun fuel rest enough ends => ?_⟩,
        worded⟩
      obtain ⟨fuel, rfl⟩ := Nat.exists_eq_add_one_of_ne_zero (Nat.ne_of_gt (Nat.zero_lt_of_lt enough))
      have stops : goesOnPath (tokensAll rest) = false := by rw [goesOnPath, ends.separator, Bool.false_and]
      exact bind_of_ok (ahead_of stops) rfl

/-- Tokens that start a path as others do. -/
inductive StartsAs (tokens : Tokens) : Tokens → Prop where
  | global (spacing : Spacing) (rest : Tokens) : StartsAs tokens (.punct ':' .joint :: .punct ':' spacing :: rest)
  | named {name : String} {before : Tokens} (same : tokens = .ident name :: before) (rest : Tokens) :
      StartsAs tokens (.ident name :: rest)

include faithful in
theorem Faithful.path {value : Path} (worded : tokens.Worded) (structural : value.isStructural = true)
    (read : path nested false tokens = .ok (value, rest)) :
    ReadsBack (Endpoints.path again false) (StartsAs tokens) EndsPath value.text.toList
      (fun other => other.kept true = value.kept true) ∧ rest.Worded := by
  obtain ⟨isGlobal, after, marked, read⟩ := bind_eq_ok_iff.mp read
  obtain ⟨first, between, taken, read⟩ := bind_eq_ok_iff.mp read
  obtain ⟨more, _, listed, read⟩ := bind_eq_ok_iff.mp read
  cases read
  rw [Path.isStructural, segmentsStructural, Bool.and_eq_true] at structural
  obtain ⟨⟨before, start⟩, ⟨arguments, other, spelled, same, prints⟩, left⟩ :=
    faithful.segment (worded.left (leaves_operator? "::") marked) structural.1 taken
  obtain ⟨⟨pieces, others, spelledOthers, sames, fits, parts, ends, reads⟩, last⟩ :=
    faithful.furtherSegments left structural.2 listed
  have behind (rest : List Piece) (endsPath : EndsPath (tokensAll rest)) :
      (Endpoints.segment again false >>= fun first => moreSegments again false >>= fun more =>
        (pure (Path.mk isGlobal (first :: more)) : Reader Path))
          (tokensAll (.word first.name :: arguments ++ (pieces ++ rest))) =
        .ok (.mk isGlobal (other :: others), tokensAll rest) :=
    bind_of_ok (prints.reads (pieces ++ rest) (ends rest endsPath))
      (bind_of_ok (reads _ rest (Nat.lt_succ_self _) endsPath) rfl)
  refine ⟨⟨(if isGlobal then [.mark ':', .mark ':'] else []) ++ (.word first.name :: arguments ++ pieces),
    .mk isGlobal (other :: others), ?_, ?_, ?_, ?_, ?_⟩, last⟩
  · rw [Path.text_mk, ← spelled, ← spelledOthers]
    cases isGlobal <;> simp [textAll, textAll_append, Piece.text]
  · simp only [Path.kept, segmentsKept, same, sames]
  · cases isGlobal with
    | false => exact prints.fits.append fits parts
    | true => exact .mark (by decide) (by decide) (.mark (by decide) (by decide) (prints.fits.append fits parts))
  · intro rest
    cases isGlobal with
    | true => exact .global _ _
    | false =>
      obtain rfl := of_operator? marked
      exact .named start _
  · intro rest endsPath
    cases isGlobal with
    | true =>
      rw [if_pos rfl, List.append_assoc, List.append_assoc]
      exact bind_of_ok rfl (behind rest endsPath)
    | false =>
      rw [if_neg Bool.false_ne_true, List.nil_append, List.append_assoc]
      exact bind_of_ok rfl (behind rest endsPath)

end Paths

end Endpoints
