import Endpoints.Proofs.PathsReadBack
import Endpoints.Proofs.ReadTraits

/-! Reading the texts of bounds back: paths whose last segment may have the arguments of a function trait, and lists of
traits and lifetimes with a plus between them. -/

namespace Endpoints
open Reader Piece Lexeme

section Calls

section Plain

theorem withCall_cons_cons (arguments : Arguments) (first next : Segment) (more : List Segment) :
    withCall arguments (first :: next :: more) = first :: withCall arguments (next :: more) := by
  cases first
  rfl

theorem segmentsTail_withCall (arguments : Arguments) {segments : List Segment}
    (plain : segments.getLast?.any (·.arguments.isNone) = true) :
    segmentsTail (withCall arguments segments) = segmentsTail segments ++ arguments.text.toList := by
  induction segments with
  | nil => cases plain
  | cons first more ih =>
    cases more with
    | nil =>
      obtain ⟨name, before⟩ := first
      cases before with
      | none => simp [withCall, segmentsTail, Segment.text, Arguments.text]
      | _ => cases plain
    | cons next more =>
      rw [List.getLast?_cons_cons] at plain
      rw [withCall_cons_cons, segmentsTail, ih plain]
      conv_rhs => rw [segmentsTail]
      simp

theorem Path.text_withCall (isGlobal : Bool) (arguments : Arguments) {segments : List Segment}
    (plain : segments.getLast?.any (·.arguments.isNone) = true) :
    (Path.mk isGlobal (withCall arguments segments)).text.toList =
      (Path.mk isGlobal segments).text.toList ++ arguments.text.toList := by
  have tails := segmentsTail_withCall arguments plain
  cases segments with
  | nil => cases plain
  | cons first more =>
    obtain ⟨head, others, shape⟩ : ∃ head others, withCall arguments (first :: more) = head :: others := by
      cases more with
      | nil =>
        cases first
        exact ⟨_, _, rfl⟩
      | cons next more => exact ⟨_, _, withCall_cons_cons arguments first next more⟩
    rw [shape, segmentsTail, segmentsTail] at tails
    rw [shape, Path.text_mk, Path.text_mk, List.append_assoc]
    simpa using tails

theorem structural_of_withCall {arguments : Arguments} {segments : List Segment}
    (plain : segments.getLast?.any (·.arguments.isNone) = true)
    (structural : segmentsStructural (withCall arguments segments) = true) :
    segmentsStructural segments = true ∧ arguments.isStructural = true := by
  induction segments with
  | nil => cases plain
  | cons first more ih =>
    cases more with
    | nil =>
      obtain ⟨name, before⟩ := first
      cases before with
      | none => exact ⟨rfl, by simpa [withCall, segmentsStructural, Segment.isStructural] using structural⟩
      | _ => cases plain
    | cons next more =>
      rw [List.getLast?_cons_cons] at plain
      rw [withCall_cons_cons, segmentsStructural, Bool.and_eq_true] at structural
      obtain ⟨others, last⟩ := ih plain structural.2
      rw [segmentsStructural, Bool.and_eq_true]
      exact ⟨⟨structural.1, others⟩, last⟩

theorem segmentsKept_withCall (all : Bool) (arguments : Arguments) (segments : List Segment) :
    segmentsKept all (withCall arguments segments) = withCall (arguments.kept all) (segmentsKept all segments) := by
  induction segments with
  | nil => rfl
  | cons first more ih =>
    cases more with
    | nil =>
      obtain ⟨name, before⟩ := first
      simp [withCall, segmentsKept, Segment.kept]
    | cons next more =>
      rw [withCall_cons_cons, segmentsKept, ih]
      simp only [segmentsKept, withCall_cons_cons]

theorem isNone_kept (all : Bool) (arguments : Arguments) : (arguments.kept all).isNone = arguments.isNone := by
  cases arguments <;> simp [Arguments.kept, Arguments.isNone]

theorem plain_segmentsKept (all : Bool) (segments : List Segment) :
    (segmentsKept all segments).getLast?.any (·.arguments.isNone) = segments.getLast?.any (·.arguments.isNone) := by
  induction segments with
  | nil => rfl
  | cons first more ih =>
    cases more with
    | nil =>
      obtain ⟨name, arguments⟩ := first
      simp [segmentsKept, Segment.kept, Segment.arguments, isNone_kept]
    | cons next more =>
      rw [segmentsKept, List.getLast?_cons_cons, ← ih]
      simp [segmentsKept]

end Plain

variable {nested again : Nested} (faithful : Faithful nested again) {tokens rest : Tokens}

theorem isEmpty_of_opensType {tokens : Tokens} (opens : opensType tokens = true) : tokens.isEmpty = false := by
  cases tokens with
  | nil => cases opens
  | cons => rfl

theorem exists_of_startsGroup {delimiter : Delimiter} {tokens : Tokens} (starts : tokens.startsGroup delimiter = true) :
    ∃ content rest, tokens = .group delimiter content :: rest := by
  match tokens with
  | .group other content :: rest =>
    obtain rfl : other = delimiter := of_decide_eq_true starts
    exact ⟨content, rest, rfl⟩
  | [] | .ident _ :: _ | .literal _ :: _ | .punct _ _ :: _ => cases starts

include faithful in
theorem Faithful.output {value : Option Ty} (worded : tokens.Worded)
    (structural : ∀ type ∈ value, type.isStructural = true) (read : output nested false tokens = .ok (value, rest)) :
    (∃ pieces other, textAll pieces = outputPart value ∧ outputKept true other = outputKept true value ∧ Fits pieces ∧
      Parts pieces ∧ ∀ rest, EndsType false (tokensAll rest) →
        Endpoints.output again false (tokensAll (pieces ++ rest)) = .ok (other, tokensAll rest)) ∧ rest.Worded := by
  obtain ⟨given, after, marked, read⟩ := bind_eq_ok_iff.mp read
  have left := worded.left (leaves_operator? "->") marked
  split at read
  · obtain ⟨type, _, taken, read⟩ := bind_eq_ok_iff.mp read
    cases read
    obtain ⟨⟨pieces, other, spelled, same, prints⟩, last⟩ := faithful.type left (structural type rfl) taken
    refine ⟨⟨.blank :: .mark '-' :: .mark '>' :: .blank :: pieces, some other, ?_, ?_, ?_, ?_, fun rest ends => ?_⟩,
      last⟩
    · simp [textAll, Piece.text, outputPart, spelled]
    · rw [outputKept, outputKept, same]
    · exact .blank (.mark (by decide) (by decide) (.mark (by decide) (by decide) (.blank prints.fits)))
    · rintro _ ⟨⟩
      decide
    · exact bind_of_ok rfl (bind_of_ok (prints.reads rest ends) rfl)
  · cases read
    exact ⟨⟨[], none, rfl, rfl, .nil, parts_nil, fun rest ends => bind_of_ok (operator?_absent ends.arrow) rfl⟩, left⟩

theorem exists_typeList {types : List Ty} (each : ∀ type ∈ types, type.IsReread again.type true) :
    ∃ pieces values, textAll pieces = commaTexts (typeTexts types) ∧ typesKept true values = typesKept true types ∧
      values.length = types.length ∧ Fits pieces ∧
      (types = [] ∧ pieces = [] ∨ types ≠ [] ∧ ∀ rest, opensType (tokensAll (pieces ++ rest)) = true) ∧
      commaList (again.type true) (tokensAll pieces) = .ok (⟨values, false⟩, []) := by
  obtain ⟨pieces, values, spelled, alike, fits, opens, reads⟩ := readsBack_separated true
    (fun _ opens => isEmpty_of_opensType opens)
    (fun spacing rest => ⟨(endsArgument_comma spacing rest).toEndsType, rfl⟩) each
  refine ⟨pieces, values, ?_, typesKept_of_forall₂ alike, alike.length_eq.symm, fits, opens, ?_⟩
  · rw [spelled, commaTexts, typeTexts_eq_map, List.map_map]
    rfl
  · have whole := reads [] rfl (endsType_nil true)
    rwa [List.append_nil] at whole

include faithful in
theorem Faithful.callArguments {value : Arguments} (worded : tokens.Worded) (structural : value.isStructural = true)
    (read : callArguments nested tokens = .ok (value, rest)) :
    ReadsBack (Endpoints.callArguments again) (·.startsGroup .parenthesis = true) (EndsType false) value.text.toList
      (fun other => other.kept true = value.kept true) ∧ Parted value.text.toList ∧ rest.Worded := by
  obtain ⟨inputs, after, held, read⟩ := bind_eq_ok_iff.mp read
  obtain ⟨output, _, given, read⟩ := bind_eq_ok_iff.mp read
  cases read
  obtain ⟨content, rfl, listed⟩ := group_eq_ok_iff.mp held
  have parts : typesStructural inputs.items = true ∧ ∀ type ∈ output, type.isStructural = true := by
    cases output with
    | none => exact ⟨structural, nofun⟩
    | some type =>
      rw [Arguments.isStructural, Bool.and_eq_true] at structural
      exact ⟨structural.1, fun _ same => Option.some.inj same ▸ structural.2⟩
  obtain ⟨each, -⟩ := each_of_separatedUntil faithful.type worded.content (typesStructural_iff.mp parts.1) listed
  obtain ⟨⟨arrow, other, spelledOutput, sameOutput, fitsOutput, partsOutput, readsOutput⟩, last⟩ :=
    faithful.output worded.tail parts.2 given
  obtain ⟨pieces, values, spelled, same, -, fits, -, listed⟩ := exists_typeList each
  refine ⟨⟨.group .parenthesis pieces :: arrow, .call values false other, ?_, ?_, .group fits fitsOutput, fun _ => rfl,
    fun rest ends => ?_⟩, ?_, last⟩
  · rw [textAll, Piece.text, spelled, spelledOutput, Arguments.text_call]
    simp [Delimiter.opens, Delimiter.closes]
  · simp only [Arguments.kept, same, sameOutput]
  · have held : group .parenthesis (commaList (again.type true))
        (tokensAll (.group .parenthesis pieces :: arrow ++ rest)) = .ok (⟨values, false⟩, tokensAll (arrow ++ rest)) :=
      group_eq_ok_iff.mpr ⟨tokensAll pieces, rfl, listed⟩
    exact bind_of_ok held (bind_of_ok (readsOutput rest ends) rfl)
  · rw [Arguments.text_call]
    rintro _ ⟨⟩
    decide

include faithful in
theorem Faithful.boundPath {value : Path} (worded : tokens.Worded) (structural : value.isStructural = true)
    (read : boundPath nested tokens = .ok (value, rest)) :
    ReadsBack (Endpoints.boundPath again) (StartsAs tokens) (EndsType false) value.text.toList
      (fun other => other.kept true = value.kept true) ∧ rest.Worded := by
  obtain ⟨⟨isGlobal, segments⟩, after, taken, read⟩ := bind_eq_ok_iff.mp read
  obtain ⟨called, read⟩ | ⟨-, read⟩ := of_ahead_ite read
  · obtain ⟨_, between, marked, read⟩ := bind_eq_ok_iff.mp read
    obtain ⟨arguments, _, listed, read⟩ := bind_eq_ok_iff.mp read
    cases read
    have plain : segments.getLast?.any (·.arguments.isNone) = true := (Bool.and_eq_true_iff.mp called).1
    obtain ⟨front, last⟩ := structural_of_withCall plain structural
    obtain ⟨⟨pieces, ⟨isRooted, others⟩, spelled, same, prints⟩, left⟩ :=
      faithful.path worded (by rw [Path.isStructural, front]) taken
    obtain ⟨⟨behind, other, spelledOther, sameOther, printsOther⟩, parted, left⟩ :=
      faithful.callArguments (left.left (leaves_operator? "::") marked) last listed
    simp only [Path.kept, Path.mk.injEq] at same
    obtain ⟨rfl, same⟩ := same
    have plainOthers : others.getLast?.any (·.arguments.isNone) = true := by
      rw [← plain_segmentsKept true, same, plain_segmentsKept, plain]
    refine ⟨⟨pieces ++ behind, .mk isRooted (withCall other others), ?_, ?_, prints.fits.append printsOther.fits ?_, ?_,
      fun rest ends => ?_⟩, left⟩
    · rw [textAll_append, spelled, spelledOther]
      exact (Path.text_withCall isRooted arguments plain).symm
    · simp only [Path.kept, segmentsKept_withCall, same, sameOther, Path.isGlobal, Path.segments]
    · rw [Parts, spelledOther]
      exact parted
    · intro rest
      rw [List.append_assoc]
      exact prints.opens _
    · rw [List.append_assoc]
      obtain ⟨content, more, shape⟩ := exists_of_startsGroup (printsOther.opens rest)
      have given := printsOther.reads rest ends
      rw [shape] at given
      have calls : (others.getLast?.any (·.arguments.isNone) &&
          (Tokens.startsGroup .parenthesis (.group .parenthesis content :: more) || false)) = true := by
        rw [plainOthers]
        rfl
      refine bind_of_ok (prints.reads (behind ++ rest) (by rw [shape]; exact ⟨rfl, rfl⟩)) ?_
      rw [shape]
      exact bind_of_ok (ahead_of calls) (bind_of_ok rfl (bind_of_ok given rfl))
  · cases read
    obtain ⟨⟨pieces, other, spelled, same, prints⟩, left⟩ := faithful.path worded structural taken
    refine ⟨⟨pieces, other, spelled, same, prints.fits, prints.opens, fun rest ends => ?_⟩, left⟩
    refine bind_of_ok (prints.reads rest ends.toEndsPath) ?_
    have uncalled (plain : Bool) : (plain && (Tokens.startsGroup .parenthesis (tokensAll rest) ||
        Tokens.startsOperator "::" (tokensAll rest) &&
          Tokens.startsGroup .parenthesis (Tokens.skip 2 (tokensAll rest)))) = false := by
      rw [ends.group, ends.separator, Bool.false_and, Bool.or_self, Bool.and_false]
    exact bind_of_ok (ahead_of (uncalled _)) rfl

end Calls

section Bounds
variable {nested again : Nested} (faithful : Faithful nested again) {tokens rest : Tokens}

/-- A trait in a bound after what may qualify it. -/
def boundAfter (nested : Nested) (before : Tokens) (qualified : Bool) : Reader (Option Bound) := do
  let optional ← operator? "?"
  let binderAfter ← if optional && before.isEmpty then binder nested else pure []
  let path ← boundPath nested
  let binder := before ++ binderAfter
  if optional && !binder.isEmpty then reject "a bound with `?` takes no `for<…>` binder"
  if qualified then return none
  return some (.ofTrait false optional binder path)

/-- A bound that has a binder or a qualification. -/
def IsQualified (found : Option Bound) : Prop := ∀ optional path, found ≠ some (.ofTrait false optional [] path)

theorem gives_boundAfter {before : Tokens} {qualified : Bool} (told : before ≠ [] ∨ qualified = true) :
    Gives IsQualified (boundAfter nested before qualified) := by
  refine gives_bind fun optional => gives_either fun after => gives_bind fun path => gives_after gives_bind fun _ => ?_
  rcases told with told | rfl
  · refine gives_ite (gives_pure nofun) (gives_pure fun _ _ same => told ?_)
    simp only [Option.some.injEq, Bound.ofTrait.injEq, List.append_eq_nil_iff] at same
    exact same.2.2.1.1
  · exact gives_pure nofun

/-- What a trait without a binder and without a qualification starts with. -/
structure PlainBound (tokens : Tokens) : Prop where
  binder : tokens.startsWord "for" = false
  conditional : tokens.startsGroup .bracket = false
  unconditional : tokens.startsWord "const" = false

theorem binder_absent (absent : tokens.startsWord "for" = false) : binder nested tokens = .ok ([], tokens) :=
  bind_of_ok (word?_absent absent) rfl

theorem of_binder (read : binder nested tokens = .ok ([], rest)) : tokens.startsWord "for" = false ∧ rest = tokens := by
  obtain ⟨hasBinder, left, named, binding⟩ := bind_eq_ok_iff.mp read
  obtain ⟨absent, same⟩ := of_word? named
  cases hasBinder with
  | true =>
    obtain ⟨_, _, -, bound⟩ := bind_eq_ok_iff.mp binding
    obtain ⟨_, _, -, bound⟩ := bind_eq_ok_iff.mp bound
    obtain ⟨_, _, -, bound⟩ := bind_eq_ok_iff.mp bound
    cases bound
  | false =>
    cases binding
    exact ⟨absent, same⟩

theorem traitBound?_eq (allowConst : Bool) (plain : PlainBound tokens) :
    traitBound? nested false allowConst tokens = boundAfter nested [] false tokens := by
  refine bind_of_ok (binder_absent plain.binder) ?_
  refine bind_of_ok (ahead_of plain.conditional) ?_
  exact bind_of_ok (word?_absent plain.unconditional) rfl

theorem plain_of_traitBound? {allowConst optional : Bool} {path : Path}
    (read : traitBound? nested false allowConst tokens = .ok (some (.ofTrait false optional [] path), rest)) :
    PlainBound tokens := by
  obtain ⟨before, after, bound, continued⟩ := bind_eq_ok_iff.mp read
  clear read
  have free : before = [] := by
    by_contra told
    have qualified : IsQualified (some (.ofTrait false optional [] path)) := by
      refine gives_bind (fun conditional => ?_) _ _ _ continued
      refine gives_after (fun later => gives_bind fun _ => gives_ite (later ()) (gives_bind later)) fun _ => ?_
      exact gives_bind fun unconditional => gives_after gives_bind fun _ => gives_boundAfter (.inl told)
    exact qualified optional path rfl
  subst free
  obtain ⟨binder, same⟩ := of_binder bound
  subst same
  obtain ⟨conditional, _, looked, read⟩ := bind_eq_ok_iff.mp continued
  obtain ⟨held, same⟩ := of_ahead looked
  subst same
  cases conditional with
  | true =>
    have qualified : IsQualified (some (.ofTrait false optional [] path)) := by
      refine gives_bind (fun _ => ?_) _ _ _ read
      have later : ∀ done : Unit, Gives IsQualified (do
          let unconditional ← word? "const"
          if unconditional && !allowConst then reject "`const` is not allowed here"
          boundAfter nested [] (true || unconditional)) := fun _ =>
        gives_bind fun unconditional => gives_after gives_bind fun _ => gives_boundAfter (.inr (Bool.true_or _))
      exact gives_ite (later ()) (gives_bind later)
    exact absurd rfl (qualified optional path)
  | false =>
    obtain ⟨unconditional, after, named, read⟩ := bind_eq_ok_iff.mp read
    obtain ⟨absent, -⟩ := of_word? named
    cases unconditional with
    | true =>
      have qualified : IsQualified (some (.ofTrait false optional [] path)) := by
        refine gives_after gives_bind (fun _ => ?_) _ _ _ read
        exact gives_boundAfter (.inr (Bool.or_true _))
      exact absurd rfl (qualified optional path)
    | false => exact ⟨binder, held, absent⟩

theorem gives_traitBound? (parenthesized allowConst : Bool) :
    Gives (fun found => ∀ bound ∈ found, ∃ optional binder path, bound = .ofTrait parenthesized optional binder path)
      (traitBound? nested parenthesized allowConst) := by
  refine gives_bind fun before => gives_bind fun conditional => ?_
  refine gives_after (fun later => gives_bind fun _ => gives_ite (later ()) (gives_bind later)) fun _ => ?_
  refine gives_bind fun unconditional => gives_after gives_bind fun _ => gives_bind fun optional => ?_
  refine gives_either fun after => gives_bind fun path => gives_after gives_bind fun _ => ?_
  exact gives_ite (gives_pure nofun) (gives_pure fun _ same => ⟨_, _, _, (Option.some.inj same).symm⟩)

theorem StartsAs.startsWord {others : Tokens} (starts : StartsAs tokens others) {name : String}
    (absent : tokens.startsWord name = false) : others.startsWord name = false := by
  cases starts with
  | global => rfl
  | named same =>
    subst same
    exact absent

theorem StartsAs.startsGroup {others : Tokens} (starts : StartsAs tokens others) (delimiter : Delimiter) :
    others.startsGroup delimiter = false := by cases starts <;> rfl

theorem StartsAs.unmarked {others : Tokens} (starts : StartsAs tokens others) : others.startsOperator "?" = false := by
  cases starts <;> rfl

/-- How a trait starts where it is a bound. -/
structure OpensTrait (tokens : Tokens) : Prop where
  starts : startsBound tokens = true
  lifetime : tokens.startsLifetime = false
  captures : tokens.startsWord "use" = false
  group : tokens.startsGroup .parenthesis = false

theorem StartsAs.opensTrait {others : Tokens} (starts : StartsAs tokens others)
    (free : tokens.startsWord "use" = false) : OpensTrait others := by
  refine ⟨?_, ?_, starts.startsWord free, ?_⟩ <;> cases starts <;> rfl

include faithful in
theorem Faithful.traitBound? {allowConst optional : Bool} {path : Path} (worded : tokens.Worded)
    (free : tokens.startsWord "use" = false) (structural : path.isStructural = true)
    (read : traitBound? nested false allowConst tokens = .ok (some (.ofTrait false optional [] path), rest)) :
    ReadsBack (Endpoints.traitBound? again false allowConst) OpensTrait (EndsType false)
      (Bound.ofTrait false optional [] path).text.toList
      (fun other => other.map (Bound.kept true) = some ((Bound.ofTrait false optional [] path).kept true)) ∧
      rest.Worded := by
  have plain := plain_of_traitBound? read
  rw [traitBound?_eq allowConst plain] at read
  obtain ⟨marked, after, mark, read⟩ := bind_eq_ok_iff.mp read
  have left := worded.left (leaves_operator? "?") mark
  rw [Bound.text_ofTrait]
  cases marked with
  | true =>
    obtain ⟨before, _, bound, read⟩ := bind_eq_ok_iff.mp read
    obtain ⟨found, _, taken, read⟩ := bind_eq_ok_iff.mp read
    split at read
    · cases read
    cases read
    obtain ⟨absent, same⟩ := of_binder bound
    subst same
    obtain ⟨⟨pieces, other, spelled, same, prints⟩, last⟩ := faithful.boundPath left structural taken
    refine ⟨⟨.mark '?' :: pieces, some (.ofTrait false true [] other), ?_, ?_,
      .mark (by decide) (by decide) prints.fits, fun rest => ⟨rfl, rfl, rfl, rfl⟩, fun rest ends => ?_⟩, last⟩
    · simp [textAll, Piece.text, spelled]
    · simp [Bound.kept, same]
    · have plain : PlainBound (tokensAll (.mark '?' :: pieces ++ rest)) := ⟨rfl, rfl, rfl⟩
      rw [traitBound?_eq allowConst plain]
      refine bind_of_ok rfl ?_
      refine bind_of_ok (binder_absent ((prints.opens rest).startsWord absent)) ?_
      exact bind_of_ok (prints.reads rest ends) rfl
  | false =>
    obtain ⟨_, _, same, read⟩ := bind_eq_ok_iff.mp read
    cases same
    obtain ⟨found, _, taken, read⟩ := bind_eq_ok_iff.mp read
    cases read
    obtain rfl := of_operator? mark
    obtain ⟨⟨pieces, other, spelled, same, prints⟩, last⟩ := faithful.boundPath left structural taken
    refine ⟨⟨pieces, some (.ofTrait false false [] other), spelled, ?_, prints.fits,
      fun rest => (prints.opens rest).opensTrait free, fun rest ends => ?_⟩, last⟩
    · simp [Bound.kept, same]
    · have starts := prints.opens rest
      have again : PlainBound (tokensAll (pieces ++ rest)) :=
        ⟨starts.startsWord plain.binder, starts.startsGroup .bracket, starts.startsWord plain.unconditional⟩
      rw [traitBound?_eq allowConst again]
      refine bind_of_ok (operator?_absent starts.unmarked) ?_
      exact bind_of_ok rfl (bind_of_ok (prints.reads rest ends) rfl)

theorem gives_capturing : Gives (fun bound => bound.isStructural = false) capturing :=
  gives_bind fun _ => gives_bind fun _ => gives_bind fun _ => gives_bind fun _ => gives_pure rfl

include faithful in
theorem Faithful.bound {allowCaptures allowConst : Bool} {value : Bound} (worded : tokens.Worded)
    (structural : value.isStructural = true) (read : bound nested allowCaptures allowConst tokens = .ok (value, rest)) :
    ReadsBack (Endpoints.bound again allowCaptures allowConst) (startsBound · = true) (EndsType false)
      value.text.toList (fun other => other.kept true = value.kept true) ∧ rest.Worded := by
  obtain ⟨-, read⟩ | ⟨-, read⟩ := of_ahead_ite read
  · obtain ⟨name, after, taken, read⟩ := bind_eq_ok_iff.mp read
    cases read
    obtain rfl := of_lifetime taken
    refine ⟨⟨[.lifetime name], .lifetime name, ?_, rfl, .lifetime worded.tail.isWord parts_nil .nil, fun _ => rfl,
      fun rest _ => bind_of_ok rfl (bind_of_ok rfl rfl)⟩, worded.tail.tail⟩
    rw [Bound.text_lifetime, textAll, textAll, Piece.text, List.append_nil]
  obtain ⟨-, read⟩ | ⟨free, read⟩ := of_ahead_ite read
  · obtain ⟨captured, _, taken, read⟩ := bind_eq_ok_iff.mp read
    have spelled := gives_capturing _ _ _ taken
    split at read
    · cases read
      rw [spelled] at structural
      cases structural
    · cases read
  obtain ⟨inParentheses, _, looked, read⟩ := bind_eq_ok_iff.mp read
  cases (of_ahead looked).2
  obtain ⟨⟨found, taken⟩, _, inner, read⟩ := bind_eq_ok_iff.mp read
  cases read
  have inner := of_withTokens inner
  cases found with
  | none => cases structural
  | some bound =>
    cases inParentheses with
    | true =>
      obtain ⟨content, -, held⟩ := group_eq_ok_iff.mp inner
      obtain ⟨_, _, _, rfl⟩ := gives_traitBound? true allowConst _ _ _ held bound rfl
      cases structural
    | false =>
      obtain ⟨optional, binder, path, rfl⟩ := gives_traitBound? false allowConst _ _ _ inner bound rfl
      simp only [Option.getD_some, Bound.isStructural, Bool.and_eq_true, List.isEmpty_iff] at structural
      obtain ⟨⟨-, rfl⟩, structural⟩ := structural
      obtain ⟨⟨pieces, other, spelled, same, prints⟩, last⟩ := faithful.traitBound? worded free structural inner
      obtain ⟨bound, rfl, kept⟩ := Option.map_eq_some_iff.mp same
      refine ⟨⟨pieces, bound, spelled, kept, prints.fits, fun rest => (prints.opens rest).starts,
        fun rest ends => ?_⟩, last⟩
      have opens := prints.opens rest
      obtain ⟨_, taken⟩ := exists_withTokens (prints.reads rest ends)
      refine bind_of_ok (ahead_of opens.lifetime) ?_
      refine bind_of_ok (ahead_of opens.captures) ?_
      exact bind_of_ok (ahead_of opens.group) (bind_of_ok taken rfl)

/-- How a list of bounds is followed that is read with or without more than one of them. -/
theorem EndsType.weaker {plus : Bool} (ends : EndsType plus tokens) : EndsType false tokens :=
  { ends with sum := nofun }

theorem startsBound_goes {allowConst : Bool} (opens : startsBound tokens = true) :
    (startsBound tokens || allowConst && startsConstBound tokens) = true := by
  rw [opens, Bool.true_or]

include faithful in
/-- What is read where bounds may be joined by a plus, or where they may not, is read back where they may. -/
theorem Faithful.bounds {plus more allowCaptures allowConst : Bool} (wider : plus = true → more = true)
    {found : Separated Bound} (worded : tokens.Worded) (structural : boundsStructural found.items = true)
    (read : bounds nested plus allowCaptures allowConst tokens = .ok (found, rest)) :
    ReadsBack (Endpoints.bounds again more allowCaptures allowConst) (startsBound · = true) (EndsType more)
      (plusTexts (boundTexts found.items))
      (fun other => boundsKept true other.items = boundsKept true found.items) ∧ rest.Worded := by
  have joined {first : Bound} {others : List Bound} (each : ∀ bound ∈ first :: others,
      ReadsBack (Endpoints.bound again allowCaptures allowConst) (startsBound · = true) (EndsType false)
        bound.text.toList (fun other => other.kept true = bound.kept true)) :
      ReadsBack (Endpoints.bounds again true allowCaptures allowConst) (startsBound · = true) (EndsType true)
        (plusTexts (boundTexts (first :: others)))
        (fun other => boundsKept true other.items = boundsKept true (first :: others)) := by
    obtain ⟨pieces, value, spelled, ⟨alike, -⟩, prints⟩ := readsBack_chain (fun _ => startsBound_goes)
      (fun _ _ => ⟨⟨rfl, rfl⟩, rfl, rfl, rfl, nofun⟩) each
    refine ⟨pieces, value, ?_, boundsKept_of_forall₂ alike, prints.fits, prints.opens,
      fun rest ends => prints.reads rest ⟨ends.weaker, ends.sum rfl⟩⟩
    rw [spelled, plusTexts, boundTexts_eq_map, List.map_map]
    rfl
  cases plus with
  | true =>
    obtain rfl := wider rfl
    obtain ⟨first, after, taken, read⟩ := bind_eq_ok_iff.mp read
    obtain ⟨others, _, listed, read⟩ := bind_eq_ok_iff.mp read
    cases read
    obtain ⟨one, structural⟩ := List.forall_mem_cons.mp (boundsStructural_iff.mp structural)
    obtain ⟨firstBack, left⟩ := faithful.bound worded one taken
    obtain ⟨each, last⟩ := each_of_tail faithful.bound left structural listed
    exact ⟨joined (List.forall_mem_cons.mpr ⟨firstBack, each⟩), last⟩
  | false =>
    obtain ⟨single, _, taken, read⟩ := bind_eq_ok_iff.mp read
    cases read
    rw [boundsStructural, Bool.and_eq_true] at structural
    obtain ⟨singleBack, last⟩ := faithful.bound worded structural.1 taken
    refine ⟨?_, last⟩
    cases more with
    | true => exact joined (List.forall_mem_singleton.mpr singleBack)
    | false =>
      obtain ⟨pieces, value, spelled, same, prints⟩ := singleBack
      refine ⟨pieces, ⟨[value], false⟩, ?_, ?_, prints.fits, prints.opens,
        fun rest ends => bind_of_ok (prints.reads rest ends) rfl⟩
      · rw [spelled]
        simp [plusTexts, boundTexts]
      · simp only [boundsKept, same]

end Bounds

end Endpoints
