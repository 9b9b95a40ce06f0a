import Endpoints.Proofs.TypeKinds

/-! Types from their texts: where the texts of two tidy types are the same, the types show the same. -/

namespace Endpoints
open Nesting TypeText

section Lists

variable {texts others : List String}

theorem texts_injective {marks lead tail : List Char} {mark : Char} (leads : Closed marks lead)
    (stops : Nesting.top.step marks mark = none) (each : ∀ text ∈ texts, Listed marks text.toList)
    (every : ∀ text ∈ others, Listed marks text.toList)
    (same : (lead ++ mark :: tail).intercalate (texts.map String.toList) =
      (lead ++ mark :: tail).intercalate (others.map String.toList)) : texts = others := by
  have parts {texts : List String} (each : ∀ text ∈ texts, Listed marks text.toList) :
      ∀ part ∈ texts.map String.toList, Closed marks part ∧ part ≠ [] := by
    intro part member
    obtain ⟨text, among, rfl⟩ := List.mem_map.mp member
    exact ⟨(each text among).closed, (each text among).nonempty⟩
  have alike := intercalate_injective leads stops (parts each) (parts every) same
  exact List.map_injective_iff.mpr (fun _ _ => String.toList_injective) alike

theorem commaTexts_injective (each : ∀ text ∈ texts, Listed separators text.toList)
    (every : ∀ text ∈ others, Listed separators text.toList) (same : commaTexts texts = commaTexts others) :
    texts = others :=
  @texts_injective _ _ separators [] [' '] ',' .nil (by decide) each every same

theorem plusTexts_injective (each : ∀ text ∈ texts, Listed boundSeparators text.toList)
    (every : ∀ text ∈ others, Listed boundSeparators text.toList) (same : plusTexts texts = plusTexts others) :
    texts = others :=
  @texts_injective _ _ boundSeparators [' '] [' '] '+' (by decide) (by decide) each every same

theorem commaTexts_cons (first second : String) (more : List String) :
    commaTexts (first :: second :: more) = first.toList ++ ',' :: ' ' :: commaTexts (second :: more) := by
  simp [commaTexts, List.intercalate_cons_cons]

theorem tupleText_cons (first second : String) (more : List String) :
    tupleText (first :: second :: more) = first.toList ++ ',' :: ' ' :: commaTexts (second :: more) :=
  commaTexts_cons first second more

theorem stops_comma {rest : List Char} : Stops separators (',' :: rest) := stops_cons.mpr (by decide)

theorem tupleText_ne {text : List Char} (listed : Listed separators text)
    (each : ∀ text ∈ texts, Listed separators text.toList) : text ≠ tupleText texts := by
  intro same
  cases texts with
  | nil => exact listed.nonempty same
  | cons first rest =>
    have inner := each first List.mem_cons_self
    cases rest with
    | nil =>
      rw [tupleText, ← List.append_nil text] at same
      have ends := (listed.closed.cut inner.closed stops_nil stops_comma same).2
      cases ends
    | cons second more =>
      rw [tupleText_cons, ← List.append_nil text] at same
      have ends := (listed.closed.cut inner.closed stops_nil stops_comma same).2
      cases ends

theorem tupleText_injective (each : ∀ text ∈ texts, Listed separators text.toList)
    (every : ∀ text ∈ others, Listed separators text.toList) (same : tupleText texts = tupleText others) :
    texts = others := by
  -- A single type and a list of several do not have the same behind the first comma.
  have single {text first second : String} {more : List String} (one : Listed separators text.toList)
      (two : Listed separators first.toList) : tupleText [text] ≠ tupleText (first :: second :: more) := by
    intro alike
    rw [tupleText, tupleText_cons] at alike
    have ends := (one.closed.cut two.closed stops_comma stops_comma alike).2
    cases ends
  have some_texts {text : String} {more : List String} : tupleText (text :: more) ≠ [] := by
    cases more with
    | nil => simp [tupleText]
    | cons next others => simp [tupleText_cons]
  cases texts with
  | nil =>
    cases others with
    | nil => rfl
    | cons other rest => exact absurd same.symm some_texts
  | cons text more =>
    cases others with
    | nil => exact absurd same some_texts
    | cons other rest =>
      have one := each text List.mem_cons_self
      have two := every other List.mem_cons_self
      cases more with
      | nil =>
        cases rest with
        | nil =>
          rw [tupleText, tupleText] at same
          rw [String.toList_injective (List.append_cancel_right same)]
        | cons second rest => exact absurd same (single one two)
      | cons next more =>
        cases rest with
        | nil => exact absurd same.symm (single two one)
        | cons second rest =>
          rw [tupleText_cons, tupleText_cons, ← commaTexts_cons, ← commaTexts_cons] at same
          exact commaTexts_injective each every same

end Lists

section Cuts

theorem reference_cut {lifetime other : Option String} {mutable changeable : Bool} {text more : List Char}
    (one : lifetime.all (isWord ·.toList) = true) (two : other.all (isWord ·.toList) = true)
    (first : Standalone text) (second : Standalone more)
    (same : lifetimePart lifetime ++ (mutablePart mutable ++ text) =
      lifetimePart other ++ (mutablePart changeable ++ more)) :
    lifetime = other ∧ mutable = changeable ∧ text = more := by
  have words {mutable changeable : Bool} {text more : List Char} (first : Standalone text) (second : Standalone more)
      (same : mutablePart mutable ++ text = mutablePart changeable ++ more) : mutable = changeable ∧ text = more := by
    cases mutable <;> cases changeable
    · exact ⟨rfl, same⟩
    · exact absurd ⟨_, same.symm⟩ first.mutable
    · exact absurd ⟨_, same⟩ second.mutable
    · exact ⟨rfl, List.append_cancel_left same⟩
  -- No target starts with a lifetime, so one that is there belongs to the reference.
  have apart {name : String} {mutable : Bool} {text rest : List Char} (word : isWord name.toList = true)
      (standalone : Standalone text) : mutablePart mutable ++ text ≠ lifetimePart (some name) ++ rest := by
    intro alike
    cases mutable with
    | true => cases alike
    | false =>
      have like : lifetimeLike text = true := by
        have named : (name.toList ++ ' ' :: rest).dropWhile isNameCharacter = ' ' :: rest := by
          rw [List.dropWhile_append_of_pos (isWord_iff.mp word).2]
          rfl
        have start : text = '\'' :: (name.toList ++ ' ' :: rest) := by simpa [mutablePart, lifetimePart] using alike
        rw [start]
        simp [lifetimeLike, named]
      exact Bool.false_ne_true (standalone.lifetime.symm.trans like)
  cases lifetime with
  | none =>
    cases other with
    | none =>
      obtain ⟨rfl, rfl⟩ := words first second same
      exact ⟨rfl, rfl, rfl⟩
    | some label => exact absurd same (apart two first)
  | some name =>
    cases other with
    | none => exact absurd same.symm (apart one second)
    | some label =>
      have shape (name : String) (rest : List Char) :
          lifetimePart (some name) ++ rest = '\'' :: (name.toList ++ ' ' :: rest) := by simp [lifetimePart]
      rw [shape, shape, List.cons.injEq] at same
      obtain ⟨names, left⟩ := word_cut one two (endsName_cons (by decide)) (endsName_cons (by decide)) same.2
      obtain ⟨rfl, rfl⟩ := words first second (List.cons.inj left).2
      exact ⟨congrArg some (String.toList_injective names), rfl, rfl⟩

/-- Behind a segment comes nothing, or a separator and a name. -/
theorem segmentsTail_start {segments : List Segment} (tidy : segmentsTidy segments = true) :
    segmentsTail segments = [] ∨
      ∃ c rest, segmentsTail segments = ':' :: ':' :: c :: rest ∧ isNameCharacter c = true := by
  cases segments with
  | nil => exact .inl rfl
  | cons segment rest =>
    obtain ⟨name, arguments⟩ := segment
    simp only [segmentsTidy, Segment.isTidy, Bool.and_eq_true] at tidy
    obtain ⟨nonempty, names⟩ := isWord_iff.mp (isName_iff.mp tidy.1.1.1).1
    obtain ⟨c, others, start⟩ := List.exists_cons_of_ne_nil nonempty
    refine .inr ⟨c, others ++ arguments.text.toList ++ segmentsTail rest, ?_, names c (by simp [start])⟩
    simp [segmentsTail, Segment.text_mk, start]

/-- Paths with the same text are both global or both not, and have the same segments behind. -/
theorem Path.cut {isGlobal isRooted : Bool} {segments others : List Segment}
    (one : (Path.mk isGlobal segments).isTidy = true) (two : (Path.mk isRooted others).isTidy = true)
    (same : (Path.mk isGlobal segments).text.toList = (Path.mk isRooted others).text.toList) :
    isGlobal = isRooted ∧ segmentsTail segments = segmentsTail others := by
  simp only [Path.isTidy, Bool.and_eq_true] at one two
  have first := segmentsTail_start one.2
  have second := segmentsTail_start two.2
  cases segments with
  | nil => simp at one
  | cons segment rest =>
    cases others with
    | nil => simp at two
    | cons other more =>
      rw [Path.text_mk, Path.text_mk] at same
      simp only [segmentsTail, List.cons.injEq, true_and, reduceCtorEq, false_or] at first second ⊢
      obtain ⟨c, _, start, named⟩ := first
      obtain ⟨d, _, begins, labelled⟩ := second
      cases isGlobal <;> cases isRooted
      · exact ⟨rfl, same⟩
      · simp only [Bool.false_eq_true, if_false, List.nil_append, if_true, start, List.cons_append,
          List.cons.injEq] at same
        rw [same.1] at named
        cases named
      · simp only [Bool.false_eq_true, if_false, List.nil_append, if_true, begins, List.cons_append,
          List.cons.injEq] at same
        rw [← same.1] at labelled
        cases labelled
      · exact ⟨rfl, List.append_cancel_left same⟩

theorem segmentsTail_ne {segments : List Segment} (tidy : segmentsTidy segments = true) {arguments : Arguments}
    (given : arguments ≠ .none) {rest : List Char} : segmentsTail segments ≠ arguments.text.toList ++ rest := by
  intro same
  have start := segmentsTail_start tidy
  rw [same] at start
  cases arguments with
  | none => exact given rfl
  | angle turbofish arguments trailing =>
    rw [Arguments.text_angle] at start
    cases turbofish with
    | false => simp [turbofishPart] at start
    | true =>
      simp only [turbofishPart, List.cons_append, List.nil_append, List.cons.injEq, true_and, reduceCtorEq,
        false_or] at start
      obtain ⟨c, _, ⟨rfl, _⟩, named⟩ := start
      cases named
  | call inputs trailing output =>
    rw [Arguments.text_call] at start
    simp at start

theorem segmentsTail_ne_output {segments : List Segment} (tidy : segmentsTidy segments = true) {type : Ty}
    {rest : List Char} : outputPart none ++ segmentsTail segments ≠ outputPart (some type) ++ rest := by
  intro same
  have start := segmentsTail_start tidy
  rw [outputPart, List.nil_append] at same
  rw [same] at start
  simp [outputPart] at start

theorem commaTexts_cut {bracket : Char} (closes : Nesting.top.step [] bracket = none) {texts others : List String}
    {rest more : List Char} (each : ∀ text ∈ texts, Listed separators text.toList)
    (every : ∀ text ∈ others, Listed separators text.toList)
    (same : commaTexts texts ++ bracket :: rest = commaTexts others ++ bracket :: more) :
    texts = others ∧ rest = more := by
  obtain ⟨alike, left⟩ := (closed_commaTexts fun text among => (each text among).closed).cut
    (closed_commaTexts fun text among => (every text among).closed) (stops_cons.mpr closes) (stops_cons.mpr closes) same
  exact ⟨commaTexts_injective each every alike, (List.cons.inj left).2⟩

theorem angle_cut {turbofish other : Bool} {texts others : List String} {rest more : List Char}
    (each : ∀ text ∈ texts, Listed separators text.toList) (every : ∀ text ∈ others, Listed separators text.toList)
    (same : turbofishPart turbofish ++ '<' :: (commaTexts texts ++ ['>']) ++ rest =
      turbofishPart other ++ '<' :: (commaTexts others ++ ['>']) ++ more) :
    turbofish = other ∧ texts = others ∧ rest = more := by
  cases turbofish <;> cases other <;>
    simp only [turbofishPart, List.nil_append, List.cons_append, List.append_assoc, List.cons.injEq, true_and] at same
  · exact ⟨rfl, commaTexts_cut (by decide) each every same⟩
  · exact absurd same.1 (by decide)
  · exact absurd same.1 (by decide)
  · exact ⟨rfl, commaTexts_cut (by decide) each every same⟩

end Cuts

section Mutual

theorem pointer_cut {mutable changeable : Bool} {text more : List Char}
    (same : pointerPart mutable ++ text = pointerPart changeable ++ more) : mutable = changeable ∧ text = more := by
  cases mutable <;> cases changeable
  · exact ⟨rfl, List.append_cancel_left same⟩
  · cases same
  · cases same
  · exact ⟨rfl, List.append_cancel_left same⟩

theorem stops_semicolon {rest : List Char} : Stops separators (';' :: rest) := stops_cons.mpr (by decide)

theorem stops_bracket {rest : List Char} : Stops separators (']' :: rest) := stops_cons.mpr (by decide)

theorem constant_congr {tokens others : Tokens} (same : compactText tokens = compactText others) :
    tokens.constant = others.constant := by
  rw [Tokens.constant, Tokens.constant, same]

mutual

theorem Ty.shown_of_text : ∀ first second : Ty, first.isTidy = true → second.isTidy = true →
    first.text.toList = second.text.toList → first.kept false = second.kept false
  | .array element length => fun second one two same => by
    have kinds := Ty.kind_eq_of_text one two same
    cases second with
    | array other size =>
      simp only [Ty.isTidy, Bool.and_eq_true] at one two
      rw [Ty.text_array, Ty.text_array, List.cons.injEq] at same
      obtain ⟨elements, left⟩ := (element.standalone one.1).closed.cut (other.standalone two.1).closed stops_semicolon
        stops_semicolon same.2
      simp only [List.cons.injEq, true_and, List.append_cancel_right_eq, String.toList_inj] at left
      have lengths := constant_congr left
      simp only [Ty.kept, Bool.false_eq_true, if_false, element.shown_of_text other one.1 two.1 elements, lengths]
    | slice other =>
      rw [Ty.isTidy] at two
      simp only [Ty.isTidy, Bool.and_eq_true] at one
      rw [Ty.text_array, Ty.text_slice, List.cons.injEq] at same
      have ends := ((element.standalone one.1).closed.cut (other.standalone two).closed stops_semicolon stops_bracket
        same.2).2
      cases ends
    | _ => cases kinds
  | .function .. => fun second one two same => Ty.shown_of_spelled rfl one two same
  | .implementing bounds trailing => fun second one two same => by
    have kinds := Ty.kind_eq_of_text one two same
    cases second with
    | implementing others ends =>
      rw [Ty.isTidy] at one two
      rw [Ty.text_implementing, Ty.text_implementing] at same
      have texts := plusTexts_injective (fun text among => (listed_bounds bounds one text among).1)
        (fun text among => (listed_bounds others two text among).1) (List.append_cancel_left same)
      rw [Ty.kept, Ty.kept, shown_of_boundTexts bounds others one two texts]
    | _ => cases kinds
  | .inferred => fun second one two same => by
    have kinds := Ty.kind_eq_of_text one two same
    cases second with
    | inferred => rfl
    | _ => cases kinds
  | .never => fun second one two same => by
    have kinds := Ty.kind_eq_of_text one two same
    cases second with
    | never => rfl
    | _ => cases kinds
  | .paren inner => fun second one two same => by
    have kinds := Ty.kind_eq_of_text one two same
    rw [Ty.isTidy] at one
    cases second with
    | paren other =>
      rw [Ty.isTidy] at two
      rw [Ty.text_paren, Ty.text_paren, List.cons.injEq] at same
      rw [Ty.kept, Ty.kept, inner.shown_of_text other one two (List.append_cancel_right same.2)]
    | tuple elements ends =>
      rw [Ty.isTidy] at two
      rw [Ty.text_paren, Ty.text_tuple, List.cons.injEq] at same
      have apart := tupleText_ne (inner.standalone one).listed (listed_types two)
      exact absurd (List.append_cancel_right same.2) apart
    | _ => cases kinds
  | .path path => fun second one two same => by
    have kinds := Ty.kind_eq_of_text one two same
    cases second with
    | path other =>
      rw [Ty.isTidy] at one two
      rw [Ty.text, Ty.text] at same
      rw [Ty.kept, Ty.kept, path.shown_of_text other one two same]
    | _ => cases kinds
  | .qualified .. => fun second one two same => Ty.shown_of_spelled rfl one two same
  | .pointer mutable target => fun second one two same => by
    have kinds := Ty.kind_eq_of_text one two same
    cases second with
    | pointer changeable other =>
      rw [Ty.isTidy] at one two
      rw [Ty.text_pointer, Ty.text_pointer, List.cons.injEq] at same
      obtain ⟨rfl, targets⟩ := pointer_cut same.2
      rw [Ty.kept, Ty.kept, target.shown_of_text other one two targets]
    | _ => cases kinds
  | .reference lifetime mutable target => fun second one two same => by
    have kinds := Ty.kind_eq_of_text one two same
    cases second with
    | reference label changeable other =>
      simp only [Ty.isTidy, Bool.and_eq_true] at one two
      rw [Ty.text_reference, Ty.text_reference, List.cons.injEq] at same
      obtain ⟨rfl, rfl, targets⟩ := reference_cut one.1 two.1 (target.standalone one.2) (other.standalone two.2) same.2
      rw [Ty.kept, Ty.kept, target.shown_of_text other one.2 two.2 targets]
    | _ => cases kinds
  | .slice element => fun second one two same => by
    have kinds := Ty.kind_eq_of_text one two same
    rw [Ty.isTidy] at one
    cases second with
    | array other size =>
      simp only [Ty.isTidy, Bool.and_eq_true] at two
      rw [Ty.text_slice, Ty.text_array, List.cons.injEq] at same
      have ends := ((element.standalone one).closed.cut (other.standalone two.1).closed stops_bracket stops_semicolon
        same.2).2
      cases ends
    | slice other =>
      rw [Ty.isTidy] at two
      rw [Ty.text_slice, Ty.text_slice, List.cons.injEq] at same
      rw [Ty.kept, Ty.kept, element.shown_of_text other one two (List.append_cancel_right same.2)]
    | _ => cases kinds
  | .traitObject keyword bounds trailing => fun second one two same => by
    have kinds := Ty.kind_eq_of_text one two same
    cases second with
    | traitObject word others ends =>
      rw [Ty.isTidy] at one two
      rw [Ty.text_traitObject, Ty.text_traitObject] at same
      have texts := plusTexts_injective (fun text among => (listed_bounds bounds one text among).1)
        (fun text among => (listed_bounds others two text among).1) (List.append_cancel_left same)
      rw [Ty.kept, Ty.kept, shown_of_boundTexts bounds others one two texts, Bool.not_false, Bool.or_true, Bool.or_true]
    | _ => cases kinds
  | .tuple elements trailing => fun second one two same => by
    have kinds := Ty.kind_eq_of_text one two same
    rw [Ty.isTidy] at one
    cases second with
    | paren other =>
      rw [Ty.isTidy] at two
      rw [Ty.text_tuple, Ty.text_paren, List.cons.injEq] at same
      have apart := tupleText_ne (other.standalone two).listed (listed_types one)
      exact absurd (List.append_cancel_right same.2).symm apart
    | tuple others ends =>
      rw [Ty.isTidy] at two
      rw [Ty.text_tuple, Ty.text_tuple, List.cons.injEq] at same
      have texts := tupleText_injective (listed_types one) (listed_types two) (List.append_cancel_right same.2)
      rw [Ty.kept, Ty.kept, shown_of_typeTexts elements others one two texts]
    | _ => cases kinds
  | .call .. => fun second one two same => Ty.shown_of_spelled rfl one two same
  | .verbatim _ => fun second one two same => Ty.shown_of_spelled rfl one two same

theorem shown_of_typeTexts : ∀ types others : List Ty, typesTidy types = true → typesTidy others = true →
    typeTexts types = typeTexts others → typesKept false types = typesKept false others
  | [] => fun others one two same => by
    cases others with
    | nil => rfl
    | cons other more => simp [typeTexts] at same
  | type :: rest => fun others one two same => by
    cases others with
    | nil => simp [typeTexts] at same
    | cons other more =>
      simp only [typesTidy, Bool.and_eq_true] at one two
      simp only [typeTexts, List.cons.injEq] at same
      rw [typesKept, typesKept, type.shown_of_text other one.1 two.1 (congrArg _ same.1),
        shown_of_typeTexts rest more one.2 two.2 same.2]

theorem Path.shown_of_text : ∀ first second : Path, first.isTidy = true → second.isTidy = true →
    first.text.toList = second.text.toList → first.kept false = second.kept false
  | .mk isGlobal segments => fun second one two same => by
    obtain ⟨isRooted, others⟩ := second
    obtain ⟨rfl, tails⟩ := Path.cut one two same
    simp only [Path.isTidy, Bool.and_eq_true] at one two
    rw [Path.kept, Path.kept, shown_of_segments segments others one.2 two.2 tails]

theorem shown_of_segments : ∀ segments others : List Segment, segmentsTidy segments = true →
    segmentsTidy others = true → segmentsTail segments = segmentsTail others →
    segmentsKept false segments = segmentsKept false others
  | [] => fun others one two same => by
    cases others with
    | nil => rfl
    | cons other more => cases same
  | segment :: rest => fun others one two same => by
    cases others with
    | nil => cases same
    | cons other more =>
      obtain ⟨name, arguments⟩ := segment
      obtain ⟨label, given⟩ := other
      simp only [segmentsTidy, Segment.isTidy, Segment.arguments, Bool.and_eq_true, Bool.or_eq_true,
        Bool.not_eq_true', List.isEmpty_iff] at one two
      simp only [segmentsTail, Segment.text_mk, List.append_assoc, List.cons.injEq, true_and] at same
      obtain ⟨⟨⟨named, tidy⟩, last⟩, later⟩ := one
      obtain ⟨⟨⟨labelled, neat⟩, final⟩, after⟩ := two
      obtain ⟨names, left⟩ := word_cut (isName_iff.mp named).1 (isName_iff.mp labelled).1
        (endsName_arguments arguments rest) (endsName_arguments given more) same
      obtain ⟨alike, tails⟩ := arguments.shown_of_text given tidy neat rest more later after
        (fun output => last.resolve_right (by simp [output])) (fun output => final.resolve_right (by simp [output])) left
      rw [segmentsKept, segmentsKept, Segment.kept, Segment.kept, String.toList_injective names, alike,
        shown_of_segments rest more later after tails]

theorem Arguments.shown_of_text : ∀ first second : Arguments, first.isTidy = true → second.isTidy = true →
    ∀ segments others : List Segment, segmentsTidy segments = true → segmentsTidy others = true →
    (first.hasOutput = true → segments = []) → (second.hasOutput = true → others = []) →
    first.text.toList ++ segmentsTail segments = second.text.toList ++ segmentsTail others →
    first.kept false = second.kept false ∧ segmentsTail segments = segmentsTail others
  | .none => fun second one two segments others first _ _ _ same => by
    cases second with
    | none => exact ⟨rfl, same⟩
    | _ => exact absurd same (segmentsTail_ne first (by simp))
  | .angle turbofish arguments trailing => fun second one two segments others _ after _ _ same => by
    cases second with
    | none => exact absurd same.symm (segmentsTail_ne after (by simp))
    | angle other given ends =>
      rw [Arguments.isTidy] at one two
      rw [Arguments.text_angle, Arguments.text_angle] at same
      obtain ⟨rfl, texts, tails⟩ := angle_cut (listed_arguments arguments one) (listed_arguments given two) same
      rw [Arguments.kept, Arguments.kept, shown_of_argumentTexts arguments given one two texts]
      exact ⟨rfl, tails⟩
    | call inputs ends output =>
      rw [Arguments.text_angle, Arguments.text_call] at same
      cases turbofish <;> cases same
  | .call inputs trailing none => fun second one two segments others first after _ final same => by
    cases second with
    | none => exact absurd same.symm (segmentsTail_ne after (by simp))
    | angle turbofish arguments ends =>
      rw [Arguments.text_angle, Arguments.text_call] at same
      cases turbofish <;> cases same
    | call types ends given =>
      rw [Arguments.text_call, Arguments.text_call] at same
      simp only [List.cons_append, List.append_assoc, List.cons.injEq, true_and] at same
      cases given with
      | none =>
        rw [Arguments.isTidy] at one two
        obtain ⟨texts, tails⟩ := commaTexts_cut (by decide) (listed_types one) (listed_types two) same
        rw [Arguments.kept, Arguments.kept, shown_of_typeTexts inputs types one two texts]
        exact ⟨rfl, tails⟩
      | some type =>
        rw [Arguments.isTidy] at one
        simp only [Arguments.isTidy, Bool.and_eq_true] at two
        have tails := (commaTexts_cut (by decide) (listed_types one) (listed_types two.1.1) same).2
        exact absurd tails (segmentsTail_ne_output first)
  | .call inputs trailing (some output) => fun second one two segments others first after last final same => by
    cases second with
    | none => exact absurd same.symm (segmentsTail_ne after (by simp))
    | angle turbofish arguments ends =>
      rw [Arguments.text_angle, Arguments.text_call] at same
      cases turbofish <;> cases same
    | call types ends given =>
      rw [Arguments.text_call, Arguments.text_call] at same
      simp only [List.cons_append, List.append_assoc, List.cons.injEq, true_and] at same
      simp only [Arguments.isTidy, Bool.and_eq_true] at one
      cases given with
      | none =>
        rw [Arguments.isTidy] at two
        have tails := (commaTexts_cut (by decide) (listed_types one.1.1) (listed_types two) same).2
        exact absurd tails.symm (segmentsTail_ne_output after)
      | some type =>
        simp only [Arguments.isTidy, Bool.and_eq_true] at two
        obtain ⟨texts, tails⟩ := commaTexts_cut (by decide) (listed_types one.1.1) (listed_types two.1.1) same
        obtain rfl := last rfl
        obtain rfl := final rfl
        have outputs : output.text.toList = type.text.toList := by simpa [outputPart, segmentsTail] using tails
        rw [Arguments.kept, Arguments.kept, shown_of_typeTexts inputs types one.1.1 two.1.1 texts, outputKept, outputKept,
          output.shown_of_text type one.1.2 two.1.2 outputs]
        exact ⟨rfl, rfl⟩

theorem shown_of_argumentTexts : ∀ arguments others : List Argument, argumentsTidy arguments = true →
    argumentsTidy others = true → argumentTexts arguments = argumentTexts others →
    argumentsKept false arguments = argumentsKept false others
  | [] => fun others one two same => by
    cases others with
    | nil => rfl
    | cons other more => simp [argumentTexts] at same
  | argument :: rest => fun others one two same => by
    cases others with
    | nil => simp [argumentTexts] at same
    | cons other more =>
      simp only [argumentsTidy, Bool.and_eq_true] at one two
      simp only [argumentTexts, List.cons.injEq] at same
      rw [argumentsKept, argumentsKept, argument.shown_of_text other one.1 two.1 (congrArg _ same.1),
        shown_of_argumentTexts rest more one.2 two.2 same.2]

theorem Argument.shown_of_text : ∀ first second : Argument, first.isTidy = true → second.isTidy = true →
    first.text.toList = second.text.toList → first.kept false = second.kept false
  | .lifetime name => fun second one two same => by
    have kinds := Argument.kind_eq_of_text one two same
    cases second with
    | lifetime other =>
      rw [Argument.text_lifetime, Argument.text_lifetime] at same
      rw [String.toList_injective (List.cons.inj same).2]
    | _ => cases kinds
  | .type type => fun second one two same => by
    obtain ⟨other, neat, text, shown⟩ := Argument.exists_type (Argument.kind_eq_of_text one two same).symm
    rw [Argument.isTidy] at one
    rw [neat] at two
    rw [text, Argument.text] at same
    rw [shown, Argument.kept, type.shown_of_text other one two same]
  | .const value => fun second one two same => by
    have kinds := Argument.kind_eq_of_text one two same
    cases second with
    | const other =>
      rw [Argument.text, Argument.text] at same
      simp only [Argument.kept, Bool.false_eq_true, if_false, constant_congr (String.toList_injective same)]
    | _ => cases kinds
  | .associatedType name arguments type => fun second one two same => by
    have kinds := Argument.kind_eq_of_text one two same
    cases second with
    | associatedType label given other =>
      simp only [Argument.isTidy, Bool.and_eq_true] at one two
      rw [Argument.text_associatedType, Argument.text_associatedType] at same
      obtain ⟨names, left⟩ := word_cut (isName_iff.mp one.1).1 (isName_iff.mp two.1).1 (endsName_cons (by decide))
        (endsName_cons (by decide)) same
      simp only [List.cons.injEq, true_and] at left
      simp only [Argument.kept, Bool.false_eq_true, if_false, String.toList_injective names,
        type.shown_of_text other one.2 two.2 left]
    | _ => cases kinds
  | .associatedConst .. => fun second one two same => Argument.shown_of_verbatim rfl (by simp) one two same
  | .constraint .. => fun second one two same => Argument.shown_of_verbatim rfl (by simp) one two same

theorem shown_of_boundTexts : ∀ bounds others : List Bound, boundsTidy bounds = true → boundsTidy others = true →
    boundTexts bounds = boundTexts others → boundsKept false bounds = boundsKept false others
  | [] => fun others one two same => by
    cases others with
    | nil => rfl
    | cons other more => simp [boundTexts] at same
  | bound :: rest => fun others one two same => by
    cases others with
    | nil => simp [boundTexts] at same
    | cons other more =>
      simp only [boundsTidy, Bool.and_eq_true] at one two
      simp only [boundTexts, List.cons.injEq] at same
      rw [boundsKept, boundsKept, bound.shown_of_text other one.1 two.1 (congrArg _ same.1),
        shown_of_boundTexts rest more one.2 two.2 same.2]

theorem Bound.shown_of_text : ∀ first second : Bound, first.isTidy = true → second.isTidy = true →
    first.text.toList = second.text.toList → first.kept false = second.kept false
  | .ofTrait parenthesized optional binder path => fun second one two same => by
    have kinds := Bound.kind_eq_of_text one two same
    cases second with
    | ofTrait enclosed relaxed scope other =>
      rw [Bound.isTidy] at one two
      rw [Bound.text_ofTrait, Bound.text_ofTrait] at same
      cases optional <;> cases relaxed <;> cases kinds <;>
        simp only [Bound.kept, Bool.false_eq_true, if_false,
          path.shown_of_text other one two (List.append_cancel_left same)]
    | lifetime => cases optional <;> cases kinds
    | capturing => cases optional <;> cases kinds
    | verbatim => cases optional <;> cases kinds
  | .lifetime name => fun second one two same => by
    have kinds := Bound.kind_eq_of_text one two same
    cases second with
    | ofTrait enclosed relaxed scope other => cases relaxed <;> cases kinds
    | lifetime other =>
      rw [Bound.text_lifetime, Bound.text_lifetime] at same
      rw [String.toList_injective (List.cons.inj same).2]
    | _ => cases kinds
  | .capturing .. => fun second one two same => Bound.shown_of_spelled rfl one two same
  | .verbatim _ => fun second one two same => Bound.shown_of_spelled rfl one two same

end

end Mutual

end Endpoints
