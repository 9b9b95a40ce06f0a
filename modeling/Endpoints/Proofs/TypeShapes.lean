import Endpoints.Proofs.ShownTypes

/-! What the texts of tidy types are made of: each part of one is closed, so that it ends at the first separator behind
it, and the text of a whole type can stand wherever a type can. -/

namespace Endpoints
open Nesting TypeText

section Texts

/-- The texts of types with a comma between them. -/
def commaTexts (texts : List String) : List Char := [',', ' '].intercalate (texts.map String.toList)

/-- The texts of bounds with a plus between them. -/
def plusTexts (texts : List String) : List Char := [' ', '+', ' '].intercalate (texts.map String.toList)

/-- What stands in the parentheses of a tuple: a single type has a comma behind it. -/
def tupleText : List String → List Char
  | [text] => text.toList ++ [',']
  | texts => commaTexts texts

theorem Ty.text_array (element : Ty) (length : Tokens) :
    (Ty.array element length).text.toList =
      '[' :: (element.text.toList ++ ';' :: ' ' :: ((compactText length).toList ++ [']'])) := by
  simp [Ty.text]

theorem Ty.text_slice (element : Ty) : (Ty.slice element).text.toList = '[' :: (element.text.toList ++ [']']) := by
  simp [Ty.text]

theorem Ty.text_paren (inner : Ty) : (Ty.paren inner).text.toList = '(' :: (inner.text.toList ++ [')']) := by
  simp [Ty.text]

def pointerPart : Bool → List Char
  | true => ['m', 'u', 't', ' ']
  | false => ['c', 'o', 'n', 's', 't', ' ']

theorem Ty.text_pointer (mutable : Bool) (target : Ty) :
    (Ty.pointer mutable target).text.toList = '*' :: (pointerPart mutable ++ target.text.toList) := by
  cases mutable <;> simp [Ty.text, pointerPart]

def lifetimePart : Option String → List Char
  | none => []
  | some name => '\'' :: (name.toList ++ [' '])

def mutablePart : Bool → List Char
  | true => ['m', 'u', 't', ' ']
  | false => []

theorem Ty.text_reference (lifetime : Option String) (mutable : Bool) (target : Ty) :
    (Ty.reference lifetime mutable target).text.toList =
      '&' :: (lifetimePart lifetime ++ (mutablePart mutable ++ target.text.toList)) := by
  cases lifetime <;> cases mutable <;> simp [Ty.text, lifetimePart, mutablePart]

theorem Ty.text_tuple (elements : List Ty) (trailing : Bool) :
    (Ty.tuple elements trailing).text.toList = '(' :: (tupleText (typeTexts elements) ++ [')']) := by
  match elements with
  | [] => simp [Ty.text, typeTexts, tupleText, commaTexts]
  | [element] => simp [Ty.text, typeTexts, tupleText]
  | first :: second :: more => simp [Ty.text, typeTexts, tupleText, commaTexts]

theorem Ty.text_implementing (bounds : List Bound) (trailing : Bool) :
    (Ty.implementing bounds trailing).text.toList = "impl ".toList ++ plusTexts (boundTexts bounds) := by
  rw [Ty.text, String.toList_append, String.toList_intercalate]
  rfl

theorem Ty.text_traitObject (keyword : Bool) (bounds : List Bound) (trailing : Bool) :
    (Ty.traitObject keyword bounds trailing).text.toList = "dyn ".toList ++ plusTexts (boundTexts bounds) := by
  rw [Ty.text, String.toList_append, String.toList_intercalate]
  rfl

/-- The text of segments behind the first of them. -/
def segmentsTail : List Segment → List Char
  | [] => []
  | segment :: rest => ':' :: ':' :: (segment.text.toList ++ segmentsTail rest)

theorem segmentTexts_toList (segment : Segment) (rest : List Segment) :
    (String.intercalate "::" (segmentTexts (segment :: rest))).toList = segment.text.toList ++ segmentsTail rest := by
  induction rest generalizing segment with
  | nil => simp [segmentTexts, segmentsTail]
  | cons next more ih =>
    have behind := ih next
    simp only [segmentTexts] at behind ⊢
    rw [String.intercalate_cons_cons, String.toList_append, behind]
    simp [segmentsTail]

theorem Path.text_mk (isGlobal : Bool) (segment : Segment) (rest : List Segment) :
    (Path.mk isGlobal (segment :: rest)).text.toList =
      (if isGlobal then [':', ':'] else []) ++ (segment.text.toList ++ segmentsTail rest) := by
  rw [Path.text, String.toList_append, segmentTexts_toList]
  cases isGlobal <;> rfl

theorem Segment.text_mk (name : String) (arguments : Arguments) :
    (Segment.mk name arguments).text.toList = name.toList ++ arguments.text.toList := by
  rw [Segment.text, String.toList_append]

def turbofishPart : Bool → List Char
  | true => [':', ':']
  | false => []

theorem Arguments.text_angle (turbofish : Bool) (arguments : List Argument) (trailing : Bool) :
    (Arguments.angle turbofish arguments trailing).text.toList =
      turbofishPart turbofish ++ '<' :: (commaTexts (argumentTexts arguments) ++ ['>']) := by
  cases turbofish <;> simp [Arguments.text, turbofishPart, commaTexts]

def outputPart : Option Ty → List Char
  | none => []
  | some output => ' ' :: '-' :: '>' :: ' ' :: output.text.toList

theorem Arguments.text_call (inputs : List Ty) (trailing : Bool) (output : Option Ty) :
    (Arguments.call inputs trailing output).text.toList =
      '(' :: (commaTexts (typeTexts inputs) ++ ')' :: outputPart output) := by
  cases output <;> simp [Arguments.text, outputPart, commaTexts]

theorem Argument.text_associatedType (name : String) (arguments : Arguments) (type : Ty) :
    (Argument.associatedType name arguments type).text.toList =
      name.toList ++ ' ' :: '=' :: ' ' :: type.text.toList := by
  simp [Argument.text]

theorem Argument.text_lifetime (name : String) : (Argument.lifetime name).text.toList = '\'' :: name.toList := by
  simp [Argument.text]

theorem Bound.text_lifetime (name : String) : (Bound.lifetime name).text.toList = '\'' :: name.toList := by
  simp [Bound.text]

theorem Bound.text_ofTrait (parenthesized optional : Bool) (binder : Tokens) (path : Path) :
    (Bound.ofTrait parenthesized optional binder path).text.toList =
      (if optional then ['?'] else []) ++ path.text.toList := by
  cases optional <;> simp [Bound.text]

end Texts

section Names

theorem Arguments.text_start (arguments : Arguments) :
    arguments.text.toList = [] ∨ ∃ rest, arguments.text.toList = '<' :: rest ∨
      arguments.text.toList = ':' :: ':' :: '<' :: rest ∨ arguments.text.toList = '(' :: rest := by
  cases arguments with
  | none => exact .inl rfl
  | angle turbofish arguments trailing =>
    rw [Arguments.text_angle]
    cases turbofish <;> simp [turbofishPart]
  | call inputs trailing output =>
    rw [Arguments.text_call]
    simp

theorem dropWhile_segment {name : String} {arguments : Arguments} {rest : List Char} (named : isName name = true)
    (behind : (rest.dropWhile isPathCharacter).head?.all (fun c => c == '<' || c == '(') = true) :
    ((name.toList ++ arguments.text.toList ++ rest).dropWhile isPathCharacter).head?.all
      (fun c => c == '<' || c == '(') = true := by
  have names : ∀ c ∈ name.toList, isPathCharacter c = true := fun c member =>
    isPathCharacter_of_isNameCharacter ((isWord_iff.mp (isName_iff.mp named).1).2 c member)
  rw [List.append_assoc, List.dropWhile_append_of_pos names]
  rcases arguments.text_start with none | ⟨more, angle | turbofish | call⟩
  · rwa [none]
  · rw [angle]
    rfl
  · rw [turbofish]
    rfl
  · rw [call]
    rfl

theorem dropWhile_segmentsTail {segments : List Segment} (tidy : segmentsTidy segments = true) :
    ((segmentsTail segments).dropWhile isPathCharacter).head?.all (fun c => c == '<' || c == '(') = true := by
  induction segments with
  | nil => rfl
  | cons segment rest ih =>
    obtain ⟨name, arguments⟩ := segment
    simp only [segmentsTidy, Segment.isTidy, Bool.and_eq_true] at tidy
    have behind := @dropWhile_segment name arguments _ tidy.1.1.1 (ih tidy.2)
    rw [segmentsTail, Segment.text_mk]
    exact behind

theorem endsName_arguments (arguments : Arguments) (segments : List Segment) :
    EndsName (arguments.text.toList ++ segmentsTail segments) := by
  rcases arguments.text_start with none | ⟨more, angle | turbofish | call⟩
  · rw [none]
    cases segments with
    | nil => exact endsName_nil
    | cons segment rest => exact endsName_cons (by decide)
  · rw [angle]
    exact endsName_cons (by decide)
  · rw [turbofish]
    exact endsName_cons (by decide)
  · rw [call]
    exact endsName_cons (by decide)

theorem Path.pathLike_text {path : Path} (tidy : path.isTidy = true) : pathLike path.text.toList = true := by
  obtain ⟨isGlobal, segments⟩ := path
  cases segments with
  | nil => simp [Path.isTidy] at tidy
  | cons segment rest =>
    obtain ⟨name, arguments⟩ := segment
    simp only [Path.isTidy, segmentsTidy, Segment.isTidy, Bool.and_eq_true] at tidy
    obtain ⟨_, ⟨⟨named, _⟩, _⟩, later⟩ := tidy
    have ends := @dropWhile_segment name arguments _ named (dropWhile_segmentsTail later)
    rw [Path.text_mk, Segment.text_mk]
    cases isGlobal with
    | true => simpa [pathLike, isPathCharacter, isNameCharacter, reserved] using ends
    | false =>
      obtain ⟨word, digit, free⟩ := isName_iff.mp named
      obtain ⟨nonempty, names⟩ := isWord_iff.mp word
      obtain ⟨c, others, start⟩ := List.exists_cons_of_ne_nil nonempty
      have first : c.isDigit = false ∧ isPathCharacter c = true := by
        rw [start] at digit names
        exact ⟨by simpa using digit, isPathCharacter_of_isNameCharacter (names c List.mem_cons_self)⟩
      have taken : (name.toList ++ arguments.text.toList ++ segmentsTail rest).takeWhile isNameCharacter = name.toList := by
        rw [List.append_assoc]
        exact takeWhile_word names (endsName_arguments arguments rest)
      have head : (name.toList ++ arguments.text.toList ++ segmentsTail rest).head? = some c := by
        rw [start]
        rfl
      simp only [Bool.false_eq_true, if_false, List.nil_append, pathLike, taken, head, ends, String.ofList_toList]
      simp [first, free]

end Names

section Closed

theorem closed_comma : Closed [] [',', ' '] := by decide

theorem closed_commaTexts {texts : List String} (closed : ∀ text ∈ texts, Closed separators text.toList) :
    Closed [] (commaTexts texts) :=
  .intercalate closed_comma fun part member => by
    obtain ⟨text, among, rfl⟩ := List.mem_map.mp member
    exact (closed text among).of_subset (List.nil_subset _)

theorem closed_plusTexts {texts : List String} (closed : ∀ text ∈ texts, Closed boundSeparators text.toList) :
    Closed separators (plusTexts texts) :=
  .intercalate (by decide) fun part member => by
    obtain ⟨text, among, rfl⟩ := List.mem_map.mp member
    exact closed_weaker (closed text among)

/-- The text of an argument or a bound that stands in a list. -/
structure Listed (marks text : List Char) : Prop where
  closed : Closed marks text
  nonempty : text ≠ []

theorem standalone_of_isSpelled {tokens : Tokens} (spelled : isSpelled tokens = true) :
    Standalone (compactText tokens).toList := by
  simp only [isSpelled, Bool.and_eq_true, decide_eq_true_eq] at spelled
  exact spelled.1

theorem enclosable_tupleText {texts : List String} (closed : ∀ text ∈ texts, Closed separators text.toList) :
    Enclosable (tupleText texts) := by
  unfold tupleText
  split
  next text => exact (closed text List.mem_cons_self).enclosable.append (by decide)
  next => exact (closed_commaTexts closed).enclosable

theorem closed_turbofishPart (turbofish : Bool) : Closed boundSeparators (turbofishPart turbofish) := by
  cases turbofish <;> decide

theorem closed_lifetime {name : String} (word : isWord name.toList = true) :
    Closed boundSeparators ('\'' :: name.toList) := by
  have quote : Closed boundSeparators ['\''] := by decide
  exact quote.append (closed_of_isWord word)

theorem closed_pointerPart (mutable : Bool) : Closed separators (pointerPart mutable) := by
  cases mutable <;> decide

theorem closed_mutablePart (mutable : Bool) : Closed separators (mutablePart mutable) := by
  cases mutable <;> decide

theorem closed_lifetimePart {lifetime : Option String} (tidy : lifetime.all (isWord ·.toList) = true) :
    Closed separators (lifetimePart lifetime) := by
  cases lifetime with
  | none => exact .nil
  | some name => exact (closed_weaker (closed_lifetime tidy)).append (by decide)

theorem closed_inputs {texts : List String} (closed : ∀ text ∈ texts, Closed separators text.toList) :
    Closed boundSeparators ('(' :: (commaTexts texts ++ [')'])) :=
  (closed_commaTexts closed).enclosable.in_brackets (by decide) (by decide)

theorem TypeText.Standalone.listed {text : List Char} (standalone : Standalone text) : Listed separators text :=
  ⟨standalone.closed, standalone.nonempty⟩

theorem standalone_of_bounds {keyword : String} (known : keyword = "impl " ∨ keyword = "dyn ") {texts : List String}
    (listed : ∀ text ∈ texts, Listed boundSeparators text.toList ∧ text.toList.head? ≠ some '=') :
    Standalone (keyword.toList ++ plusTexts texts) := by
  refine standalone_of_keyword known ?_ (.append ?_ (closed_plusTexts fun text among => (listed text among).1.closed))
  · cases texts with
    | nil => simp [plusTexts]
    | cons text rest =>
      obtain ⟨⟨_, nonempty⟩, unnamed⟩ := listed text List.mem_cons_self
      obtain ⟨c, others, start⟩ := List.exists_cons_of_ne_nil nonempty
      have head : (plusTexts (text :: rest)).head? = text.toList.head? := by
        cases rest with
        | nil => simp [plusTexts]
        | cons next more => simp [plusTexts, start]
      rwa [head]
  · rcases known with rfl | rfl <;> decide

theorem listed_of_isConstant {tokens : Tokens} (constant : isConstant tokens = true) :
    Listed separators (compactText tokens).toList := by
  simp only [isConstant, Bool.and_eq_true, decide_eq_true_eq] at constant
  obtain ⟨⟨closed, like⟩, _⟩ := constant
  refine ⟨closed, fun empty => ?_⟩
  rw [empty] at like
  exact absurd like (by decide)

theorem listed_of_isSpelledBound {tokens : Tokens} (spelled : isSpelledBound tokens = true) :
    Listed boundSeparators (compactText tokens).toList ∧ (compactText tokens).toList.head? ≠ some '=' := by
  simp only [isSpelledBound, Bool.and_eq_true, decide_eq_true_eq] at spelled
  obtain ⟨⟨closed, start⟩, _⟩ := spelled
  cases found : (compactText tokens).toList with
  | nil => simp [found] at start
  | cons c rest =>
    simp only [found, List.head?_cons, Option.any_some] at start
    refine ⟨⟨found ▸ closed, List.cons_ne_nil _ _⟩, ?_⟩
    rintro same
    obtain rfl : c = '=' := by simpa using same
    cases start

mutual

theorem Ty.standalone : ∀ ty : Ty, ty.isTidy = true → Standalone ty.text.toList
  | .array element length => fun tidy => by
    simp only [Ty.isTidy, Bool.and_eq_true, decide_eq_true_eq] at tidy
    have inner := element.standalone tidy.1
    have held : Closed separators ('[' :: (element.text.toList ++ [';', ' '] ++ (compactText length).toList ++ [']'])) :=
      ((inner.closed.enclosable.append (by decide)).append tidy.2).in_brackets (by decide) (by decide)
    simpa [Ty.text_array] using standalone_of_opening (by decide) held
  | .function .. => fun tidy => by
    rw [Ty.isTidy] at tidy
    rw [Ty.text]
    exact standalone_of_isSpelled tidy
  | .implementing bounds _ => fun tidy => by
    rw [Ty.isTidy] at tidy
    have held := listed_bounds bounds tidy
    rw [Ty.text_implementing]
    exact standalone_of_bounds (.inl rfl) held
  | .inferred => fun _ => by rw [Ty.text]; decide
  | .never => fun _ => by rw [Ty.text]; decide
  | .paren inner => fun tidy => by
    rw [Ty.isTidy] at tidy
    rw [Ty.text_paren]
    exact standalone_of_opening (by decide)
      ((inner.standalone tidy).closed.enclosable.in_brackets (by decide) (by decide))
  | .path path => fun tidy => by
    rw [Ty.isTidy] at tidy
    rw [Ty.text]
    exact standalone_of_pathLike (Path.pathLike_text tidy) (closed_weaker (path.closed_text tidy))
  | .qualified .. => fun tidy => by
    rw [Ty.isTidy] at tidy
    rw [Ty.text]
    exact standalone_of_isSpelled tidy
  | .pointer mutable target => fun tidy => by
    rw [Ty.isTidy] at tidy
    rw [Ty.text_pointer]
    have sign : Closed separators ['*'] := by decide
    have held := (closed_pointerPart mutable).append (target.standalone tidy).closed
    exact standalone_of_opening (by decide) (sign.append held)
  | .reference lifetime mutable target => fun tidy => by
    simp only [Ty.isTidy, Bool.and_eq_true] at tidy
    rw [Ty.text_reference]
    have sign : Closed separators ['&'] := by decide
    have held := (closed_mutablePart mutable).append (target.standalone tidy.2).closed
    exact standalone_of_opening (by decide) (sign.append ((closed_lifetimePart tidy.1).append held))
  | .slice element => fun tidy => by
    rw [Ty.isTidy] at tidy
    rw [Ty.text_slice]
    exact standalone_of_opening (by decide)
      ((element.standalone tidy).closed.enclosable.in_brackets (by decide) (by decide))
  | .traitObject _ bounds _ => fun tidy => by
    rw [Ty.isTidy] at tidy
    have held := listed_bounds bounds tidy
    rw [Ty.text_traitObject]
    exact standalone_of_bounds (.inr rfl) held
  | .tuple elements trailing => fun tidy => by
    rw [Ty.isTidy] at tidy
    have inner := enclosable_tupleText fun text among => (standalone_types elements tidy text among).closed
    rw [Ty.text_tuple]
    exact standalone_of_opening (by decide) (inner.in_brackets (by decide) (by decide))
  | .call .. => fun tidy => by
    rw [Ty.isTidy] at tidy
    rw [Ty.text]
    exact standalone_of_isSpelled tidy
  | .verbatim _ => fun tidy => by
    rw [Ty.isTidy] at tidy
    rw [Ty.text_verbatim]
    exact standalone_of_isSpelled tidy

theorem standalone_types : ∀ types : List Ty, typesTidy types = true →
    ∀ text ∈ typeTexts types, Standalone text.toList
  | [] => fun _ => by simp [typeTexts]
  | type :: rest => fun tidy => by
    simp only [typesTidy, Bool.and_eq_true] at tidy
    rw [typeTexts]
    exact List.forall_mem_cons.mpr ⟨type.standalone tidy.1, standalone_types rest tidy.2⟩

theorem Path.closed_text : ∀ path : Path, path.isTidy = true → Closed boundSeparators path.text.toList
  | .mk isGlobal [] => fun tidy => by simp [Path.isTidy] at tidy
  | .mk isGlobal (segment :: rest) => fun tidy => by
    simp only [Path.isTidy, segmentsTidy, Bool.and_eq_true] at tidy
    obtain ⟨_, ⟨first, _⟩, later⟩ := tidy
    have inner := (segment.closed_text first).append (closed_segments rest later)
    rw [Path.text_mk]
    cases isGlobal with
    | true => exact .append (by decide) inner
    | false => exact inner

theorem closed_segments : ∀ segments : List Segment, segmentsTidy segments = true →
    Closed boundSeparators (segmentsTail segments)
  | [] => fun _ => .nil
  | segment :: rest => fun tidy => by
    simp only [segmentsTidy, Bool.and_eq_true] at tidy
    have first := segment.closed_text tidy.1.1
    have others := closed_segments rest tidy.2
    have between : Closed boundSeparators [':', ':'] := by decide
    exact between.append (first.append others)

theorem Segment.closed_text : ∀ segment : Segment, segment.isTidy = true → Closed boundSeparators segment.text.toList
  | .mk name arguments => fun tidy => by
    simp only [Segment.isTidy, Bool.and_eq_true] at tidy
    rw [Segment.text_mk]
    exact (closed_of_isWord (isName_iff.mp tidy.1).1).append (arguments.closed_text tidy.2)

theorem Arguments.closed_text : ∀ arguments : Arguments, arguments.isTidy = true →
    Closed boundSeparators arguments.text.toList
  | .none => fun _ => .nil
  | .angle turbofish arguments trailing => fun tidy => by
    rw [Arguments.isTidy] at tidy
    have inner := closed_commaTexts fun text among => (listed_arguments arguments tidy text among).closed
    rw [Arguments.text_angle]
    exact (closed_turbofishPart turbofish).append inner.in_angles
  | .call inputs trailing none => fun tidy => by
    rw [Arguments.isTidy] at tidy
    have held := closed_inputs fun text among => (standalone_types inputs tidy text among).closed
    simpa [Arguments.text_call, outputPart] using held
  | .call inputs trailing (some output) => fun tidy => by
    simp only [Arguments.isTidy, Bool.and_eq_true, decide_eq_true_eq] at tidy
    have held := closed_inputs fun text among => (standalone_types inputs tidy.1.1 text among).closed
    have arrow : Closed boundSeparators [' ', '-', '>', ' '] := by decide
    simpa [Arguments.text_call, outputPart] using held.append (arrow.append tidy.2)

theorem listed_arguments : ∀ arguments : List Argument, argumentsTidy arguments = true →
    ∀ text ∈ argumentTexts arguments, Listed separators text.toList
  | [] => fun _ => by simp [argumentTexts]
  | argument :: rest => fun tidy => by
    simp only [argumentsTidy, Bool.and_eq_true] at tidy
    rw [argumentTexts]
    exact List.forall_mem_cons.mpr ⟨argument.listed tidy.1, listed_arguments rest tidy.2⟩

theorem Argument.listed : ∀ argument : Argument, argument.isTidy = true → Listed separators argument.text.toList
  | .lifetime name => fun tidy => by
    rw [Argument.isTidy] at tidy
    rw [Argument.text_lifetime]
    exact ⟨closed_weaker (closed_lifetime tidy), List.cons_ne_nil _ _⟩
  | .type type => fun tidy => by
    rw [Argument.isTidy] at tidy
    rw [Argument.text]
    exact (type.standalone tidy).listed
  | .const value => fun tidy => by
    rw [Argument.isTidy] at tidy
    rw [Argument.text]
    exact listed_of_isConstant tidy
  | .associatedType name arguments type => fun tidy => by
    simp only [Argument.isTidy, Bool.and_eq_true] at tidy
    obtain ⟨word, _⟩ := isName_iff.mp tidy.1
    have between : Closed separators [' ', '=', ' '] := by decide
    have held : Closed separators (name.toList ++ ([' ', '=', ' '] ++ type.text.toList)) :=
      (closed_weaker (closed_of_isWord word)).append (between.append (type.standalone tidy.2).closed)
    rw [Argument.text_associatedType]
    exact ⟨held, by simp⟩
  | .associatedConst .. => fun tidy => by
    rw [Argument.isTidy] at tidy
    rw [Argument.text]
    exact (standalone_of_isSpelled tidy).listed
  | .constraint .. => fun tidy => by
    rw [Argument.isTidy] at tidy
    rw [Argument.text]
    exact (standalone_of_isSpelled tidy).listed

theorem listed_bounds : ∀ bounds : List Bound, boundsTidy bounds = true →
    ∀ text ∈ boundTexts bounds, Listed boundSeparators text.toList ∧ text.toList.head? ≠ some '='
  | [] => fun _ => by simp [boundTexts]
  | bound :: rest => fun tidy => by
    simp only [boundsTidy, Bool.and_eq_true] at tidy
    rw [boundTexts]
    exact List.forall_mem_cons.mpr ⟨bound.listed tidy.1, listed_bounds rest tidy.2⟩

theorem Bound.listed : ∀ bound : Bound, bound.isTidy = true →
    Listed boundSeparators bound.text.toList ∧ bound.text.toList.head? ≠ some '='
  | .ofTrait parenthesized optional binder path => fun tidy => by
    rw [Bound.isTidy] at tidy
    have inner := path.closed_text tidy
    have unnamed : path.text.toList.head? ≠ some '=' := by
      obtain ⟨c, rest, start, named, _⟩ := start_of_pathLike (Path.pathLike_text tidy)
      rw [start, List.head?_cons]
      rintro ⟨⟩
      cases named
    rw [Bound.text_ofTrait]
    cases optional with
    | true => exact ⟨⟨.append (by decide) inner, List.cons_ne_nil _ _⟩, by simp⟩
    | false => exact ⟨⟨inner, (standalone_of_pathLike (Path.pathLike_text tidy) (closed_weaker inner)).nonempty⟩, unnamed⟩
  | .lifetime name => fun tidy => by
    rw [Bound.isTidy] at tidy
    rw [Bound.text_lifetime]
    exact ⟨⟨closed_lifetime tidy, List.cons_ne_nil _ _⟩, by simp⟩
  | .capturing .. => fun tidy => by
    rw [Bound.isTidy] at tidy
    rw [Bound.text]
    exact listed_of_isSpelledBound tidy
  | .verbatim _ => fun tidy => by
    rw [Bound.isTidy] at tidy
    rw [Bound.text]
    exact listed_of_isSpelledBound tidy

end

theorem listed_types {types : List Ty} (tidy : typesTidy types = true) :
    ∀ text ∈ typeTexts types, Listed separators text.toList :=
  fun text among => (standalone_types types tidy text among).listed

end Closed

end Endpoints
