import Endpoints.Proofs.ClosedTexts
import Endpoints.Type.Printer

/-! What texts of types look like from their starts: which kind of type a text stands for, and that it is neither a
lifetime, nor a constant, nor a type that is given a name. -/

namespace Endpoints.TypeText
open Nesting

def isNameCharacter (c : Char) : Bool := c.isAlphanum || c == '_' || c == '#' || 128 ≤ c.toNat

/-- Words that are no names of types or traits. -/
def reserved : List String := ["_", "for", "use", "true", "false"]

def isWord (text : List Char) : Bool := !text.isEmpty && text.all isNameCharacter

def isName (name : String) : Bool :=
  isWord name.toList && !name.toList.head?.any Char.isDigit && !reserved.contains name

def isPathCharacter (c : Char) : Bool := isNameCharacter c || c == ':'

/-- A text that starts as a path does: with a name, and after names with arguments or with nothing. -/
def pathLike (text : List Char) : Bool :=
  text.head?.any (fun c => isPathCharacter c && !c.isDigit)
    && !reserved.contains (String.ofList (text.takeWhile isNameCharacter))
    && (text.dropWhile isPathCharacter).head?.all fun c => c == '<' || c == '('

/-- A lifetime, or a text that starts with one and a blank. -/
def lifetimeLike : List Char → Bool
  | '\'' :: rest => (rest.dropWhile isNameCharacter).head?.all (· == ' ')
  | _ => false

def constantLike (text : List Char) : Bool :=
  text.head?.any (fun c => c.isDigit || ['\x7b', '-', '"', '\''].contains c)
    || text == "true".toList || text == "false".toList

/-- A text that gives a name to something other than a constant. -/
def associatedLike (text : List Char) : Bool :=
  match text.dropWhile isNameCharacter with
  | ' ' :: '=' :: ' ' :: rest => !constantLike rest
  | _ => false

/-- The kinds of types that texts can be told to be of. -/
inductive Kind where
  | bracketed
  | parenthesized
  | pointer
  | reference
  | never
  | inferred
  | implementing
  | traitObject
  | path
  /-- A type that is printed from its tokens. -/
  | spelled
  deriving DecidableEq

def kindOf (text : List Char) : Kind :=
  if pathLike text then .path
  else match text with
    | '[' :: _ => .bracketed
    | '(' :: _ => .parenthesized
    | '*' :: _ => .pointer
    | '&' :: _ => .reference
    | ['!'] => .never
    | ['_'] => .inferred
    | 'i' :: 'm' :: 'p' :: 'l' :: ' ' :: _ => .implementing
    | 'd' :: 'y' :: 'n' :: ' ' :: _ => .traitObject
    | _ => .spelled

/-- The marks between types, and those between the bounds of a type. -/
def separators : List Char := [',', ';']

def boundSeparators : List Char := '+' :: separators

/-- A text that can stand for a type wherever a type can stand. -/
structure Standalone (text : List Char) : Prop where
  closed : Closed separators text
  nonempty : text ≠ []
  lifetime : lifetimeLike text = false
  constant : constantLike text = false
  associated : associatedLike text = false
  mutable : ¬ "mut ".toList <+: text

instance decidableStandalone (text : List Char) : Decidable (Standalone text) :=
  decidable_of_iff (Closed separators text ∧ text ≠ [] ∧ lifetimeLike text = false ∧ constantLike text = false ∧
      associatedLike text = false ∧ ¬ "mut ".toList <+: text)
    ⟨fun ⟨closed, nonempty, lifetime, constant, associated, mutable⟩ =>
      ⟨closed, nonempty, lifetime, constant, associated, mutable⟩,
    fun ⟨closed, nonempty, lifetime, constant, associated, mutable⟩ =>
      ⟨closed, nonempty, lifetime, constant, associated, mutable⟩⟩

section Characters

variable {c : Char} {text rest : List Char}

theorem ne_of_isNameCharacter (name : isNameCharacter c = true) {other : Char} (apart : isNameCharacter other = false) :
    c ≠ other := by
  rintro rfl
  exact absurd name (by simp [apart])

theorem step_of_isNameCharacter (name : isNameCharacter c = true) :
    Nesting.top.step boundSeparators c = some .top := by
  have apart {other : Char} := @ne_of_isNameCharacter c name other
  have hard : c ∉ Nesting.opening ∧ c ∉ Nesting.closing ∧ c ∉ boundSeparators := by
    simp only [Nesting.opening, Nesting.closing, boundSeparators, separators, List.mem_cons, List.not_mem_nil, or_false,
      not_or]
    exact ⟨⟨apart rfl, apart rfl, apart rfl⟩, ⟨apart rfl, apart rfl, apart rfl⟩, apart rfl, apart rfl, apart rfl⟩
  have angles : c ≠ '<' ∧ c ≠ '>' ∧ c ≠ '-' := ⟨apart rfl, apart rfl, apart rfl⟩
  simp [Nesting.step, Nesting.top, hard, angles]

theorem closed_of_names (names : ∀ c ∈ text, isNameCharacter c = true) : Closed boundSeparators text :=
  .of_plain fun c member => step_of_isNameCharacter (names c member)

theorem closed_weaker (closed : Closed boundSeparators text) : Closed separators text :=
  closed.of_subset (List.subset_cons_self _ _)

theorem isPathCharacter_of_isNameCharacter (name : isNameCharacter c = true) : isPathCharacter c = true := by
  simp [isPathCharacter, name]

/-- What is left behind the characters of names is what is left behind those of paths, as far as those go. -/
theorem dropWhile_isPathCharacter (text : List Char) :
    text.dropWhile isPathCharacter = (text.dropWhile isNameCharacter).dropWhile isPathCharacter := by
  induction text with
  | nil => rfl
  | cons c rest ih =>
    cases name : isNameCharacter c with
    | false =>
      have kept : (c :: rest).dropWhile isNameCharacter = c :: rest := List.dropWhile_cons_of_neg (by simp [name])
      rw [kept]
    | true =>
      rw [List.dropWhile_cons_of_pos name, List.dropWhile_cons_of_pos (isPathCharacter_of_isNameCharacter name), ih]

end Characters

section Words

theorem isWord_iff {text : List Char} : isWord text = true ↔ text ≠ [] ∧ ∀ c ∈ text, isNameCharacter c = true := by
  simp [isWord]

theorem isName_iff {name : String} :
    isName name = true ↔ isWord name.toList = true ∧ name.toList.head?.any Char.isDigit = false ∧
      name ∉ reserved := by
  simp [isName, and_assoc]

theorem closed_of_isWord {text : List Char} (word : isWord text = true) : Closed boundSeparators text :=
  closed_of_names (isWord_iff.mp word).2

/-- What is behind a name does not go on with it. -/
def EndsName (text : List Char) : Prop := text.takeWhile isNameCharacter = []

theorem endsName_nil : EndsName [] := rfl

theorem endsName_cons {c : Char} {rest : List Char} (mark : isNameCharacter c = false) : EndsName (c :: rest) :=
  List.takeWhile_cons_of_neg (by simp [mark])

theorem takeWhile_word {word rest : List Char} (names : ∀ c ∈ word, isNameCharacter c = true) (ends : EndsName rest) :
    (word ++ rest).takeWhile isNameCharacter = word := by
  rw [List.takeWhile_append_of_pos names, ends, List.append_nil]

theorem word_cut {word other rest more : List Char} (one : isWord word = true) (two : isWord other = true)
    (ends : EndsName rest) (stops : EndsName more) (same : word ++ rest = other ++ more) : word = other ∧ rest = more := by
  have first := takeWhile_word (isWord_iff.mp one).2 ends
  rw [same, takeWhile_word (isWord_iff.mp two).2 stops] at first
  subst first
  exact ⟨rfl, List.append_cancel_left same⟩

end Words

section Paths

variable {text : List Char}

/-- A path is followed by arguments or by nothing. -/
theorem not_blank_of_pathLike (path : pathLike text = true) (rest : List Char) :
    text.dropWhile isPathCharacter ≠ ' ' :: rest := by
  intro blank
  simp [pathLike, blank] at path

theorem start_of_pathLike (path : pathLike text = true) :
    ∃ c rest, text = c :: rest ∧ isPathCharacter c = true ∧ c.isDigit = false := by
  cases text with
  | nil => simp [pathLike] at path
  | cons c rest =>
    simp only [pathLike, List.head?_cons, Option.any_some, Bool.and_eq_true, Bool.not_eq_true'] at path
    exact ⟨c, rest, rfl, path.1.1⟩

theorem standalone_of_pathLike (path : pathLike text = true) (closed : Closed separators text) : Standalone text := by
  have apart {c : Char} {rest : List Char} (same : text = c :: rest) : isPathCharacter c = true ∧ c.isDigit = false := by
    obtain ⟨_, _, start, holds⟩ := start_of_pathLike path
    cases same.symm.trans start
    exact holds
  refine ⟨closed, ?_, ?_, ?_, ?_, ?_⟩
  · rintro rfl
    simp [pathLike] at path
  · unfold lifetimeLike
    split
    next => exact absurd (apart rfl).1 (by decide)
    next => rfl
  · have notTrue : text ≠ "true".toList := by
      rintro rfl
      exact absurd path (by decide)
    have notFalse : text ≠ "false".toList := by
      rintro rfl
      exact absurd path (by decide)
    obtain ⟨c, rest, rfl, started, digit⟩ := start_of_pathLike path
    have others : ['\x7b', '-', '"', '\''].contains c = false := by
      rw [← Bool.not_eq_true, List.contains_iff_mem]
      intro member
      simp only [List.mem_cons, List.not_mem_nil, or_false] at member
      rcases member with rfl | rfl | rfl | rfl <;> exact absurd started (by decide)
    simp only [constantLike, List.head?_cons, Option.any_some, digit, others, beq_eq_false_iff_ne.mpr notTrue,
      beq_eq_false_iff_ne.mpr notFalse, Bool.or_self]
  · unfold associatedLike
    split
    next rest named =>
      refine absurd ?_ (not_blank_of_pathLike path ('=' :: ' ' :: rest))
      rw [dropWhile_isPathCharacter, named]
      rfl
    next => rfl
  · rintro ⟨rest, rfl⟩
    exact not_blank_of_pathLike path rest rfl

theorem kindOf_of_pathLike (path : pathLike text = true) : kindOf text = .path := by simp [kindOf, path]

end Paths

section Marks

variable {c : Char} {rest : List Char}

/-- The characters that types start with when they start with no name. -/
def openings : List Char := ['[', '(', '*', '&', '!']

theorem standalone_of_opening (opens : c ∈ openings) (closed : Closed separators (c :: rest)) :
    Standalone (c :: rest) := by
  simp only [openings, List.mem_cons, List.not_mem_nil, or_false] at opens
  rcases opens with rfl | rfl | rfl | rfl | rfl <;>
    exact ⟨closed, List.cons_ne_nil _ _, rfl, rfl, rfl, by rintro ⟨_, same⟩; cases same⟩

/-- A text behind a word that is no name of a type can stand for a type as well. -/
theorem standalone_of_keyword {keyword : String} (known : keyword = "impl " ∨ keyword = "dyn ")
    (unnamed : rest.head? ≠ some '=') (closed : Closed separators (keyword.toList ++ rest)) :
    Standalone (keyword.toList ++ rest) := by
  have unassociated : associatedLike (keyword.toList ++ rest) = false := by
    have left : (keyword.toList ++ rest).dropWhile isNameCharacter = ' ' :: rest := by
      rcases known with rfl | rfl <;> rfl
    unfold associatedLike
    split
    next more same =>
      rw [left, List.cons.injEq] at same
      simp [same.2] at unnamed
    next => rfl
  rcases known with rfl | rfl <;>
    exact ⟨closed, List.cons_ne_nil _ _, rfl, rfl, unassociated, by rintro ⟨_, same⟩; cases same⟩

end Marks

end Endpoints.TypeText
