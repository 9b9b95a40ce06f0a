import Endpoints.Proofs.ReadingBack
import Endpoints.Proofs.TypeShapes

/-! Structural types: paths, references, pointers, slices, arrays, tuples and lists of bounds, down to names and whole
numbers. Their texts have a rule for each of their parts, and nothing in them is printed from tokens but numbers. -/

namespace Endpoints
open Reader Piece Lexeme

/-- A whole number, as the one token that it is. -/
def Tokens.isWholeNumber : Tokens → Bool
  | [.literal text] => Lexeme.isWholeNumber text
  | _ => false

/-- A whole number with or without a sign. -/
def Tokens.isInteger : Tokens → Bool
  | [.punct '-' .alone, .literal text] => Lexeme.isWholeNumber text
  | tokens => tokens.isWholeNumber

mutual

/-- Whether a type is made of names, whole numbers and the forms that have a text of their own. -/
def Ty.isStructural : Ty → Bool
  | .array element length => element.isStructural && length.isWholeNumber
  | .implementing bounds _ => boundsStructural bounds
  | .traitObject keyword bounds _ => keyword && boundsStructural bounds
  | .inferred | .never => true
  | .paren inner | .pointer _ inner | .reference _ _ inner | .slice inner => inner.isStructural
  | .path path => path.isStructural
  | .tuple elements _ => typesStructural elements
  | .function .. | .qualified .. | .call .. | .verbatim _ => false

def typesStructural : List Ty → Bool
  | [] => true
  | type :: rest => type.isStructural && typesStructural rest

def Path.isStructural : Path → Bool
  | .mk _ segments => segmentsStructural segments

def segmentsStructural : List Segment → Bool
  | [] => true
  | segment :: rest => segment.isStructural && segmentsStructural rest

def Segment.isStructural : Segment → Bool
  | .mk _ arguments => arguments.isStructural

def Arguments.isStructural : Arguments → Bool
  | .none => true
  | .angle _ arguments _ => argumentsStructural arguments
  | .call inputs _ none => typesStructural inputs
  | .call inputs _ (some output) => typesStructural inputs && output.isStructural

def argumentsStructural : List Argument → Bool
  | [] => true
  | argument :: rest => argument.isStructural && argumentsStructural rest

/-- A name that a type is given for has no arguments of its own. -/
def Argument.isStructural : Argument → Bool
  | .lifetime _ => true
  | .type type => type.isStructural
  | .const value => value.isInteger
  | .associatedType _ arguments type => arguments.isNone && type.isStructural
  | .associatedConst .. | .constraint .. => false

def boundsStructural : List Bound → Bool
  | [] => true
  | bound :: rest => bound.isStructural && boundsStructural rest

/-- A trait without parentheses and without a binder, or a lifetime. -/
def Bound.isStructural : Bound → Bool
  | .ofTrait parenthesized _ binder path => !parenthesized && binder.isEmpty && path.isStructural
  | .lifetime _ => true
  | .capturing .. | .verbatim _ => false

end

section Lists

theorem typesStructural_iff {types : List Ty} :
    typesStructural types = true ↔ ∀ type ∈ types, type.isStructural = true := by
  induction types with
  | nil => simp [typesStructural]
  | cons type rest ih => simp [typesStructural, ih]

theorem argumentsStructural_iff {arguments : List Argument} :
    argumentsStructural arguments = true ↔ ∀ argument ∈ arguments, argument.isStructural = true := by
  induction arguments with
  | nil => simp [argumentsStructural]
  | cons argument rest ih => simp [argumentsStructural, ih]

theorem boundsStructural_iff {bounds : List Bound} :
    boundsStructural bounds = true ↔ ∀ bound ∈ bounds, bound.isStructural = true := by
  induction bounds with
  | nil => simp [boundsStructural]
  | cons bound rest ih => simp [boundsStructural, ih]

theorem typeTexts_eq_map (types : List Ty) : typeTexts types = types.map Ty.text := by
  induction types with
  | nil => rfl
  | cons type rest ih => rw [typeTexts, ih, List.map_cons]

theorem argumentTexts_eq_map (arguments : List Argument) : argumentTexts arguments = arguments.map Argument.text := by
  induction arguments with
  | nil => rfl
  | cons argument rest ih => rw [argumentTexts, ih, List.map_cons]

theorem boundTexts_eq_map (bounds : List Bound) : boundTexts bounds = bounds.map Bound.text := by
  induction bounds with
  | nil => rfl
  | cons bound rest ih => rw [boundTexts, ih, List.map_cons]

variable {all : Bool}

theorem typesKept_of_forall₂ {types others : List Ty}
    (alike : List.Forall₂ (fun type other => other.kept all = type.kept all) types others) :
    typesKept all others = typesKept all types := by
  induction alike with
  | nil => rfl
  | cons same _ ih => rw [typesKept, typesKept, same, ih]

theorem argumentsKept_of_forall₂ {arguments others : List Argument}
    (alike : List.Forall₂ (fun argument other => other.kept all = argument.kept all) arguments others) :
    argumentsKept all others = argumentsKept all arguments := by
  induction alike with
  | nil => rfl
  | cons same _ ih => rw [argumentsKept, argumentsKept, same, ih]

theorem boundsKept_of_forall₂ {bounds others : List Bound}
    (alike : List.Forall₂ (fun bound other => other.kept all = bound.kept all) bounds others) :
    boundsKept all others = boundsKept all bounds := by
  induction alike with
  | nil => rfl
  | cons same _ ih => rw [boundsKept, boundsKept, same, ih]

end Lists

section Numbers

theorem replaceFrom_blankless {pattern replacement text : List Char} (blank : ' ' ∈ pattern) (blankless : ' ' ∉ text) :
    Text.replaceFrom pattern replacement 0 text = text := by
  induction text with
  | nil => rfl
  | cons c rest ih =>
    have absent : pattern.isPrefixOf (c :: rest) = false := Bool.eq_false_iff.mpr fun starts =>
      blankless ((List.isPrefixOf_iff_prefix.mp starts).subset blank)
    simp [Text.replaceFrom, absent, ih fun member => blankless (List.mem_cons_of_mem c member)]

theorem compactText_of_isWholeNumber {text : String} (whole : Lexeme.isWholeNumber text = true) :
    compactText [.literal text] = text := by
  have blankless := blankless_of_isWholeNumber whole
  have same {pattern : String} (blank : ' ' ∈ pattern.toList) (replacement : String) :
      Text.replace text pattern replacement = text := by
    rw [Text.replace, replaceFrom_blankless blank blankless, String.ofList_toList]
  have single : Tokens.text [.literal text] = text := rfl
  rw [compactText, single, same (by decide), same (by decide), same (by decide), same (by decide), same (by decide)]

theorem compactText_of_negative {text : String} (whole : Lexeme.isWholeNumber text = true) :
    compactText [.punct '-' .alone, .literal text] = "- " ++ text := by
  have blankless := blankless_of_isWholeNumber whole
  obtain ⟨first, more, spelled, digit⟩ := isDigit_of_isWholeNumber whole
  have other {c : Char} (mark : c.isDigit = false) : c ≠ first := by
    rintro rfl
    exact absurd (digit.symm.trans mark) (by decide)
  have colon := @other ':' rfl
  have opens := @other '<' rfl
  have closes := @other '>' rfl
  have same {pattern : String} (known : pattern ∈ [" :: ", ":: ", " < ", " >", "& "]) (replacement : String) :
      Text.replace ("- " ++ text) pattern replacement = "- " ++ text := by
    have blank : ' ' ∈ pattern.toList := by
      have each : ∀ pattern ∈ [" :: ", ":: ", " < ", " >", "& "], ' ' ∈ pattern.toList := by decide
      exact each pattern known
    have left := @replaceFrom_blankless pattern.toList replacement.toList text.toList blank blankless
    have starts : Text.replaceFrom pattern.toList replacement.toList 0 ('-' :: ' ' :: text.toList) =
        '-' :: ' ' :: text.toList := by
      rw [spelled] at left ⊢
      simp only [List.mem_cons, List.not_mem_nil, or_false] at known
      rcases known with rfl | rfl | rfl | rfl | rfl <;>
        simp_all [Text.replaceFrom, List.isPrefixOf]
    apply String.toList_inj.mp
    rw [Text.replace, String.toList_ofList, String.toList_append]
    exact starts
  have spelledOut : Tokens.text [.punct '-' .alone, .literal text] = "- " ++ text := by
    simp [Tokens.text, Token.textAll, Token.text, Token.isJoint]
  rw [compactText, spelledOut, same (by simp), same (by simp), same (by simp), same (by simp), same (by simp)]

end Numbers

end Endpoints
