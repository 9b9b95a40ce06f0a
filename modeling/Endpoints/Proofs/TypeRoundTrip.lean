import Endpoints.Proofs.SignatureRules
import Endpoints.Proofs.TypesReadBack

/-! Printing a type and reading it again. A structural type of a source text comes back from its text, and so do the
names and types that the text of the parameters of a signature shows. -/

namespace Endpoints
open Reader Piece

section Depth

theorem Faithful.reread {nested again : Nested} (faithful : Faithful nested again) {plus more : Bool}
    (wider : plus = true → more = true) {tokens rest : Tokens} {ty : Ty} (worded : tokens.Worded)
    (structural : ty.isStructural = true) (read : Endpoints.type nested plus tokens = .ok (ty, rest)) :
    ty.IsReread (Endpoints.type again) more ∧ rest.Worded :=
  faithful.bareType wider worded structural (bareType_of_type structural read)

theorem expression_number (grammar : Grammar) (text : String) :
    (Expr.tokens <$> expression grammar true) [.literal text] = .ok ([.literal text], []) := rfl

theorem isInteger_block (block : Block) : block.tokens.isInteger = false := by
  cases block
  rfl

/-- What a grammar reads is read back by one that reaches as deep. -/
theorem Grammar.faithful {depth deeper : Nat} (reaches : depth ≤ deeper) :
    Faithful (ofDepth depth).nested (ofDepth deeper).nested := by
  induction depth generalizing deeper with
  | zero => exact ⟨nofun, nofun, nofun⟩
  | succ depth ih =>
    obtain ⟨deeper, rfl⟩ := Nat.exists_eq_add_one_of_ne_zero (Nat.ne_of_gt (Nat.zero_lt_of_lt reaches))
    have inner := ih (Nat.le_of_succ_le_succ reaches)
    refine ⟨fun worded structural read => inner.reread id worded structural read, fun read => ?_,
      fun _ _ => expression_number (ofDepth deeper) _⟩
    obtain ⟨block, _, -, read⟩ := bind_eq_ok_iff.mp read
    cases read
    exact isInteger_block block

end Depth

/-- Tokens that stand at the end of others, or of what a group among them holds. -/
inductive Tokens.StandsIn : Tokens → Tokens → Prop where
  | ending {part whole} (suffix : part <:+ whole) : StandsIn part whole
  | inside {part whole delimiter content} (member : .group delimiter content ∈ whole) (stands : StandsIn part content) :
      StandsIn part whole

theorem Tokens.StandsIn.worded {part whole : Tokens} (stands : part.StandsIn whole) (worded : whole.Worded) :
    part.Worded := by
  induction stands with
  | ending suffix => exact worded.of_subset suffix.subset
  | inside member _ ih => exact ih (worded.content_of_mem member)

/-- A type that is read somewhere in a source text, at any depth that the grammar of a whole text reaches. -/
def Ty.IsWritten (ty : Ty) : Prop :=
  ∃ text whole, Lexer.tokens? text = some whole ∧ ∃ part, part.StandsIn whole ∧ ∃ depth plus rest,
    depth ≤ Grammar.deepest ∧ type (Grammar.ofDepth depth).nested plus part = .ok (ty, rest)

theorem Ty.isWritten_of_readType {text : String} {ty : Ty} (read : readType text = .ok ty) : ty.IsWritten := by
  unfold readType readText at read
  split at read
  next whole lexed =>
    unfold Tokens.readAll run at read
    split at read
    next taken =>
      cases read
      exact ⟨text, whole, lexed, whole, .ending (List.suffix_refl _), Grammar.deepest, true, [], Nat.le_refl _, taken⟩
    next => cases read
    next => cases read
  next => cases read

/-- What the grammar of a whole text reads back. -/
theorem Ty.IsWritten.reread {ty : Ty} (written : ty.IsWritten) (structural : ty.isStructural = true) :
    ty.IsReread (type Grammar.full.nested) true := by
  obtain ⟨text, whole, lexed, part, stands, depth, plus, rest, reaches, read⟩ := written
  exact ((Grammar.faithful reaches).reread (fun _ => rfl) (stands.worded (.of_tokens? lexed)) structural read).1

theorem exists_of_readsBack {α : Type} {rule : Grammar → Reader α} {opens ends : Tokens → Prop} {text : String}
    {alike : α → Prop} (reread : ReadsBack (rule Grammar.full) opens ends text.toList alike) (closes : ends []) :
    ∃ again, readText rule Lexer.tokens? text = .ok again ∧ alike again := by
  obtain ⟨pieces, again, spelled, same, prints⟩ := reread
  have lexed := Lexer.tokens?_of_fits prints.fits
  have read := prints.reads [] closes
  rw [spelled, String.ofList_toList] at lexed
  rw [List.append_nil] at read
  refine ⟨again, ?_, same⟩
  simp only [readText, lexed, Tokens.readAll, run, read]
  rfl

/-! The parameters of a signature -/

/-- A name and a type, as they stand in a list of parameters. -/
def parameter (grammar : Grammar) : Reader Parameter := do
  let declared ← name
  return ⟨declared, ← type grammar.nested true⟩

/-- The parameters that a text shows. -/
def readParameters (text : String) : Except ReadError (Separated Parameter) :=
  readText (fun grammar => commaList (parameter grammar)) Lexer.tokens? text

/-- A word of source text that can be the name of a parameter. -/
structure IsIdentifier (name : String) : Prop where
  word : Lexer.IsWord name
  free : IsName name

/-- A parameter as the list of parameters shows it. -/
def Parameter.text (parameter : Parameter) : String := parameter.name ++ " " ++ parameter.type.text

theorem readsBack_parameter {value : Parameter} (identifier : IsIdentifier value.name)
    (reread : value.type.IsReread (type Grammar.full.nested) true) :
    ReadsBack (parameter Grammar.full) (·.isEmpty = false) (EndsType true) value.text.toList
      (fun other => other.name = value.name ∧ other.type.untrailed = value.type.untrailed) := by
  obtain ⟨pieces, other, spelled, same, prints⟩ := reread
  refine ⟨.word value.name :: .blank :: pieces, ⟨value.name, other⟩, ?_, ⟨rfl, same⟩,
    .word identifier.word (by rintro _ ⟨⟩; decide) (.blank prints.fits), fun _ => rfl, fun rest ends => ?_⟩
  · simp [textAll, Piece.text, spelled, Parameter.text]
  · exact bind_of_ok (identifier.free.name_eq _) (bind_of_ok (prints.reads rest ends) rfl)

theorem readsBack_parameters {parameters : List Parameter}
    (each : ∀ value ∈ parameters, IsIdentifier value.name ∧ value.type.IsReread (type Grammar.full.nested) true) :
    ReadsBack (commaList (parameter Grammar.full)) (fun _ => True) (· = [])
      (String.intercalate "," (parameters.map Parameter.text)).toList (fun again => again.trailing = false ∧
        List.Forall₂ (fun value other => other.name = value.name ∧ other.type.untrailed = value.type.untrailed)
          parameters again.items) := by
  obtain ⟨pieces, values, spelled, alike, fits, -, reads⟩ := readsBack_separated false (fun _ opens => opens)
    (fun spacing rest => ⟨(endsArgument_comma spacing rest).toEndsType, rfl⟩)
    fun value member => readsBack_parameter (each value member).1 (each value member).2
  refine ⟨pieces, ⟨values, false⟩, ?_, ⟨rfl, alike⟩, fits, fun _ => trivial, fun rest ends => ?_⟩
  · rw [spelled, String.toList_intercalate, List.map_map]
    rfl
  · exact reads rest (by rw [ends]; rfl) (by rw [ends]; exact endsType_nil true)

namespace Signature

theorem parametersText_of_names {signature : Signature} {parameters : List Parameter}
    (named : List.Forall₂ Names signature.typedInputs parameters) :
    signature.parametersText = String.intercalate "," (parameters.map Parameter.text) := by
  rw [parametersText]
  refine congrArg (String.intercalate ",") ?_
  generalize signature.typedInputs = inputs at named
  induction named with
  | nil => rfl
  | cons names _ ih =>
    obtain ⟨_, _, _, rfl⟩ := names
    exact congrArg _ ih

theorem parametersText_eq_empty_iff (signature : Signature) :
    signature.parametersText = "" ↔ signature.typedInputs = [] := by
  constructor
  · intro empty
    cases inputs : signature.typedInputs with
    | nil => rfl
    | cons first rest =>
      -- between the name and the type of the first there is a blank
      have blank : ' ' ∈ signature.parametersText.toList := by
        rw [parametersText, inputs, List.map_cons, String.toList_intercalate]
        cases rest <;> simp
      rw [empty] at blank
      cases blank
  · intro none
    rw [parametersText, none]
    rfl

end Signature

/-- Printing a type and reading its text gives the type back, up to the separators at the ends of lists, for every
structural type of a source text. So the text of the parameters of a signature shows the name and the type of each
parameter that is no receiver, in order, and it is empty exactly when there is none. -/
theorem Ty.text_reads_back :
    (∀ ty : Ty, ty.IsWritten → ty.isStructural = true →
      ∃ again, readType ty.text = .ok again ∧ again.untrailed = ty.untrailed) ∧
    ∀ signature : Signature,
      (∀ parameters, List.Forall₂ Names signature.typedInputs parameters →
        (∀ value ∈ parameters, IsIdentifier value.name ∧ value.type.IsWritten ∧ value.type.isStructural = true) →
        ∃ again, readParameters signature.parametersText = .ok ⟨again, false⟩ ∧
          List.Forall₂ (fun value other => other.name = value.name ∧ other.type.untrailed = value.type.untrailed)
            parameters again) ∧
      (signature.parametersText = "" ↔ signature.typedInputs = []) := by
  refine ⟨fun ty written structural => ?_, fun signature => ⟨fun parameters named plain => ?_, ?_⟩⟩
  · exact exists_of_readsBack (written.reread structural) (endsType_nil true)
  · rw [signature.parametersText_of_names named]
    have shown := readsBack_parameters fun value member =>
      let ⟨identifier, written, structural⟩ := plain value member
      ⟨identifier, written.reread structural⟩
    obtain ⟨⟨again, _⟩, read, rfl, alike⟩ :=
      @exists_of_readsBack _ (fun grammar => commaList (parameter grammar)) _ (· = []) _ _ shown rfl
    exact ⟨again, read, alike⟩
  · exact signature.parametersText_eq_empty_iff

/-- `&'a [u8; 4]`, as it is read. -/
def borrowedArray : Ty := .reference (some "a") false (.array (.path (.ofName "u8")) [.literal "4"])

/-- `fn checksum(self, data: &'a [u8; 4])` -/
def checksumSignature : Signature :=
  Builder.plainSignature "checksum"
    [.receiver ⟨[], none, false, none⟩, .parameter [] (.name false false "data" none) borrowedArray] none

theorem isWritten_borrowedArray : borrowedArray.IsWritten := by
  let inside : List Piece := [.word "u8", .mark ';', .blank, .number "4"]
  have fits : Fits [.mark '&', .lifetime "a", .blank, .group .bracket inside] := by
    have number : Fits [.number "4"] := .number (by decide +kernel) parts_nil .nil
    have counted : Fits inside :=
      .word (.plain (by decide +kernel)) (by rintro _ ⟨⟩; decide) (.mark (by decide) (by decide) (.blank number))
    exact .mark (by decide) (by decide)
      (.lifetime (.plain (by decide +kernel)) (by rintro _ ⟨⟩; decide) (.blank (.group counted .nil)))
  exact ⟨_, _, Lexer.tokens?_of_fits fits, _, .ending (List.suffix_refl _), 4, true, [], by decide, rfl⟩

/-- The text of a borrowed array is read as that array, and the text of the parameters of a method that takes one as
its name and its type. -/
theorem Ty.borrowedArray_reads_back :
    (∃ again, readType "&'a [u8; 4]" = .ok again ∧ again.untrailed = borrowedArray) ∧
      ∃ type, readParameters "data &'a [u8; 4]" = .ok ⟨[⟨"data", type⟩], false⟩ ∧ type.untrailed = borrowedArray := by
  have structural : borrowedArray.isStructural = true := by decide +kernel
  have text : borrowedArray.text = "&'a [u8; 4]" := by decide +kernel
  have same : borrowedArray.untrailed = borrowedArray := by rfl
  obtain ⟨types, signatures⟩ := Ty.text_reads_back
  have shown : checksumSignature.parametersText = "data &'a [u8; 4]" := by decide +kernel
  have named : List.Forall₂ Names checksumSignature.typedInputs [⟨"data", borrowedArray⟩] :=
    .cons ⟨false, false, none, rfl⟩ .nil
  have identifier : IsIdentifier "data" := ⟨.plain (by decide +kernel), rfl⟩
  have one := types borrowedArray isWritten_borrowedArray structural
  obtain ⟨again, read, alike⟩ := (signatures checksumSignature).1 _ named
    (List.forall_mem_singleton.mpr ⟨identifier, isWritten_borrowedArray, structural⟩)
  rw [text, same] at one
  rw [shown] at read
  refine ⟨one, ?_⟩
  cases alike with
  | @cons _ other _ _ found more =>
    cases more
    obtain ⟨name, type⟩ := other
    obtain ⟨rfl, kept⟩ := found
    exact ⟨type, read, kept.trans same⟩

end Endpoints
