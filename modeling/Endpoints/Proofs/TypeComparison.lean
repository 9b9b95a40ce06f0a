import Endpoints.Proofs.EndpointContents
import Endpoints.Proofs.TypePrinting

/-! Types that are compared by their texts. Texts of tidy types are the same exactly where the types show the same,
which is less than the types themselves. -/

namespace Endpoints
open TypeText

section Converse

theorem Tokens.compactText_of_constant {tokens others : Tokens} (same : tokens.constant = others.constant) :
    compactText tokens = compactText others := by
  unfold Tokens.constant at same
  simp only at same
  split at same <;> split at same <;> simp at same <;> exact same

theorem Ty.compactText_of_spelled {tokens others : Tokens} (same : Ty.spelled tokens = .spelled others) :
    compactText tokens = compactText others := by
  simpa [Ty.spelled] using same

theorem Ty.kind_kept (ty : Ty) : (ty.kept false).kind = ty.kind := by
  cases ty with
  | qualified self ofTrait segments => cases ofTrait <;> simp [Ty.kept, Ty.spelled, Ty.kind]
  | _ => simp [Ty.kept, Ty.spelled, Ty.kind]

theorem Ty.kind_eq_of_shown {first second : Ty} (same : first.kept false = second.kept false) :
    first.kind = second.kind := by
  rw [← kind_kept first, same, kind_kept]

theorem Ty.text_of_spelled {first second : Ty} (kind : first.kind = .spelled)
    (same : first.kept false = second.kept false) : first.text = second.text := by
  obtain ⟨tokens, text, shown⟩ := exists_spelled kind
  obtain ⟨others, alike, again⟩ := exists_spelled ((kind_eq_of_shown same).symm.trans kind)
  rw [shown, again] at same
  rw [text, alike, compactText_of_spelled same]

theorem Argument.kind_kept (argument : Argument) : (argument.kept false).kind = argument.kind := by
  cases argument <;> simp [Argument.kept, Argument.kind]

theorem Argument.kind_eq_of_shown {first second : Argument} (same : first.kept false = second.kept false) :
    first.kind = second.kind := by
  rw [← kind_kept first, same, kind_kept]

theorem Argument.text_of_verbatim {first second : Argument} (kind : first.kind = .type)
    (untyped : ∀ type, first ≠ .type type) (same : first.kept false = second.kept false) : first.text = second.text := by
  obtain ⟨other, _, alike, again⟩ := exists_type ((kind_eq_of_shown same).symm.trans kind)
  obtain ⟨tokens, _, text, shown⟩ := exists_verbatim kind untyped
  rw [shown, again, Argument.type.injEq] at same
  rw [text, alike, Ty.text_of_spelled rfl same]

theorem Bound.kind_kept (bound : Bound) : (bound.kept false).kind = bound.kind := by
  cases bound with
  | ofTrait parenthesized optional binder path => cases optional <;> simp [Bound.kept, Bound.kind]
  | _ => simp [Bound.kept, Bound.kind]

theorem Bound.kind_eq_of_shown {first second : Bound} (same : first.kept false = second.kept false) :
    first.kind = second.kind := by
  rw [← kind_kept first, same, kind_kept]

theorem Bound.text_of_spelled {first second : Bound} (kind : first.kind = .spelled)
    (same : first.kept false = second.kept false) : first.text = second.text := by
  obtain ⟨tokens, text, shown⟩ := exists_spelled kind
  obtain ⟨others, alike, again⟩ := exists_spelled ((kind_eq_of_shown same).symm.trans kind)
  rw [text, alike]
  simpa [shown, again] using same

mutual

theorem Ty.text_of_shown : ∀ first second : Ty, first.kept false = second.kept false → first.text = second.text
  | .array element length => fun second same => by
    have kinds := Ty.kind_eq_of_shown same
    cases second with
    | array other size =>
      simp only [Ty.kept, Bool.false_eq_true, if_false, Ty.array.injEq] at same
      rw [Ty.text, Ty.text, element.text_of_shown other same.1, Tokens.compactText_of_constant same.2]
    | slice other => simp [Ty.kept] at same
    | _ => cases kinds
  | .function .. => fun second same => Ty.text_of_spelled rfl same
  | .implementing bounds _ => fun second same => by
    have kinds := Ty.kind_eq_of_shown same
    cases second with
    | implementing others _ =>
      simp only [Ty.kept, Ty.implementing.injEq, and_true] at same
      rw [Ty.text, Ty.text, boundTexts_of_shown bounds others same]
    | _ => cases kinds
  | .inferred => fun second same => by
    have kinds := Ty.kind_eq_of_shown same
    cases second with
    | inferred => rfl
    | _ => cases kinds
  | .never => fun second same => by
    have kinds := Ty.kind_eq_of_shown same
    cases second with
    | never => rfl
    | _ => cases kinds
  | .paren inner => fun second same => by
    have kinds := Ty.kind_eq_of_shown same
    cases second with
    | paren other =>
      simp only [Ty.kept, Ty.paren.injEq] at same
      rw [Ty.text, Ty.text, inner.text_of_shown other same]
    | tuple => simp [Ty.kept] at same
    | _ => cases kinds
  | .path path => fun second same => by
    have kinds := Ty.kind_eq_of_shown same
    cases second with
    | path other =>
      simp only [Ty.kept, Ty.path.injEq] at same
      rw [Ty.text, Ty.text, path.text_of_shown other same]
    | _ => cases kinds
  | .qualified .. => fun second same => Ty.text_of_spelled rfl same
  | .pointer mutable target => fun second same => by
    have kinds := Ty.kind_eq_of_shown same
    cases second with
    | pointer changeable other =>
      simp only [Ty.kept, Ty.pointer.injEq] at same
      rw [Ty.text, Ty.text, same.1, target.text_of_shown other same.2]
    | _ => cases kinds
  | .reference lifetime mutable target => fun second same => by
    have kinds := Ty.kind_eq_of_shown same
    cases second with
    | reference label changeable other =>
      simp only [Ty.kept, Ty.reference.injEq] at same
      obtain ⟨rfl, rfl, targets⟩ := same
      refine String.toList_injective ?_
      rw [Ty.text_reference, Ty.text_reference, target.text_of_shown other targets]
    | _ => cases kinds
  | .slice element => fun second same => by
    have kinds := Ty.kind_eq_of_shown same
    cases second with
    | slice other =>
      simp only [Ty.kept, Ty.slice.injEq] at same
      rw [Ty.text, Ty.text, element.text_of_shown other same]
    | array => simp [Ty.kept] at same
    | _ => cases kinds
  | .traitObject _ bounds _ => fun second same => by
    have kinds := Ty.kind_eq_of_shown same
    cases second with
    | traitObject _ others _ =>
      simp only [Ty.kept, Ty.traitObject.injEq] at same
      rw [Ty.text, Ty.text, boundTexts_of_shown bounds others same.2.1]
    | _ => cases kinds
  | .tuple elements trailing => fun second same => by
    have kinds := Ty.kind_eq_of_shown same
    cases second with
    | paren => simp [Ty.kept] at same
    | tuple others ends =>
      simp only [Ty.kept, Ty.tuple.injEq, and_true] at same
      have texts := congrArg tupleText (typeTexts_of_shown elements others same)
      refine String.toList_injective ?_
      rw [Ty.text_tuple, Ty.text_tuple, texts]
    | _ => cases kinds
  | .call .. => fun second same => Ty.text_of_spelled rfl same
  | .verbatim _ => fun second same => Ty.text_of_spelled rfl same

theorem typeTexts_of_shown : ∀ types others : List Ty, typesKept false types = typesKept false others →
    typeTexts types = typeTexts others
  | [] => fun others same => by
    cases others with
    | nil => rfl
    | cons => simp [typesKept] at same
  | type :: rest => fun others same => by
    cases others with
    | nil => simp [typesKept] at same
    | cons other more =>
      simp only [typesKept, List.cons.injEq] at same
      rw [typeTexts, typeTexts, type.text_of_shown other same.1, typeTexts_of_shown rest more same.2]

theorem Path.text_of_shown : ∀ first second : Path, first.kept false = second.kept false → first.text = second.text
  | .mk isGlobal segments => fun second same => by
    obtain ⟨isRooted, others⟩ := second
    simp only [Path.kept, Path.mk.injEq] at same
    rw [Path.text, Path.text, same.1, segmentTexts_of_shown segments others same.2]

theorem segmentTexts_of_shown : ∀ segments others : List Segment,
    segmentsKept false segments = segmentsKept false others → segmentTexts segments = segmentTexts others
  | [] => fun others same => by
    cases others with
    | nil => rfl
    | cons => simp [segmentsKept] at same
  | segment :: rest => fun others same => by
    cases others with
    | nil => simp [segmentsKept] at same
    | cons other more =>
      simp only [segmentsKept, List.cons.injEq] at same
      rw [segmentTexts, segmentTexts, segment.text_of_shown other same.1, segmentTexts_of_shown rest more same.2]

theorem Segment.text_of_shown : ∀ first second : Segment, first.kept false = second.kept false →
    first.text = second.text
  | .mk name arguments => fun second same => by
    obtain ⟨label, given⟩ := second
    simp only [Segment.kept, Segment.mk.injEq] at same
    rw [Segment.text, Segment.text, same.1, arguments.text_of_shown given same.2]

theorem Arguments.text_of_shown : ∀ first second : Arguments, first.kept false = second.kept false →
    first.text = second.text
  | .none => fun second same => by
    cases second with
    | none => rfl
    | _ => simp [Arguments.kept] at same
  | .angle turbofish arguments _ => fun second same => by
    cases second with
    | angle other given _ =>
      simp only [Arguments.kept, Arguments.angle.injEq, and_true] at same
      rw [Arguments.text, Arguments.text, same.1, argumentTexts_of_shown arguments given same.2]
    | _ => simp [Arguments.kept] at same
  | .call inputs _ none => fun second same => by
    cases second with
    | call types _ output =>
      cases output with
      | none =>
        simp only [Arguments.kept, Arguments.call.injEq] at same
        rw [Arguments.text, Arguments.text, typeTexts_of_shown inputs types same.1]
      | some => simp [Arguments.kept, outputKept] at same
    | _ => simp [Arguments.kept] at same
  | .call inputs _ (some output) => fun second same => by
    cases second with
    | call types _ given =>
      cases given with
      | none => simp [Arguments.kept, outputKept] at same
      | some type =>
        simp only [Arguments.kept, outputKept, Arguments.call.injEq, Option.some.injEq, true_and] at same
        rw [Arguments.text, Arguments.text, typeTexts_of_shown inputs types same.1, output.text_of_shown type same.2]
    | _ => simp [Arguments.kept] at same

theorem argumentTexts_of_shown : ∀ arguments others : List Argument,
    argumentsKept false arguments = argumentsKept false others → argumentTexts arguments = argumentTexts others
  | [] => fun others same => by
    cases others with
    | nil => rfl
    | cons => simp [argumentsKept] at same
  | argument :: rest => fun others same => by
    cases others with
    | nil => simp [argumentsKept] at same
    | cons other more =>
      simp only [argumentsKept, List.cons.injEq] at same
      rw [argumentTexts, argumentTexts, argument.text_of_shown other same.1, argumentTexts_of_shown rest more same.2]

theorem Argument.text_of_shown : ∀ first second : Argument, first.kept false = second.kept false →
    first.text = second.text
  | .lifetime name => fun second same => by
    have kinds := Argument.kind_eq_of_shown same
    cases second with
    | lifetime other =>
      simp only [Argument.kept, Argument.lifetime.injEq] at same
      rw [same]
    | _ => cases kinds
  | .type type => fun second same => by
    obtain ⟨other, _, text, shown⟩ := Argument.exists_type (Argument.kind_eq_of_shown same).symm
    rw [shown, Argument.kept, Argument.type.injEq] at same
    rw [text, Argument.text, type.text_of_shown other same]
  | .const value => fun second same => by
    have kinds := Argument.kind_eq_of_shown same
    cases second with
    | const other =>
      simp only [Argument.kept, Bool.false_eq_true, if_false, Argument.const.injEq] at same
      rw [Argument.text, Argument.text, Tokens.compactText_of_constant same]
    | _ => cases kinds
  | .associatedType name _ type => fun second same => by
    have kinds := Argument.kind_eq_of_shown same
    cases second with
    | associatedType label _ other =>
      simp only [Argument.kept, Bool.false_eq_true, if_false, Argument.associatedType.injEq, true_and] at same
      rw [Argument.text, Argument.text, same.1, type.text_of_shown other same.2]
    | _ => cases kinds
  | .associatedConst .. => fun second same => Argument.text_of_verbatim rfl (by simp) same
  | .constraint .. => fun second same => Argument.text_of_verbatim rfl (by simp) same

theorem boundTexts_of_shown : ∀ bounds others : List Bound, boundsKept false bounds = boundsKept false others →
    boundTexts bounds = boundTexts others
  | [] => fun others same => by
    cases others with
    | nil => rfl
    | cons => simp [boundsKept] at same
  | bound :: rest => fun others same => by
    cases others with
    | nil => simp [boundsKept] at same
    | cons other more =>
      simp only [boundsKept, List.cons.injEq] at same
      rw [boundTexts, boundTexts, bound.text_of_shown other same.1, boundTexts_of_shown rest more same.2]

theorem Bound.text_of_shown : ∀ first second : Bound, first.kept false = second.kept false →
    first.text = second.text
  | .ofTrait _ optional _ path => fun second same => by
    have kinds := Bound.kind_eq_of_shown same
    cases second with
    | ofTrait _ relaxed _ other =>
      simp only [Bound.kept, Bool.false_eq_true, if_false, Bound.ofTrait.injEq, true_and] at same
      obtain ⟨rfl, paths⟩ := same
      refine String.toList_injective ?_
      rw [Bound.text_ofTrait, Bound.text_ofTrait, path.text_of_shown other paths]
    | lifetime => cases optional <;> cases kinds
    | capturing => cases optional <;> cases kinds
    | verbatim => cases optional <;> cases kinds
  | .lifetime name => fun second same => by
    have kinds := Bound.kind_eq_of_shown same
    cases second with
    | ofTrait _ relaxed => cases relaxed <;> cases kinds
    | lifetime other =>
      simp only [Bound.kept, Bound.lifetime.injEq] at same
      rw [same]
    | _ => cases kinds
  | .capturing .. => fun second same => Bound.text_of_spelled rfl same
  | .verbatim _ => fun second same => Bound.text_of_spelled rfl same

end

end Converse

theorem Ty.text_eq_iff {first second : Ty} (one : first.Tidy) (two : second.Tidy) :
    first.text = second.text ↔ first.shown = second.shown :=
  ⟨fun same => first.shown_of_text second one two (congrArg _ same), first.text_of_shown second⟩

namespace Endpoint

/-- How an endpoint compares the type that the tag of its terminal names with the type that the method declares. -/
structure ComparesTypes (endpoint : Endpoint) : Prop where
  /-- The texts of the two types are the same. -/
  compared : ∀ method ∈ endpoint.methods, ∀ named, method.role = .sync named →
    ∃ declared, ReturnsResult method.signature.output declared ∧ declared.text = named.text
  /-- Tidy types with the same text show the same, and no more than that. -/
  shown : ∀ first second : Ty, first.Tidy → second.Tidy → (first.text = second.text ↔ first.shown = second.shown)
  /-- Whole ones are the same up to separators at the ends of lists. -/
  whole : ∀ first second : Ty, first.Tidy → second.Tidy → first.IsWhole → second.IsWhole →
    (first.text = second.text ↔ first.untrailed = second.untrailed)

theorem comparesTypes_of_built {declaration : TraitDeclaration} {endpoint : Endpoint}
    (built : ofInterface (.ofTrait declaration) = .ok endpoint) : endpoint.ComparesTypes := by
  refine ⟨fun method among named waits => ?_, fun first second => Ty.text_eq_iff, ?_⟩
  · obtain ⟨_, accepted, _, _⟩ := methods_of_built built
    have fits := (accepted method among).fits
    rw [waits, Role.fits_sync_iff] at fits
    exact fits.2
  · intro first second one two whole all
    rw [Ty.text_eq_iff one two, whole, all]

end Endpoint

/-- A trait whose only method waits for a result. -/
def waitingTrait (tag : String) (result : Ty) : TraitDeclaration where
  attributes := [Builder.documented "@GET(\"/photos\")"]
  visibility := .inherited
  isUnsafe := false
  isAuto := false
  name := "ListPhotos"
  generics := .empty
  supertraits := .nil
  items := [.method ⟨[Builder.documented tag],
    Builder.plainSignature "run" [.receiver ⟨[], none, false, none⟩]
      (some (.path (.mk false [.mk "Result" (.angle false
        [.type result, .type (.path (.ofName "Error"))] false)]))), none⟩]

/-- The type that the tag of a method names, and the type that its signature declares. -/
def Method.comparedTypes? (method : Method) : Option (Ty × Ty) :=
  match method.role, resultType? method.signature.output with
  | .sync named, some declared => some (named, declared)
  | _, _ => none

theorem Method.comparedTypes?_eq_some {method : Method} {named declared : Ty}
    (compared : method.comparedTypes? = some (named, declared)) :
    method.role = .sync named ∧ ReturnsResult method.signature.output declared := by
  unfold comparedTypes? at compared
  split at compared
  next result type role returns =>
    cases compared
    exact ⟨role, resultType?_eq_some_iff.mp returns⟩
  next => cases compared

namespace Endpoint

/-- A list of pairs, `Vec<(u8, &'static str)>`. -/
def pairList : Ty :=
  .path (.mk false [.mk "Vec" (.angle false
    [.type (.tuple [.path (.ofName "u8"), .reference (some "static") false (.path (.ofName "str"))] false)] false)])

theorem pairList_compared : ∃ endpoint,
    ofInterface (.ofTrait (waitingTrait "@SYNC(\"Vec<(u8, &'static str,),>\")" pairList)) = .ok endpoint ∧
      endpoint.syncResult?.any (fun named => named.text == pairList.text && named.isTidy) = true ∧
        endpoint.ComparesTypes := by
  obtain ⟨endpoint, built, named⟩ := Checks.exists_ok_of_toOption
    (ofInterface (.ofTrait (waitingTrait "@SYNC(\"Vec<(u8, &'static str,),>\")" pairList)))
    (fun endpoint => endpoint.syncResult?.any (fun named => named.text == pairList.text && named.isTidy) = true)
    (by decide +kernel)
  exact ⟨endpoint, built, named, comparesTypes_of_built built⟩

/-- An object of a trait with a lifetime, `Box<dyn A<'a>>`. -/
def boundObject : Ty :=
  .path (.mk false [.mk "Box" (.angle false
    [.type (.traitObject true [.ofTrait false false []
      (.mk false [.mk "A" (.angle false [.lifetime "a"] false)])] false)] false)])

/-- An object for all lifetimes is taken for one of a single lifetime. -/
theorem binder_overlooked : ∃ endpoint,
    ofInterface (.ofTrait (waitingTrait "@SYNC(\"Box<dyn for<'a> A<'a>>\")" boundObject)) = .ok endpoint ∧
      ∃ method ∈ endpoint.methods, ∃ named declared, method.role = .sync named ∧
        ReturnsResult method.signature.output declared ∧ named.Tidy ∧ declared.Tidy ∧ named.text = declared.text ∧
          named.untrailed ≠ declared.untrailed := by
  obtain ⟨endpoint, built, taken⟩ := Checks.exists_ok_of_toOption
    (ofInterface (.ofTrait (waitingTrait "@SYNC(\"Box<dyn for<'a> A<'a>>\")" boundObject)))
    (fun endpoint => (endpoint.methods.any fun method => method.comparedTypes?.any fun (named, declared) =>
      named.isTidy && declared.isTidy && named.text == declared.text &&
        named.untrailed.tokens.text != declared.untrailed.tokens.text) = true) (by decide +kernel)
  obtain ⟨method, among, taken⟩ := List.any_eq_true.mp taken
  obtain ⟨⟨named, declared⟩, compared, alike⟩ := (Option.any_eq_true _ _).mp taken
  simp only [Bool.and_eq_true, beq_iff_eq, bne_iff_ne] at alike
  obtain ⟨role, returns⟩ := Method.comparedTypes?_eq_some compared
  refine ⟨endpoint, built, method, among, named, declared, role, returns, alike.1.1.1, alike.1.1.2, alike.1.2, ?_⟩
  exact fun same => alike.2 (congrArg (·.tokens.text) same)

end Endpoint

end Endpoints
