import Endpoints.Proofs.FirstViolation
import Endpoints.Proofs.TagGrammar
import Endpoints.Proofs.TagSequences

/-! The terminal of a single method that returns a result. It may be left to the signature or named in a tag: the
outcome is the same. Of several methods none is left to its signature. -/

namespace Endpoints
open Checks

/-- A line that is written as the tag. -/
def Tag.WrittenIn (tag : Tag) (line : String) : Prop :=
  ∃ tokens, Lexer.tokens? (Text.trim line) = some tokens ∧ tag.Written tokens

theorem Tag.writtenIn_plain {name : String} (plain : Lexer.isPlainWord name = true) (argument : String) :
    (⟨name, some argument⟩ : Tag).WrittenIn ("@" ++ name ++ "(" ++ Text.Quoted.encode argument ++ ")") :=
  written_of_quotes plain (quotes_plain name argument)

namespace Lexer

theorem gap_of_blank {text : List Char} (blank : ∀ c ∈ text, Text.isBlank c = true) : Gap text := by
  induction text with
  | nil => exact .nil
  | cons c text ih =>
    obtain ⟨first, blank⟩ := List.forall_mem_cons.mp blank
    exact .separator (by simp [isSeparator, first]) (ih blank)

theorem tokens?_of_blank {text : String} (blank : Text.isBlankText text = true) : tokens? text = some [] := by
  have all : ∀ c ∈ text.toList, Text.isBlank c = true := by simpa [Text.isBlankText] using blank
  have mark : ∀ c ∈ text.toList.head?, c.toNat ≠ 0xFEFF := by
    intro c first same
    have blank := all c (List.mem_of_mem_head? first)
    simp [Text.isBlank, same] at blank
  have cut := tokens?_of_cut mark (.done (gap_of_blank all))
  rwa [String.ofList_toList] at cut

end Lexer

theorem not_isBlankText_of_readType {text : String} {ty : Ty} (read : readType text = .ok ty) :
    Text.isBlankText text = false := by
  refine Bool.eq_false_iff.mpr fun blank => ?_
  obtain ⟨tokens, lexed, grammar, typed⟩ := exists_tokens_of_readText read
  obtain rfl : [] = tokens := Option.some.inj ((Lexer.tokens?_of_blank blank).symm.trans lexed)
  cases typed

theorem asksFor_sync {line text : String} {result : Ty} (written : (⟨"SYNC", some text⟩ : Tag).WrittenIn line)
    (read : readType text = .ok result) : AsksFor line (.sync result) := by
  obtain ⟨tokens, lexed, written⟩ := written
  have asked : Directive.AskedBy ⟨"SYNC", some text⟩ (.sync result) :=
    .sync rfl rfl (not_isBlankText_of_readType read) read
  exact ⟨_, Directive.interpret_eq_ok_iff.mpr ⟨tokens, _, lexed, written, asked⟩, rfl⟩

namespace Method

/-- Methods with one signature that ask for one role are taken alike, or refused alike. -/
theorem ofInterface_eq_of_asks {interface : String} {alone : Bool} {one other : InterfaceMethod} {role : Option Role}
    (signature : one.declaration.signature = other.declaration.signature) (asks : one.Asks alone role)
    (also : other.Asks alone role) : ofInterface interface alone one = ofInterface interface alone other := by
  have first : role? interface alone one = .ok role := role?_eq_ok_iff.mpr asks
  have second : role? interface alone other = .ok role := role?_eq_ok_iff.mpr also
  unfold ofInterface
  rw [first, second, InterfaceMethod.name, InterfaceMethod.name, signature]

end Method

/-- A method that has no role by itself. -/
structure InterfaceMethod.Unannotated (method : InterfaceMethod) : Prop where
  untagged : method.documentation.tags = []
  bodyless : method.declaration.body = none

namespace Interface

variable {interface : Interface} {self : InterfaceMethod}

/-- Among several methods one that has no role by itself is at fault, whatever it returns. -/
theorem methodFault_of_unannotated (several : 2 ≤ interface.methods.length) (unannotated : self.Unannotated)
    (before : List InterfaceMethod) :
    interface.MethodFault before self (.untagged interface.name self.name) := by
  have together : (interface.methods.length == 1) = false := beq_false_of_ne (by omega)
  refine .unclear (.untagged unannotated.untagged unannotated.bodyless fun alone => ?_)
  rw [together] at alone
  cases alone

end Interface

namespace Endpoint

/-- To name the result of the only method in a tag is as good as to leave it to its signature. -/
theorem ofTrait_inferred {first second : TraitDeclaration} {self : InterfaceMethod} {tag text : String} {result : Ty}
    (single : (Interface.ofTrait first).methods = [self]) (unannotated : self.Unannotated)
    (returns : ReturnsResult self.declaration.signature.output result)
    (bare : second.undocumented = first.undocumented)
    (tags : (Interface.ofTrait second).documentation.tags = (Interface.ofTrait first).documentation.tags)
    (named : (Interface.ofTrait second).methodTags = [[tag]]) (written : (⟨"SYNC", some text⟩ : Tag).WrittenIn tag)
    (read : readType text = .ok result) : ofInterface (.ofTrait second) = ofInterface (.ofTrait first) := by
  obtain ⟨other, only, tagged⟩ : ∃ other, (Interface.ofTrait second).methods = [other] ∧
      other.documentation.tags = [tag] := by
    simpa [Interface.methodTags, List.map_eq_cons_iff] using named
  have declared : (Interface.ofTrait second).undocumentedMethods = (Interface.ofTrait first).undocumentedMethods := by
    rw [Interface.undocumentedMethods_ofTrait, bare, Interface.undocumentedMethods_ofTrait]
  have signature : other.declaration.signature = self.declaration.signature := by
    rw [Interface.undocumentedMethods, Interface.undocumentedMethods, only, single] at declared
    exact congrArg (·.signature) (List.cons.inj declared).1
  have asks : other.Asks true (some (.sync result)) := .tagged tagged (asksFor_sync written read)
  have inferred : self.Asks true (some (.sync result)) :=
    .inferred rfl unannotated.untagged unannotated.bodyless returns
  have name : (Interface.ofTrait second).name = (Interface.ofTrait first).name := congrArg (·.name) bare
  refine ofInterface_congr name (congrArg (·.visibility) bare) (shapeFault?_congr bare) tags ?_
  rw [only, single]
  exact .cons (Method.ofInterface_eq_of_asks signature asks inferred) .nil

theorem exists_error_of_unannotated {interface : Interface} {self : InterfaceMethod}
    (several : 2 ≤ interface.methods.length) (among : self ∈ interface.methods) (unannotated : self.Unannotated) :
    ∃ error, ofInterface interface = .error error := by
  cases built : ofInterface interface with
  | error error => exact ⟨error, rfl⟩
  | ok endpoint =>
    obtain ⟨before, after, split⟩ := List.append_of_mem among
    obtain ⟨_, _, collected, _⟩ := ofInterface_eq_ok_iff.mp built
    have faultless := Method.faultless_iff_collect.mpr ⟨_, collected⟩
    have fault := Interface.methodFault_of_unannotated several unannotated before
    exact absurd fault (faultless before self after split _)

/-- For the only method of a trait it makes no difference whether its terminal is inferred or named in a tag. Of
several methods none is inferred: the first that would have to be is reported. -/
theorem inferred_as_tagged :
    (∀ {first second : TraitDeclaration} {self : InterfaceMethod} {tag text : String} {result : Ty},
      (Interface.ofTrait first).methods = [self] → self.Unannotated →
      ReturnsResult self.declaration.signature.output result → readType text = .ok result →
      second.undocumented = first.undocumented →
      (Interface.ofTrait second).documentation.tags = (Interface.ofTrait first).documentation.tags →
      (Interface.ofTrait second).methodTags = [[tag]] → (⟨"SYNC", some text⟩ : Tag).WrittenIn tag →
        ofInterface (.ofTrait second) = ofInterface (.ofTrait first) ∧
          ∀ runtime, Builder.ofTrait second runtime = Builder.ofTrait first runtime) ∧
    (∀ text, (⟨"SYNC", some text⟩ : Tag).WrittenIn ("@SYNC(" ++ Text.Quoted.encode text ++ ")")) ∧
    ∀ {declaration : TraitDeclaration} {self : InterfaceMethod},
      2 ≤ (Interface.ofTrait declaration).methods.length → self ∈ (Interface.ofTrait declaration).methods →
      self.Unannotated →
        (∃ error, ofInterface (.ofTrait declaration) = .error error) ∧
          ∀ before after, (Interface.ofTrait declaration).methods = before ++ self :: after →
            declaration.IsPlain → (∃ method template, (Interface.ofTrait declaration).NamesEndpoint method template) →
            Faultless (Interface.ofTrait declaration).MethodFault before →
              ofInterface (.ofTrait declaration) = .error (.untagged declaration.name self.name) := by
  refine ⟨fun single unannotated returns read bare tags named written => ?_,
    fun text => Tag.writtenIn_plain (by decide) text, fun several among unannotated => ?_⟩
  · have same := ofTrait_inferred single unannotated returns bare tags named written read
    exact ⟨same, fun runtime => Builder.ofTrait_congr same runtime⟩
  · refine ⟨exists_error_of_unannotated several among unannotated, ?_⟩
    intro before after split plain named faultless
    obtain ⟨method, template, named⟩ := named
    have fault := Interface.methodFault_of_unannotated several unannotated before
    exact ofInterface_eq_error_iff.mpr (.method plain named ⟨before, _, after, split, faultless, fault⟩)

theorem ping_inferred_as_tagged :
    (∃ endpoint, ofInterface (.ofTrait (pingTrait ["@GET(\"/ping\")"] [[]])) = .ok endpoint ∧
      ofInterface (.ofTrait (pingTrait ["@GET(\"/ping\")"] [["@SYNC(\"String\")"]])) = .ok endpoint) ∧
    ofInterface (.ofTrait (pingTrait ["@GET(\"/ping\")"] [["@SYNC(\"String\")"], ["Waits."]])) =
      .error (.untagged "Ping" "ping") := by
  obtain ⟨asTagged, written, refused⟩ := inferred_as_tagged
  have returns : ReturnsResult (pingMethod []).signature.output (.path (.ofName "String")) :=
    resultType?_eq_some_iff.mp rfl
  constructor
  · obtain ⟨endpoint, built, _⟩ := exists_ok_of_toOption
      (ofInterface (.ofTrait (pingTrait ["@GET(\"/ping\")"] [[]]))) (fun _ => True) (by decide +kernel)
    have bare : (pingTrait ["@GET(\"/ping\")"] [["@SYNC(\"String\")"]]).undocumented =
        (pingTrait ["@GET(\"/ping\")"] [[]]).undocumented := by
      rw [undocumented_pingTrait, undocumented_pingTrait]
      rfl
    have same := asTagged rfl ⟨rfl, rfl⟩ returns rfl bare rfl (by decide +kernel) (written "String")
    exact ⟨endpoint, built, same.1.trans built⟩
  · have get : Directive.interpret "@GET(\"/ping\")" = .ok (.endpoint .get "/ping") :=
      Directive.interpret_of_read ⟨"GET", some "/ping"⟩ (by decide +kernel)
    have named : (Interface.ofTrait (pingTrait ["@GET(\"/ping\")"] [["@SYNC(\"String\")"], ["Waits."]])).NamesEndpoint
        .get "/ping" := ⟨_, by decide +kernel, get⟩
    obtain ⟨taken, collected, _⟩ := exists_ok_of_toOption
      (Method.collect "Ping" false [] [.ofDeclaration (pingMethod ["@SYNC(\"String\")"])]) (fun _ => True)
      (by decide +kernel)
    have faultless := Method.faultless_iff_collect.mpr ⟨taken, collected⟩
    have plain : (pingTrait ["@GET(\"/ping\")"] [["@SYNC(\"String\")"], ["Waits."]]).IsPlain :=
      ⟨rfl, rfl, nofun, by simp [pingTrait]⟩
    obtain ⟨_, untagged⟩ := @refused (pingTrait ["@GET(\"/ping\")"] [["@SYNC(\"String\")"], ["Waits."]])
      (.ofDeclaration (pingMethod ["Waits."])) (Nat.le_refl 2) (.tail _ (.head _)) ⟨by decide +kernel, rfl⟩
    exact untagged [_] [] rfl plain ⟨_, _, named⟩ faultless

end Endpoint

end Endpoints
