import Endpoints.Builder.Source
import Endpoints.Proofs.EndpointAcceptance
import Endpoints.Proofs.TagGrammar

/-! Which tags the search for interfaces recognises among those that name an endpoint. The search looks
at characters and the reading of a tag at tokens, between which blanks and comments may stand. -/

namespace Endpoints
open Checks

namespace Lexer

theorem isWordCharacter_of_separator {c : Char} (separates : isSeparator c = true) :
    Text.isWordCharacter c = false :=
  eq_false_of_separator (by decide +kernel) separates

theorem isSolid_of_wordCharacter {c : Char} (word : Text.isWordCharacter c = true) : IsSolid c := by
  refine ⟨Bool.eq_false_iff.mpr fun separates => ?_, ?_⟩
  · rw [isWordCharacter_of_separator separates] at word
    cases word
  · rintro rfl
    revert word
    decide

theorem opening?_of_wordCharacter {c : Char} (word : Text.isWordCharacter c = true) : opening? c = none := by
  unfold opening?
  split
  · exact absurd word (by decide)
  · exact absurd word (by decide)
  · exact absurd word (by decide)
  · rfl

theorem take_of_leaf?_ident {text : List Char} {name : String} {length : Nat}
    (found : leaf? text = some (.ident name, length)) : text.take length = name.toList := by
  obtain ⟨-, rfl⟩ := word_of_leaf? found
  rw [String.toList_ofList]

/-- What is read at the outermost level starts the tokens. A group that is open there comes next. -/
def Settled : List OpenGroup → Tokens → Tokens → Prop
  | [], read, tokens => read.reverse <+: tokens
  | [group], _, tokens => ∃ content, group.before.reverse ++ [.group group.delimiter content] <+: tokens
  | _ :: group :: outer, read, tokens => Settled (group :: outer) read tokens

theorem Settled.forget {outer : List OpenGroup} {read tokens : Tokens} (more : Tokens)
    (settled : Settled outer (more ++ read) tokens) : Settled outer read tokens := by
  induction outer with
  | nil =>
    simp only [Settled, List.reverse_append] at settled
    exact (List.prefix_append _ _).trans settled
  | cons group outer ih =>
    cases outer with
    | nil => exact settled
    | cons next outer => exact ih settled

/-- While a group is open, what is read inside it does not show at the outermost level. -/
theorem Settled.inside {outer : List OpenGroup} {group : OpenGroup} {read other tokens : Tokens}
    (settled : Settled (group :: outer) read tokens) : Settled (group :: outer) other tokens := by
  induction outer generalizing group with
  | nil => exact settled
  | cons next outer ih => exact ih settled

theorem Settled.enter {outer : List OpenGroup} {delimiter : Delimiter} {before read tokens : Tokens}
    (settled : Settled (⟨delimiter, before⟩ :: outer) read tokens) : Settled outer before tokens := by
  cases outer with
  | nil =>
    obtain ⟨content, starts⟩ := settled
    exact (List.prefix_append _ _).trans starts
  | cons group outer => exact Settled.inside settled

theorem Settled.leave {outer : List OpenGroup} {group : OpenGroup} {read content tokens : Tokens}
    (settled : Settled outer (.group group.delimiter content :: group.before) tokens) :
    Settled (group :: outer) read tokens := by
  cases outer with
  | nil => exact ⟨content, by simpa [Settled] using settled⟩
  | cons next outer => exact Settled.inside settled

theorem settled_of_tokensFrom {fuel : Nat} {outer : List OpenGroup} {read tokens : Tokens}
    {text : List Char} (lexed : tokensFrom fuel outer read text = some tokens) :
    Settled outer read tokens := by
  induction fuel generalizing outer read text with
  | zero => cases lexed
  | succ fuel ih =>
    rw [tokensFrom] at lexed
    split at lexed
    next comment _ => exact (ih lexed).forget
    next =>
      split at lexed
      next =>
        split at lexed
        next outermost =>
          obtain rfl : outer = [] := by simpa using outermost
          cases lexed
          exact List.prefix_refl _
        next => cases lexed
      next c rest _ =>
        split at lexed
        next delimiter _ => exact (ih lexed).enter
        next =>
          split at lexed
          next delimiter _ =>
            split at lexed
            next => cases lexed
            next group outer =>
              split at lexed
              next same =>
                subst same
                exact (ih lexed).leave
              next => cases lexed
          next =>
            split at lexed
            next token length _ => exact Settled.forget [token] (ih lexed)
            next => cases lexed

theorem next_of_solid {fuel : Nat} {read tokens : Tokens} {c : Char} {rest : List Char} (solid : IsSolid c)
    (lexed : tokensFrom fuel [] read (c :: rest) = some tokens) :
    (∃ delimiter content, opening? c = some delimiter ∧ read.reverse ++ [.group delimiter content] <+: tokens) ∨
      ∃ token length fuel, leaf? (c :: rest) = some (token, length) ∧
        tokensFrom fuel [] (token :: read) ((c :: rest).drop length) = some tokens := by
  cases fuel with
  | zero => cases lexed
  | succ fuel =>
    rw [tokensFrom] at lexed
    simp only [skip_of_solid solid, documentation?_of_solid solid] at lexed
    split at lexed
    next delimiter opens =>
      obtain ⟨content, starts⟩ := settled_of_tokensFrom lexed
      exact .inl ⟨delimiter, content, opens, starts⟩
    next =>
      split at lexed
      next => cases lexed
      next =>
        split at lexed
        next token length found => exact .inr ⟨token, length, fuel, found, lexed⟩
        next => cases lexed

theorem tokensFrom_at {fuel : Nat} {rest : List Char} {tokens : Tokens}
    (lexed : tokensFrom fuel [] [] ('@' :: rest) = some tokens) :
    ∃ spacing fuel, tokensFrom fuel [] [.punct '@' spacing] rest = some tokens := by
  have solid : IsSolid '@' := ⟨by decide, by decide⟩
  obtain ⟨delimiter, _, opens, _⟩ | ⟨token, length, fuel, found, after⟩ := next_of_solid solid lexed
  · cases opens
  · obtain ⟨spacing, same⟩ := leaf?_at rest
    rw [same] at found
    cases found
    exact ⟨spacing, fuel, after⟩

theorem tokensFrom_nil {fuel : Nat} {read tokens : Tokens} (lexed : tokensFrom fuel [] read [] = some tokens) :
    tokens = read.reverse := by
  cases fuel with
  | zero => cases lexed
  | succ fuel =>
    have still : skip fuel [] = [] := by cases fuel <;> rfl
    have none : documentation? [] = none := rfl
    simpa [tokensFrom, still, none] using lexed.symm

/-- A word that follows an `@` at once, and that only a group may follow, ends where no word character
follows. -/
theorem word_of_tokensFrom {fuel : Nat} {text : List Char} {spacing : Spacing} {name : String}
    {more : Tokens} (solid : ∀ c ∈ text.head?, IsSolid c)
    (closed : ∀ token ∈ more.head?, ∃ delimiter content, token = .group delimiter content)
    (lexed : tokensFrom fuel [] [] ('@' :: text) = some (.punct '@' spacing :: .ident name :: more)) :
    ∃ after, text = name.toList ++ after ∧ ∀ next ∈ after.head?, Text.isWordCharacter next = false := by
  obtain ⟨spacing', fuel, lexed⟩ := tokensFrom_at lexed
  obtain _ | ⟨c, rest⟩ := text
  · cases tokensFrom_nil lexed
  obtain ⟨_, _, _, starts⟩ | ⟨token, length, fuel, found, lexed⟩ := next_of_solid (solid c rfl) lexed
  · simp at starts
  · have settled := settled_of_tokensFrom lexed
    obtain rfl : token = .ident name := by
      simp [Settled] at settled
      exact settled.2
    have word := take_of_leaf?_ident found
    refine ⟨(c :: rest).drop length, by rw [← word, List.take_append_drop], fun next first => ?_⟩
    refine Bool.eq_false_iff.mpr fun isWord => ?_
    obtain ⟨others, split⟩ : ∃ others, (c :: rest).drop length = next :: others :=
      List.head?_eq_some_iff.mp first
    rw [split] at lexed
    -- A token would begin here, but a word character begins no group.
    obtain ⟨delimiter, _, opens, _⟩ | ⟨token, _, _, found, lexed⟩ :=
      next_of_solid (isSolid_of_wordCharacter isWord) lexed
    · exact absurd opens (opening?_of_wordCharacter isWord ▸ nofun)
    · have settled := settled_of_tokensFrom lexed
      obtain ⟨others, rfl⟩ : [token] <+: more := by
        simp [Settled] at settled
        exact settled.2
      obtain ⟨delimiter, content, group⟩ := closed token rfl
      exact leaf?_ne_group found delimiter content group

end Lexer

namespace Tag

/-- A character between the `@` and the name of a tag. -/
def isApart (tag : String) : Bool :=
  match tag.toList with
  | '@' :: c :: _ => Lexer.isSeparator c || c == '/'
  | _ => false

end Tag

/-- A tag that names an endpoint is an `@`, the name of an HTTP method and at most a group. -/
theorem Directive.tokens_of_endpoint {text : String} {method : HttpMethod} {template : String}
    (endpoint : interpret text = .ok (.endpoint method template)) :
    ∃ spacing more, Lexer.tokens? (Text.trim text) = some (.punct '@' spacing :: .ident method.name :: more) ∧
      ∀ token ∈ more.head?, ∃ delimiter content, token = .group delimiter content := by
  obtain ⟨tokens, tag, lexed, written, asked⟩ := interpret_eq_ok_iff.mp endpoint
  cases asked with
  | endpoint named given =>
    cases written with
    | bare => cases given
    | argument spacing name =>
      subst named
      exact ⟨spacing, _, lexed, fun token first => ⟨_, _, (Option.some.inj first).symm⟩⟩

namespace Text

theorem head?_append_blanks {after blanks : List Char} (blank : blanks.all isBlank = true)
    (ends : ∀ next ∈ after.head?, isWordCharacter next = false) :
    ∀ next ∈ (after ++ blanks).head?, isWordCharacter next = false := by
  intro next first
  cases after with
  | nil =>
    cases blanks with
    | nil => cases first
    | cons c rest =>
      obtain rfl : c = next := by simpa using first
      have separates : Lexer.isSeparator c = true := by
        simp [Lexer.isSeparator, List.all_eq_true.mp blank c List.mem_cons_self]
      exact Lexer.isWordCharacter_of_separator separates
  | cons c rest => exact ends next (by simpa using first)

theorem exists_trim_append {text : String} {first : Char} {rest : List Char}
    (starts : text.toList = first :: rest) (solid : isBlank first = false) :
    ∃ inner blanks, (trim text).toList = first :: inner ∧ rest = inner ++ blanks ∧
      blanks.all isBlank = true := by
  have untouched : trimStart text.toList = first :: rest := by
    simp [trimStart, starts, solid]
  have split : first :: rest = trimEnd (first :: rest) ++ ((first :: rest).reverse.takeWhile isBlank).reverse := by
    rw [trimEnd, ← List.reverse_append, List.takeWhile_append_dropWhile, List.reverse_reverse]
  cases kept : trimEnd (first :: rest) with
  | nil =>
    -- The first character is no blank, so it stays.
    have blank : (first :: rest).all isBlank = true := by
      rw [split, kept]
      simp
    rw [List.all_cons, solid] at blank
    cases blank
  | cons head inner =>
    rw [kept] at split
    obtain ⟨rfl, tail⟩ := List.cons.inj split
    refine ⟨inner, _, ?_, tail, ?_⟩
    · rw [trim, untouched, kept, String.toList_ofList]
    · simp

end Text

namespace Documentation

theorem starts_of_mem_tags {documentation : Documentation} {tag : String} (member : tag ∈ documentation.tags) :
    ∃ rest, tag.toList = '@' :: rest := by
  obtain ⟨line, _, found⟩ := List.mem_filterMap.mp member
  unfold tag? at found
  split at found
  · cases found
    exact ⟨_, String.toList_ofList⟩
  · cases found

theorem isEndpointTag_of_starts {tag : String} {method : HttpMethod} {after : List Char}
    (starts : tag.toList = '@' :: (method.name.toList ++ after))
    (ends : ∀ next ∈ after.head?, Text.isWordCharacter next = false) : isEndpointTag tag = true := by
  have whole : startsWithWord ('@' :: method.name.toList) tag.toList = true := by
    have boundary : after.head?.any Text.isWordCharacter = false := by
      cases first : after.head? with
      | none => rfl
      | some next => simpa using ends next first
    simp [startsWithWord, starts, boundary]
  refine List.any_eq_true.mpr ⟨"@" ++ method.name, ?_, ?_⟩
  · cases method <;> decide
  · rwa [String.toList_append]

theorem isApart_of_isEndpointTag {tag : String} (recognised : isEndpointTag tag = true) :
    Tag.isApart tag = false := by
  obtain ⟨name, among, starts⟩ := List.any_eq_true.mp recognised
  obtain ⟨after, spelled⟩ : name.toList <+: tag.toList := by
    simp only [startsWithWord, Bool.and_eq_true] at starts
    exact List.isPrefixOf_iff_prefix.mp starts.1
  have solid : ∀ known ∈ ["@GET", "@POST", "@PUT", "@DELETE"], ∃ c rest, known.toList = '@' :: c :: rest ∧
      (Lexer.isSeparator c || c == '/') = false := by
    simp only [List.forall_mem_cons]
    exact ⟨⟨'G', _, rfl, by decide⟩, ⟨'P', _, rfl, by decide⟩, ⟨'P', _, rfl, by decide⟩, ⟨'D', _, rfl, by decide⟩,
      nofun⟩
  obtain ⟨c, rest, known, solid⟩ := solid name among
  rw [known] at spelled
  simpa [Tag.isApart, ← spelled] using solid

/-- The search recognises a tag that names an endpoint exactly when the name follows the `@` at once. -/
theorem isEndpointTag_eq_not_isApart {documentation : Documentation} {tag : String}
    (member : tag ∈ documentation.tags) {method : HttpMethod} {template : String}
    (endpoint : Directive.interpret tag = .ok (.endpoint method template)) :
    isEndpointTag tag = !Tag.isApart tag := by
  cases apart : Tag.isApart tag with
  | true =>
    refine Bool.eq_false_iff.mpr fun recognised => ?_
    rw [isApart_of_isEndpointTag recognised] at apart
    cases apart
  | false =>
    obtain ⟨rest, starts⟩ := starts_of_mem_tags member
    obtain ⟨inner, blanks, trimmed, rfl, blank⟩ := Text.exists_trim_append starts (by decide)
    obtain ⟨spacing, more, lexed, closed⟩ := Directive.tokens_of_endpoint endpoint
    have solid : ∀ c ∈ inner.head?, Lexer.IsSolid c := by
      intro c first
      obtain ⟨others, rfl⟩ := List.head?_eq_some_iff.mp first
      simpa [Tag.isApart, starts, Lexer.IsSolid] using apart
    unfold Lexer.tokens? at lexed
    rw [trimmed] at lexed
    obtain ⟨after, rfl, ends⟩ := Lexer.word_of_tokensFrom solid closed lexed
    rw [List.append_assoc] at starts
    exact isEndpointTag_of_starts starts (Text.head?_append_blanks blank ends)

end Documentation

theorem Interface.isTagged_of_tags {interface : Interface} {tag : String}
    (single : interface.documentation.tags = [tag]) :
    interface.isTagged = Documentation.isEndpointTag tag := by
  simp [isTagged, Documentation.hasEndpointTag, single]

namespace SourceFile

theorem mem_scan_iff {file : SourceFile} {declaration : TraitDeclaration}
    (member : .trait declaration ∈ file.items) :
    Interface.ofTrait declaration ∈ file.scan ↔ (Interface.ofTrait declaration).isTagged = true := by
  have present : Interface.ofTrait declaration ∈ file.interfaces :=
    List.mem_map_of_mem (List.mem_filterMap.mpr ⟨_, member, rfl⟩)
  simp [scan, present]

theorem scan_of_single (attributes : List Attribute) (declaration : TraitDeclaration) :
    (SourceFile.mk attributes [.trait declaration]).scan =
      if (Interface.ofTrait declaration).isTagged then [Interface.ofTrait declaration] else [] := by
  simp [scan, interfaces, Item.trait?, List.filter_cons]

end SourceFile

namespace Builder

theorem fileOfSource_of_read {source : String} {found : SourceFile} (read : SourceFile.read source = .ok found)
    (runtime : Path) :
    fileOfSource source runtime = (ofInterfaces runtime found.scan).bind fun tokens =>
      if found.scan.isEmpty then .ok none else (file tokens).map some := by
  unfold fileOfSource
  rw [read]
  refine congrArg (Except.bind (ofInterfaces runtime found.scan)) (funext fun tokens => ?_)
  split
  · rfl
  · cases file tokens <;> rfl

/-- The search takes a trait that a builder can be generated for exactly when nothing parts its tag from
the `@`. A file that holds the trait alone then gets the builder's items, and otherwise nothing. -/
theorem found_iff_not_isApart (documentation : Documentation) (declaration : TraitDeclaration)
    (runtime : Path) :
    (∀ tag ∈ documentation.tags, ∀ (method : HttpMethod) (template : String),
      Directive.interpret tag = .ok (.endpoint method template) →
        Documentation.isEndpointTag tag = !Tag.isApart tag) ∧
    ∀ generated, ofTrait declaration runtime = .ok generated →
      ∃ tag, (Interface.ofTrait declaration).documentation.tags = [tag] ∧
        (∀ found : SourceFile, .trait declaration ∈ found.items →
          (Interface.ofTrait declaration ∈ found.scan ↔ Tag.isApart tag = false)) ∧
        ∀ source attributes, SourceFile.read source = .ok ⟨attributes, [.trait declaration]⟩ →
          fileOfSource source runtime =
            if Tag.isApart tag then .ok none else (file generated).map some := by
  refine ⟨fun _ member _ _ asks => Documentation.isEndpointTag_eq_not_isApart member asks, ?_⟩
  intro generated expanded
  obtain ⟨endpoint, built, _⟩ := bind_eq_ok_iff.mp expanded
  obtain ⟨_, ⟨tag, single, asks⟩, _⟩ := Endpoint.ofInterface_eq_ok_iff.mp (mapError_eq_ok_iff.mp built)
  have tagged : (Interface.ofTrait declaration).isTagged = !Tag.isApart tag := by
    rw [Interface.isTagged_of_tags single]
    exact Documentation.isEndpointTag_eq_not_isApart (single ▸ List.mem_cons_self) asks
  refine ⟨tag, single, fun found member => ?_, fun source attributes read => ?_⟩
  · rw [SourceFile.mem_scan_iff member, tagged, Bool.not_eq_true']
  · have scanned := SourceFile.scan_of_single attributes declaration
    rw [tagged] at scanned
    cases apart : Tag.isApart tag with
    | true =>
      rw [apart] at scanned
      rw [fileOfSource_of_read read, scanned]
      rfl
    | false =>
      rw [apart] at scanned
      rw [fileOfSource_of_read read, scanned]
      have alone : ofInterfaces runtime [Interface.ofTrait declaration] = .ok generated := by
        have first : ofInterface (Interface.ofTrait declaration) runtime = .ok generated := expanded
        simp [ofInterfaces, first]
      simp only [Bool.not_false, if_true, alone]
      rfl

/-- A source that is read as one trait, for which a builder is generated. -/
structure Expands (source : String) (attributes : List Attribute) (declaration : TraitDeclaration)
    (generated : Tokens) : Prop where
  read : SourceFile.read source = .ok ⟨attributes, [.trait declaration]⟩
  expanded : ofTrait declaration defaultRuntime = .ok generated

theorem exists_expands (source : String) (tagged : Bool)
    (evaluated : ((SourceFile.read source).toOption.any fun found =>
      match found.items with
      | [.trait declaration] => (ofTrait declaration defaultRuntime).toOption.isSome
          && (Interface.ofTrait declaration).isTagged == tagged
      | _ => false) = true) :
    ∃ attributes declaration generated, Expands source attributes declaration generated ∧
      (Interface.ofTrait declaration).isTagged = tagged := by
  cases read : SourceFile.read source with
  | error error => simp [read, Except.toOption] at evaluated
  | ok found =>
    obtain ⟨attributes, items⟩ := found
    simp only [read, Except.toOption, Option.any_some] at evaluated
    split at evaluated
    next items declaration =>
      cases expanded : ofTrait declaration defaultRuntime with
      | error error => simp [expanded] at evaluated
      | ok generated =>
        refine ⟨attributes, declaration, generated, ⟨read, expanded⟩, ?_⟩
        simpa [expanded] using evaluated
    next => cases evaluated

/-- A source with one interface, whose tag is written as given up to its path. -/
def pingSource (tag : String) : String :=
  "/// " ++ tag ++ "(\"/\")\ntrait P\x7b/// @SYNC(\"T\")\nfn r(self)->Result<T,E>;\x7d"

theorem ping_found :
    ∃ declaration generated, ofTrait declaration defaultRuntime = .ok generated ∧
      fileOfSource (pingSource "@GET") defaultRuntime = (file generated).map some := by
  obtain ⟨attributes, declaration, generated, ping, tagged⟩ :=
    exists_expands (pingSource "@GET") true (by decide +kernel)
  obtain ⟨tag, _, scans, files⟩ :=
    (found_iff_not_isApart ⟨[]⟩ declaration defaultRuntime).2 generated ping.expanded
  have together : Tag.isApart tag = false :=
    (scans ⟨attributes, [.trait declaration]⟩ List.mem_cons_self).mp
      ((SourceFile.mem_scan_iff List.mem_cons_self).mpr tagged)
  refine ⟨declaration, generated, ping.expanded, ?_⟩
  rw [files _ attributes ping.read, together]
  rfl

/-- A blank after the `@` of a tag hides a trait from the search, but not from the reading of the tag. -/
theorem spaced_ping_skipped :
    (∃ attributes declaration generated, Expands (pingSource "@ GET") attributes declaration generated) ∧
      fileOfSource (pingSource "@ GET") defaultRuntime = .ok none ∧
      Directive.interpret "@ GET(\"/\")" = .ok (.endpoint .get "/") ∧
      Documentation.hasEndpointTag ⟨["@ GET(\"/\")"]⟩ = false := by
  obtain ⟨attributes, declaration, generated, ping, untagged⟩ :=
    exists_expands (pingSource "@ GET") false (by decide +kernel)
  refine ⟨⟨attributes, declaration, generated, ping⟩, ?_,
    Directive.interpret_of_read ⟨"GET", some "/"⟩ (by decide +kernel), by decide +kernel⟩
  have scanned := SourceFile.scan_of_single attributes declaration
  rw [untagged] at scanned
  rw [fileOfSource_of_read ping.read, scanned]
  rfl

end Builder

end Endpoints
