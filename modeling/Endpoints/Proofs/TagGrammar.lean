import Endpoints.Directive.Reader
import Endpoints.Proofs.Checks
import Endpoints.Proofs.LexerSteps

/-! The grammar of tags. A tag is an `@`, a name and at most one text literal in parentheses; which directive it
stands for is decided by the name and by the text that the literal means. -/

namespace Endpoints
open Checks

/-- The tokens of a tag: a name alone, or a name with one text literal as its argument. -/
inductive Tag.Written : Tokens → Tag → Prop where
  | bare (spacing : Spacing) (name : String) : Written [.punct '@' spacing, .ident name] ⟨name, none⟩
  | argument (spacing : Spacing) (name : String) {literal : String} {value : List Char}
      (means : Text.Quoted.Means literal.toList value) :
      Written [.punct '@' spacing, .ident name, .group .parenthesis [.literal literal]]
        ⟨name, some (String.ofList value)⟩

/-- The directive that a tag asks for. -/
inductive Directive.AskedBy (tag : Tag) : Directive → Prop where
  | endpoint {method template} (named : tag.name = method.name) (argument : tag.argument = some template) :
      AskedBy tag (.endpoint method template)
  | keyed {kind key} (keyed : kind ≠ .body) (named : "@" ++ tag.name = kind.tag)
      (argument : tag.argument = some key) (shown : Text.isBlankText key = false) : AskedBy tag (.binding kind key)
  | body (named : tag.name = "BODY") (bare : tag.argument = none) : AskedBy tag (.binding .body "")
  | sync {argument result} (named : tag.name = "SYNC") (given : tag.argument = some argument)
      (shown : Text.isBlankText argument = false) (typed : readType argument = .ok result) :
      AskedBy tag (.sync result)
  | async {argument callback} (named : tag.name = "ASYNC") (given : tag.argument = some argument)
      (shown : Text.isBlankText argument = false) (single : Lexer.tokens? argument = some [.ident callback])
      (free : callback ∉ Tokens.keywords) : AskedBy tag (.async callback)

theorem Reader.bind_eq_ok_iff {α β : Type} {reader : Reader α} {next : α → Reader β} {tokens : Tokens}
    {result : β × Tokens} :
    (reader >>= next) tokens = .ok result ↔
      ∃ value rest, reader tokens = .ok (value, rest) ∧ next value rest = .ok result := by
  simp only [bind]
  cases reader tokens with
  | ok found => obtain ⟨value, rest⟩ := found; simp
  | error error => simp

theorem exists_tokens_of_readText {α : Type} {rule : Grammar → Reader α} {lex : String → Option Tokens}
    {text : String} {value : α} (read : readText rule lex text = .ok value) :
    ∃ tokens, lex text = some tokens ∧ ∃ grammar, rule grammar tokens = .ok (value, []) := by
  unfold readText at read
  split at read
  next tokens lexed =>
    unfold Tokens.readAll Reader.run at read
    split at read
    next found =>
      cases read
      exact ⟨tokens, lexed, _, found⟩
    next => cases read
    next => cases read
  next => cases read

theorem Reader.operator_at {tokens rest : Tokens} {found : Unit}
    (read : Reader.operator "@" tokens = .ok (found, rest)) :
    ∃ spacing, tokens = .punct '@' spacing :: rest := by
  have spelled : "@".toList = ['@'] := by decide
  obtain ⟨found, left, taken, kept⟩ := Reader.bind_eq_ok_iff.mp read
  cases tokens with
  | nil =>
    cases taken
    cases kept
  | cons token others =>
    cases token with
    | punct symbol spacing =>
      by_cases same : symbol = '@'
      · subst same
        simp [Reader.operator?, Tokens.startsOperator, spelled, Tokens.startsOperatorOf] at taken
        obtain ⟨rfl, rfl⟩ := taken
        cases kept
        exact ⟨spacing, rfl⟩
      · simp [Reader.operator?, Tokens.startsOperator, spelled, Tokens.startsOperatorOf, same] at taken
        obtain ⟨rfl, rfl⟩ := taken
        cases kept
    | ident _ | literal _ | group _ _ =>
      simp [Reader.operator?, Tokens.startsOperator, spelled, Tokens.startsOperatorOf] at taken
      obtain ⟨rfl, rfl⟩ := taken
      cases kept

theorem readText_eq_ok_iff {α : Type} {rule : Reader α} {text : String} {value : α} :
    readText (fun _ => rule) Lexer.tokens? text = .ok value ↔
      ∃ tokens, Lexer.tokens? text = some tokens ∧ rule tokens = .ok (value, []) := by
  unfold readText
  cases Lexer.tokens? text with
  | none => simp
  | some tokens =>
    simp only [Tokens.readAll, Reader.run, Option.some.injEq, exists_eq_left']
    split <;> simp_all

theorem Reader.textLiteral_eq_ok_iff {tokens rest : Tokens} {literal : String} :
    Reader.textLiteral tokens = .ok (literal, rest) ↔
      tokens = .literal literal :: rest ∧ Tokens.isTextLiteral literal = true := by
  unfold Reader.textLiteral
  split
  next literal' rest' =>
    split
    next isText =>
      simp only [Except.ok.injEq, Prod.mk.injEq, List.cons.injEq, Token.literal.injEq]
      exact ⟨fun ⟨same, others⟩ => ⟨⟨same, others⟩, same ▸ isText⟩, fun ⟨same, _⟩ => same⟩
    next other =>
      refine ⟨nofun, ?_⟩
      rintro ⟨⟨⟩, isText⟩
      exact absurd isText other
  next other =>
    refine ⟨nofun, ?_⟩
    rintro ⟨rfl, _⟩
    exact absurd rfl (other _ _)

theorem Reader.group_eq_ok_iff {α : Type} {delimiter : Delimiter} {reader : Reader α} {tokens rest : Tokens}
    {value : α} :
    Reader.group delimiter reader tokens = .ok (value, rest) ↔
      ∃ content, tokens = .group delimiter content :: rest ∧ reader content = .ok (value, []) := by
  unfold Reader.group
  split
  next other content others =>
    by_cases same : other = delimiter
    · subst same
      cases read : reader content with
      | ok found =>
        obtain ⟨value', left⟩ := found
        cases left <;> simp [and_comm, read]
      | error error => simp [read]
    · simp [same]
  next other =>
    refine ⟨nofun, ?_⟩
    rintro ⟨content, rfl, _⟩
    exact absurd rfl (other _ _ _)

theorem Text.Quoted.Means.isTextLiteral {literal : String} {value : List Char}
    (means : Means literal.toList value) : Tokens.isTextLiteral literal = true := by
  unfold Tokens.isTextLiteral
  generalize literal.toList = characters at means
  cases means <;> rfl

theorem HttpMethod.name_of_ofName? {name : String} {method : HttpMethod}
    (found : ofName? name = some method) : name = method.name := by
  unfold ofName? at found
  split_ifs at found <;> cases found <;> assumption

namespace Tag

theorem argumentReader_eq_ok_iff {content : Tokens} {argument : String} (each : content.Each Lexer.IsMeaningful) :
    argumentReader content = .ok (argument, []) ↔ ∃ literal value, content = [.literal literal] ∧
      Text.Quoted.Means literal.toList value ∧ argument = String.ofList value := by
  unfold argumentReader
  simp only [Reader.bind_eq_ok_iff, Reader.textLiteral_eq_ok_iff]
  constructor
  · rintro ⟨literal, rest, ⟨rfl, isText⟩, last, _, ⟨⟩, read⟩
    cases rest with
    | nil =>
      obtain ⟨value, means⟩ := each.of_mem List.mem_cons_self nofun literal rfl isText
      cases read
      exact ⟨literal, value, rfl, means, by rw [Text.Quoted.decode_of_means means]; rfl⟩
    | cons _ _ => cases read
  · rintro ⟨literal, value, rfl, means, rfl⟩
    refine ⟨literal, [], ⟨rfl, means.isTextLiteral⟩, true, [], rfl, ?_⟩
    simp [Text.Quoted.decode_of_means means, pure]

theorem reader_of_written {tokens : Tokens} {tag : Tag} (written : Written tokens tag) :
    reader tokens = .ok (tag, []) := by
  cases written with
  | bare spacing name => rfl
  | @argument spacing name literal value means =>
    have each : Tokens.Each Lexer.IsMeaningful [.literal literal] := by
      refine .leaf nofun ?_ .nil
      rintro _ ⟨⟩ _
      exact ⟨value, means⟩
    have inside := (argumentReader_eq_ok_iff each).mpr ⟨literal, value, rfl, means, rfl⟩
    have group : Reader.group .parenthesis argumentReader [.group .parenthesis [.literal literal]] =
        .ok (String.ofList value, []) := by
      simp [Reader.group, inside]
    refine Reader.bind_eq_ok_iff.mpr ⟨(), _, rfl, ?_⟩
    refine Reader.bind_eq_ok_iff.mpr ⟨name, _, rfl, ?_⟩
    refine Reader.bind_eq_ok_iff.mpr ⟨true, _, rfl, ?_⟩
    exact Reader.bind_eq_ok_iff.mpr ⟨_, [], group, rfl⟩

theorem written_of_reader {tokens : Tokens} {tag : Tag} (each : tokens.Each Lexer.IsMeaningful)
    (read : reader tokens = .ok (tag, [])) : Written tokens tag := by
  obtain ⟨_, afterMark, mark, named⟩ := Reader.bind_eq_ok_iff.mp read
  obtain ⟨spacing, rfl⟩ := Reader.operator_at mark
  obtain ⟨name, more, word, grouped⟩ := Reader.bind_eq_ok_iff.mp named
  obtain rfl : afterMark = .ident name :: more := by
    unfold Reader.anyWord at word
    split at word <;> cases word
    rfl
  obtain ⟨isGroup, _, looked, tail⟩ := Reader.bind_eq_ok_iff.mp grouped
  cases looked
  split at tail
  next opens =>
    obtain ⟨argument, left, held, last⟩ := Reader.bind_eq_ok_iff.mp tail
    obtain ⟨content, rfl, inside⟩ := Reader.group_eq_ok_iff.mp held
    cases left with
    | nil =>
      cases last
      have meaningful := each.content_of_mem (List.mem_cons_of_mem _ (List.mem_cons_of_mem _ List.mem_cons_self))
      obtain ⟨literal, value, rfl, means, rfl⟩ := (argumentReader_eq_ok_iff meaningful).mp inside
      exact .argument spacing name means
    | cons _ _ => cases last
  next =>
    cases more with
    | nil =>
      cases tail
      exact .bare spacing name
    | cons _ _ => cases tail

theorem read_eq_ok_iff {text : String} {tag : Tag} :
    read text = .ok tag ↔ ∃ tokens, Lexer.tokens? (Text.trim text) = some tokens ∧ Written tokens tag := by
  have whole : read text = .ok tag ↔ readText (fun _ => reader) Lexer.tokens? (Text.trim text) = .ok tag := by
    unfold read
    cases readText (fun _ => reader) Lexer.tokens? (Text.trim text) <;> simp
  rw [whole, readText_eq_ok_iff]
  refine exists_congr fun tokens => and_congr_right fun lexed => ⟨?_, reader_of_written⟩
  exact written_of_reader (Lexer.meaningful_of_tokens? lexed)

end Tag

theorem Reader.name_eq_ok_iff {tokens rest : Tokens} {name : String} :
    Reader.name tokens = .ok (name, rest) ↔ tokens = .ident name :: rest ∧ name ∉ Tokens.keywords := by
  constructor
  · intro read
    unfold Reader.name at read
    split at read
    next found others =>
      split at read
      next => cases read
      next free =>
        cases read
        exact ⟨rfl, by simpa using free⟩
    next => cases read
  · rintro ⟨rfl, free⟩
    simp [Reader.name, free]

theorem readName_eq_ok_iff {text name : String} :
    readName text = .ok name ↔ Lexer.tokens? text = some [.ident name] ∧ name ∉ Tokens.keywords := by
  unfold readName
  rw [readText_eq_ok_iff]
  simp only [Reader.name_eq_ok_iff]
  constructor
  · rintro ⟨_, lexed, rfl, free⟩
    exact ⟨lexed, free⟩
  · rintro ⟨lexed, free⟩
    exact ⟨_, lexed, rfl, free⟩

namespace Tag

theorem required_eq_ok_iff {tag : Tag} {argument : String} :
    tag.required = .ok argument ↔ tag.argument = some argument := by
  unfold required
  cases tag.argument <;> simp

theorem key_eq_ok_iff {tag : Tag} {argument : String} :
    tag.key = .ok argument ↔ tag.argument = some argument ∧ Text.isBlankText argument = false := by
  unfold key
  rw [bind_eq_ok_iff]
  simp only [required_eq_ok_iff]
  constructor
  · rintro ⟨given, same, read⟩
    split at read
    next => cases read
    next shown =>
      cases read
      exact ⟨same, by simpa using shown⟩
  · rintro ⟨same, shown⟩
    exact ⟨argument, same, by simp [shown]⟩

theorem keyedKind?_eq_some_iff {name : String} {kind : BindingKind} :
    keyedKind? name = some kind ↔ kind ≠ .body ∧ "@" ++ name = kind.tag := by
  constructor
  · intro found
    unfold keyedKind? at found
    split_ifs at found <;> subst name <;> cases found <;> exact ⟨nofun, by decide⟩
  · rintro ⟨keyed, named⟩
    have spelled {known : String} (same : "@" ++ name = "@" ++ known) : name = known :=
      (String.append_right_inj "@").mp same
    cases kind with
    | path => rw [@spelled "PATH" named]; rfl
    | query => rw [@spelled "QUERY" named]; rfl
    | header => rw [@spelled "HEADER" named]; rfl
    | form => rw [@spelled "FORM" named]; rfl
    | body => exact absurd rfl keyed
    | multipart => rw [@spelled "MULTIPART" named]; rfl

end Tag

namespace Directive

theorem askedBy_of_ofTag {tag : Tag} {directive : Directive} (found : ofTag tag = .ok directive) :
    directive.AskedBy tag := by
  unfold ofTag at found
  split at found
  next method named =>
    obtain ⟨template, given, same⟩ := bind_eq_ok_iff.mp found
    cases same
    exact .endpoint (HttpMethod.name_of_ofName? named) (Tag.required_eq_ok_iff.mp given)
  next =>
    split at found
    next kind named =>
      obtain ⟨key, given, same⟩ := bind_eq_ok_iff.mp found
      cases same
      obtain ⟨keyed, named⟩ := Tag.keyedKind?_eq_some_iff.mp named
      obtain ⟨argument, shown⟩ := Tag.key_eq_ok_iff.mp given
      exact .keyed keyed named argument shown
    next =>
      split at found
      next named =>
        split at found
        next => cases found
        next bare =>
          cases found
          exact .body named (by simpa using bare)
      next =>
        split at found
        next named =>
          obtain ⟨argument, given, read⟩ := bind_eq_ok_iff.mp found
          obtain ⟨argument, shown⟩ := Tag.key_eq_ok_iff.mp given
          split at read <;> cases read
          next typed => exact .sync named argument shown typed
        next =>
          split at found
          next named =>
            obtain ⟨argument, given, read⟩ := bind_eq_ok_iff.mp found
            obtain ⟨argument, shown⟩ := Tag.key_eq_ok_iff.mp given
            split at read <;> cases read
            next spelled =>
              obtain ⟨single, free⟩ := readName_eq_ok_iff.mp spelled
              exact .async named argument shown single free
          next => cases found

theorem ofName?_eq_none {name : String} {kind : BindingKind} (named : "@" ++ name = kind.tag) :
    HttpMethod.ofName? name = none := by
  cases found : HttpMethod.ofName? name with
  | none => rfl
  | some method =>
    obtain rfl := HttpMethod.name_of_ofName? found
    revert named
    cases method <;> cases kind <;> decide

theorem ofTag_of_askedBy {tag : Tag} {directive : Directive} (asked : directive.AskedBy tag) :
    ofTag tag = .ok directive := by
  unfold ofTag
  cases asked with
  | @endpoint method template named given =>
    rw [named, HttpMethod.ofName?_name]
    exact bind_eq_ok_iff.mpr ⟨template, Tag.required_eq_ok_iff.mpr given, rfl⟩
  | @keyed kind key keyed named given shown =>
    rw [ofName?_eq_none named, Tag.keyedKind?_eq_some_iff.mpr ⟨keyed, named⟩]
    exact bind_eq_ok_iff.mpr ⟨key, Tag.key_eq_ok_iff.mpr ⟨given, shown⟩, rfl⟩
  | body named bare =>
    rw [named, bare]
    rfl
  | @sync argument result named given shown typed =>
    rw [named]
    refine bind_eq_ok_iff.mpr ⟨argument, Tag.key_eq_ok_iff.mpr ⟨given, shown⟩, ?_⟩
    rw [typed]
    rfl
  | @async argument callback named given shown single free =>
    rw [named]
    refine bind_eq_ok_iff.mpr ⟨argument, Tag.key_eq_ok_iff.mpr ⟨given, shown⟩, ?_⟩
    rw [readName_eq_ok_iff.mpr ⟨single, free⟩]
    rfl

theorem ofTag_eq_ok_iff {tag : Tag} {directive : Directive} :
    ofTag tag = .ok directive ↔ directive.AskedBy tag :=
  ⟨askedBy_of_ofTag, ofTag_of_askedBy⟩

theorem interpret_eq_ok_iff {text : String} {directive : Directive} :
    interpret text = .ok directive ↔ ∃ tokens tag, Lexer.tokens? (Text.trim text) = some tokens ∧
      tag.Written tokens ∧ directive.AskedBy tag := by
  unfold interpret
  rw [bind_eq_ok_iff]
  simp only [Tag.read_eq_ok_iff, ofTag_eq_ok_iff]
  constructor
  · rintro ⟨tag, ⟨tokens, lexed, written⟩, asked⟩
    exact ⟨tokens, tag, lexed, written, asked⟩
  · rintro ⟨tokens, tag, lexed, written, asked⟩
    exact ⟨tag, ⟨tokens, lexed, written⟩, asked⟩

end Directive

theorem Text.trim_between {before inner after : List Char} {first last : Char}
    (blank : (before ++ after).all isBlank = true) (starts : isBlank first = false) (ends : isBlank last = false) :
    trim (String.ofList (before ++ first :: (inner ++ last :: after))) =
      String.ofList (first :: (inner ++ [last])) := by
  obtain ⟨leading, trailing⟩ := List.forall_mem_append.mp (List.all_eq_true.mp blank)
  have front : trimStart (before ++ first :: (inner ++ last :: after)) = first :: (inner ++ last :: after) := by
    rw [trimStart, List.dropWhile_append_of_pos leading, List.dropWhile_cons_of_neg (by simp [starts])]
  have back : trimEnd (first :: (inner ++ last :: after)) = first :: (inner ++ [last]) := by
    have split : (first :: (inner ++ last :: after)).reverse =
        after.reverse ++ last :: (first :: inner).reverse := by simp
    have blank : ∀ c ∈ after.reverse, isBlank c = true := fun c member => trailing c (List.mem_reverse.mp member)
    rw [trimEnd, split, List.dropWhile_append_of_pos blank, List.dropWhile_cons_of_neg (by simp [ends])]
    simp
  rw [trim, String.toList_ofList, front, back]

/-- A text that is written as a tag with a quoted argument. Blanks may stand around it, and gaps within. -/
inductive Tag.Quotes (name argument : String) : String → Prop where
  | intro {before first second third fourth after : List Char} (blank : (before ++ after).all Text.isBlank = true)
      (gaps : ∀ gap ∈ [first, second, third, fourth], Lexer.Gap gap) :
      Quotes name argument (String.ofList (before ++ '@' :: (first ++ name.toList ++ second ++
        '(' :: (third ++ (Text.Quoted.encode argument).toList ++ fourth) ++ ')' :: after)))

namespace Tag

theorem quotes_plain (name argument : String) :
    Quotes name argument ("@" ++ name ++ "(" ++ Text.Quoted.encode argument ++ ")") := by
  have written : "@" ++ name ++ "(" ++ Text.Quoted.encode argument ++ ")" =
      String.ofList ([] ++ '@' :: ([] ++ name.toList ++ [] ++
        '(' :: ([] ++ (Text.Quoted.encode argument).toList ++ []) ++ ')' :: [])) := by
    apply String.toList_inj.mp
    simp
  rw [written]
  exact .intro (by simp) (by simp [Lexer.Gap.nil])

theorem cut_of_gaps (argument : String) {name : String} {first second third fourth : List Char}
    (plain : Lexer.isPlainWord name = true) (gaps : ∀ gap ∈ [first, second, third, fourth], Lexer.Gap gap) :
    ∃ spacing, Lexer.Cut [] [] ('@' :: (first ++ name.toList ++ second ++
        '(' :: (third ++ (Text.Quoted.encode argument).toList ++ fourth) ++ [')']))
      [.punct '@' spacing, .ident name, .group .parenthesis [.literal (Text.Quoted.encode argument)]] := by
  simp only [List.forall_mem_cons] at gaps
  obtain ⟨beforeName, afterName, beforeArgument, afterArgument, _⟩ := gaps
  obtain ⟨spacing, cut⟩ := Lexer.Cut.mark .nil
  refine ⟨spacing, cut _ ?_⟩
  simp only [List.append_assoc, List.cons_append]
  have parenthesis : Lexer.IsSolid '(' ∧ Lexer.IsSolid ')' := ⟨⟨by decide, by decide⟩, ⟨by decide, by decide⟩⟩
  refine .word beforeName plain (Lexer.head_of_gap afterName _ (by decide +kernel) (by decide) (by decide)) ?_
  refine .opens afterName parenthesis.1 rfl ?_
  refine .quoted beforeArgument (Lexer.head_of_gap afterArgument _ (by decide +kernel) (by decide) (by decide)) ?_
  exact .closes afterArgument parenthesis.2 ⟨rfl, rfl⟩ (.done .nil)

theorem written_of_quotes {name argument text : String} (plain : Lexer.isPlainWord name = true)
    (quotes : Quotes name argument text) :
    ∃ tokens, Lexer.tokens? (Text.trim text) = some tokens ∧ Written tokens ⟨name, some argument⟩ := by
  obtain ⟨blank, gaps⟩ := quotes
  obtain ⟨spacing, cut⟩ := cut_of_gaps argument plain gaps
  rw [Text.trim_between blank (by decide) (by decide)]
  refine ⟨_, Lexer.tokens?_of_cut (by simp) cut, ?_⟩
  have written := Written.argument spacing name (Text.Quoted.means_encode argument)
  rwa [String.ofList_toList] at written

end Tag

namespace Directive

/-- The texts that ask for a directive are those that the grammar of tags writes it as. Every template and every
key that shows is written so, as a quoted argument. -/
theorem interpret_grammar :
    (∀ text directive, interpret text = .ok directive ↔
      ∃ tokens tag, Lexer.tokens? (Text.trim text) = some tokens ∧ tag.Written tokens ∧ directive.AskedBy tag) ∧
    (∀ (method : HttpMethod) template text, Tag.Quotes method.name template text →
      interpret text = .ok (.endpoint method template)) ∧
    (∀ kind name key text, kind ≠ .body → "@" ++ name = kind.tag → Text.isBlankText key = false →
      Tag.Quotes name key text → interpret text = .ok (.binding kind key)) ∧
    ∀ name argument, Tag.Quotes name argument ("@" ++ name ++ "(" ++ Text.Quoted.encode argument ++ ")") := by
  refine ⟨fun _ _ => interpret_eq_ok_iff, ?_, ?_, Tag.quotes_plain⟩
  · intro method template text quotes
    have plain : Lexer.isPlainWord method.name = true := by cases method <;> decide
    obtain ⟨tokens, lexed, written⟩ := Tag.written_of_quotes plain quotes
    exact interpret_eq_ok_iff.mpr ⟨tokens, _, lexed, written, .endpoint rfl rfl⟩
  · intro kind name key text keyed named shown quotes
    have plain : Lexer.isPlainWord name = true := by
      have found := Tag.keyedKind?_eq_some_iff.mpr ⟨keyed, named⟩
      unfold Tag.keyedKind? at found
      split_ifs at found <;> subst name
      all_goals decide
    obtain ⟨tokens, lexed, written⟩ := Tag.written_of_quotes plain quotes
    exact interpret_eq_ok_iff.mpr ⟨tokens, _, lexed, written, .keyed keyed named rfl shown⟩

/-- A key with a quotation mark in it is written with an escape. A comment may stand before the group. -/
theorem interpret_written_tags :
    interpret "@QUERY(\"a\\\"b\")" = .ok (.binding .query "a\"b") ∧
      interpret " @GET /* */(\"/photos\")" = .ok (.endpoint .get "/photos") := by
  constructor
  · have quotes := interpret_grammar.2.2.2 "QUERY" "a\"b"
    have written : "@" ++ "QUERY" ++ "(" ++ Text.Quoted.encode "a\"b" ++ ")" = "@QUERY(\"a\\\"b\")" := by
      decide +kernel
    rw [written] at quotes
    exact interpret_grammar.2.2.1 .query "QUERY" _ _ (by decide) (by decide) (by decide) quotes
  · have ordinary : Lexer.IsOrdinary '*' [' ', '*', '/'] := ⟨by decide, by decide⟩
    have comment : Lexer.Gap [' ', '/', '*', ' ', '*', '/'] :=
      .separator (by decide) (.block (.other (by decide) .last) ordinary .nil)
    have quotes := @Tag.Quotes.intro "GET" "/photos" [' '] [] [' ', '/', '*', ' ', '*', '/'] [] [] [] (by decide)
      (by simp [comment, Lexer.Gap.nil])
    exact interpret_grammar.2.1 .get "/photos" _ quotes

end Directive

end Endpoints
