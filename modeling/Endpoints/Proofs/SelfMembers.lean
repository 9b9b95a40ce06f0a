import Endpoints.Builder.Spelling
import Endpoints.Token.Reader

/-! What tokens say of the value that a method is called on: the members that they name after `self`.
Generated code is put together from parts, and apart from a few that end or start in the middle of such a
name, the members of the whole are those of the parts. -/

namespace Endpoints

/-- A member of the value that a method is called on, and whether it is called. -/
structure SelfMember where
  name : String
  called : Bool
  deriving DecidableEq, Repr

namespace Tokens

/-- The member named by tokens that stand right after a dot. -/
def memberAfterDot? : Tokens → Option SelfMember
  | .ident name :: rest => some ⟨name, startsGroup .parenthesis rest⟩
  | _ => none

/-- The member named by tokens that stand right after `self`. -/
def namedMember? : Tokens → Option SelfMember
  | .punct symbol _ :: rest => if symbol = '.' then memberAfterDot? rest else none
  | _ => none

end Tokens

mutual

/-- The members that a token names, alone or with the tokens after it. -/
def Token.selfMembers : Token → Tokens → List SelfMember
  | .ident name, rest => if name = "self" then (Tokens.namedMember? rest).toList else []
  | .group _ content, _ => selfMembers content
  | _, _ => []

/-- The members that tokens name after `self`, also inside groups. -/
def selfMembers : List Token → List SelfMember
  | [] => []
  | token :: rest => token.selfMembers rest ++ selfMembers rest

end

namespace Tokens

@[simp] theorem selfMembers_nil : selfMembers [] = [] := rfl

@[simp] theorem selfMembers_punct (symbol : Char) (spacing : Spacing) (rest : Tokens) :
    selfMembers (.punct symbol spacing :: rest) = selfMembers rest := by
  simp [selfMembers, Token.selfMembers]

@[simp] theorem selfMembers_literal (text : String) (rest : Tokens) :
    selfMembers (.literal text :: rest) = selfMembers rest := by
  simp [selfMembers, Token.selfMembers]

@[simp] theorem selfMembers_group (delimiter : Delimiter) (content rest : Tokens) :
    selfMembers (.group delimiter content :: rest) = selfMembers content ++ selfMembers rest := by
  simp [selfMembers, Token.selfMembers]

theorem selfMembers_ident (name : String) (rest : Tokens) :
    selfMembers (.ident name :: rest) =
      (if name = "self" then (Tokens.namedMember? rest).toList else []) ++ selfMembers rest := by
  simp [selfMembers, Token.selfMembers]

theorem selfMembers_ident_of_ne {name : String} (other : name ≠ "self") (rest : Tokens) :
    selfMembers (.ident name :: rest) = selfMembers rest := by
  simp [selfMembers_ident, other]

/-- Whether tokens start with one that is no part of what stands before them. A dot, a name or arguments
may go on with a member. -/
def startsApart : Tokens → Bool
  | .punct symbol _ :: _ => symbol != '.'
  | .ident _ :: _ => false
  | .group delimiter _ :: _ => delimiter != .parenthesis
  | .literal _ :: _ | [] => true

section
variable {rest : Tokens} (apart : rest.startsApart = true)
include apart

theorem startsGroup_append (tokens : Tokens) :
    startsGroup .parenthesis (tokens ++ rest) = startsGroup .parenthesis tokens := by
  cases tokens with
  | cons token tokens => cases token <;> rfl
  | nil =>
    cases rest with
    | nil => rfl
    | cons token rest => cases token <;> simp_all [startsApart, startsGroup]

theorem memberAfterDot?_append (tokens : Tokens) :
    memberAfterDot? (tokens ++ rest) = memberAfterDot? tokens := by
  cases tokens with
  | cons token tokens => cases token <;> simp [memberAfterDot?, startsGroup_append apart]
  | nil =>
    cases rest with
    | nil => rfl
    | cons token rest => cases token <;> simp_all [startsApart, memberAfterDot?]

theorem namedMember?_append (tokens : Tokens) :
    namedMember? (tokens ++ rest) = namedMember? tokens := by
  cases tokens with
  | cons token tokens => cases token <;> simp [namedMember?, memberAfterDot?_append apart]
  | nil =>
    cases rest with
    | nil => rfl
    | cons token rest => cases token <;> simp_all [startsApart, namedMember?]

end

@[simp] theorem selfMembers_append {tokens rest : Tokens} (apart : rest.startsApart = true) :
    selfMembers (tokens ++ rest) = selfMembers tokens ++ selfMembers rest := by
  induction tokens with
  | nil => rfl
  | cons token tokens ih =>
    have same : token.selfMembers (tokens ++ rest) = token.selfMembers tokens := by
      cases token <;> simp [Token.selfMembers, namedMember?_append apart]
    rw [List.cons_append, selfMembers, selfMembers, same, ih, List.append_assoc]

/-- Tokens of which no member goes on past their end. -/
def Closed (tokens : Tokens) : Prop :=
  ∀ rest, selfMembers (tokens ++ rest) = selfMembers tokens ++ selfMembers rest

@[simp] theorem selfMembers_append_of_closed {tokens : Tokens} (closed : Closed tokens) (rest : Tokens) :
    selfMembers (tokens ++ rest) = selfMembers tokens ++ selfMembers rest :=
  closed rest

@[simp] theorem closed_nil : Closed [] := fun _ => rfl

@[simp] theorem Closed.append {first second : Tokens} (left : Closed first) (right : Closed second) :
    Closed (first ++ second) := by
  intro rest
  rw [List.append_assoc, left, left, right, List.append_assoc]

@[simp] theorem closed_given {condition : Bool} {tokens : Tokens} (closed : Closed tokens) :
    Closed (given condition tokens) := by
  cases condition
  · exact closed_nil
  · exact closed

/-- Whether a token ends every member that was begun before it. -/
def ends : Token → Bool
  | .punct symbol _ => symbol != '.'
  | .ident _ => false
  | .group .. | .literal _ => true

section
variable {last : Token} (final : ends last = true)
include final

theorem memberAfterDot?_concat (tokens rest : Tokens) :
    memberAfterDot? (tokens ++ last :: rest) = memberAfterDot? (tokens ++ [last]) := by
  rcases tokens with _ | ⟨token, _ | ⟨next, tokens⟩⟩
  · cases last <;> simp_all [ends, memberAfterDot?]
  · cases token <;> simp [memberAfterDot?]
    cases last <;> rfl
  · cases token <;> simp [memberAfterDot?]
    cases next <;> rfl

theorem namedMember?_concat (tokens rest : Tokens) :
    namedMember? (tokens ++ last :: rest) = namedMember? (tokens ++ [last]) := by
  cases tokens with
  | nil => cases last <;> simp_all [ends, namedMember?]
  | cons token tokens => cases token <;> simp [namedMember?, memberAfterDot?_concat final]

theorem closed_concat (tokens : Tokens) : Closed (tokens ++ [last]) := by
  intro rest
  induction tokens with
  | nil => cases last <;> simp_all [ends]
  | cons token tokens ih =>
    have same : token.selfMembers (tokens ++ last :: rest) = token.selfMembers (tokens ++ [last]) := by
      cases token <;> simp [Token.selfMembers, namedMember?_concat final tokens rest]
    simp only [List.append_assoc, List.nil_append, List.cons_append, selfMembers] at ih ⊢
    rw [same, ih]

end

@[simp] theorem closed_word {name : String} (other : name ≠ "self") : Closed (word name) :=
  fun rest => by simp [word, selfMembers_ident, other]

theorem mem_selfMembers_append_ident {tokens rest : Tokens} {name : String} {found : SelfMember}
    (among : found ∈ selfMembers (tokens ++ .ident name :: rest)) :
    found ∈ selfMembers tokens ∨ found.name = name ∨ found ∈ selfMembers (.ident name :: rest) := by
  have uncalled (tokens : Tokens) :
      startsGroup .parenthesis (tokens ++ .ident name :: rest) = startsGroup .parenthesis tokens := by
    cases tokens with
    | nil => rfl
    | cons token tokens => cases token <;> rfl
  have afterDot (tokens : Tokens) (next : memberAfterDot? (tokens ++ .ident name :: rest) = some found) :
      memberAfterDot? tokens = some found ∨ found.name = name := by
    cases tokens with
    | nil => exact .inr (by simp [← Option.some.inj next])
    | cons token tokens => cases token <;> simp_all [memberAfterDot?]
  have named (tokens : Tokens) (next : namedMember? (tokens ++ .ident name :: rest) = some found) :
      namedMember? tokens = some found ∨ found.name = name := by
    cases tokens with
    | nil => cases next
    | cons token tokens => cases token <;> simp_all [namedMember?]
  induction tokens with
  | nil => exact .inr (.inr among)
  | cons token tokens ih =>
    rw [List.cons_append, selfMembers, List.mem_append] at among
    rw [selfMembers, List.mem_append]
    rcases among with here | later
    · cases token with
      | ident own =>
        by_cases same : own = "self"
        · simp only [Token.selfMembers, same, if_true, Option.mem_toList] at here ⊢
          exact (named tokens here).imp .inl .inl
        · simp [Token.selfMembers, same] at here
      | punct | literal => cases here
      | group delimiter content => exact .inl (.inl here)
    · exact (ih later).imp_left .inr

@[simp] theorem selfMembers_word (name : String) : selfMembers (word name) = [] := by
  simp [word, selfMembers_ident, namedMember?]

theorem selfMembers_operatorOf_append (spelling : List Char) (rest : Tokens) :
    selfMembers (operatorOf spelling ++ rest) = selfMembers rest := by
  fun_induction operatorOf spelling with
  | case1 => rfl
  | case2 => simp
  | case3 _ _ _ ih => simpa using ih

@[simp] theorem selfMembers_operator (spelling : String) : selfMembers (operator spelling) = [] := by
  simpa [operator] using selfMembers_operatorOf_append spelling.toList []

@[simp] theorem closed_operator (spelling : String) : Closed (operator spelling) :=
  fun rest => by rw [selfMembers_operator, operator, selfMembers_operatorOf_append, List.nil_append]

theorem closed_group (delimiter : Delimiter) (content : Tokens) :
    Closed [.group delimiter content] :=
  closed_concat rfl []

@[simp] theorem closed_parens (content : Tokens) : Closed (parens content) :=
  closed_group .parenthesis content

@[simp] theorem closed_braces (content : Tokens) : Closed (braces content) :=
  closed_group .brace content

@[simp] theorem selfMembers_parens (content : Tokens) :
    selfMembers (parens content) = selfMembers content := by
  simp [parens]

@[simp] theorem selfMembers_braces (content : Tokens) :
    selfMembers (braces content) = selfMembers content := by
  simp [braces]

@[simp] theorem startsApart_braces (content : Tokens) : (braces content).startsApart = true := by
  simp [braces, startsApart]

/-- A separator that keeps the members of its neighbours from each other. -/
structure Divides (separator : Tokens) : Prop where
  apart : ∀ rest, (separator ++ rest).startsApart = true
  closed : Closed separator
  silent : selfMembers separator = []

theorem divides_comma : Divides (operator ",") := ⟨fun _ => rfl, by simp, by simp⟩

theorem divides_colons : Divides (operator "::") := ⟨fun _ => rfl, by simp, by simp⟩

theorem Divides.members {separator : Tokens} (divides : Divides separator) (parts : List Tokens) :
    selfMembers (separated separator parts) = parts.flatMap selfMembers := by
  fun_induction separated separator parts with
  | case1 => rfl
  | case2 => simp
  | case3 part rest _ ih =>
    rw [List.append_assoc, selfMembers_append (divides.apart _), divides.closed, divides.silent, ih]
    simp

theorem Divides.closes {separator : Tokens} (divides : Divides separator) {parts : List Tokens}
    (last : ∀ part ∈ parts.getLast?, Closed part) : Closed (separated separator parts) := by
  fun_induction separated separator parts with
  | case1 => exact closed_nil
  | case2 part => exact last part (by simp)
  | case3 part rest more ih =>
    have ends : Closed (separated separator rest) := by
      refine ih fun part final => last part ?_
      cases rest with
      | nil => cases final
      | cons => simpa using final
    intro tail
    rw [List.append_assoc, List.append_assoc, List.append_assoc, selfMembers_append (divides.apart _),
      selfMembers_append (divides.apart _), divides.closed, divides.closed, ends, List.append_assoc,
      List.append_assoc]

@[simp] theorem selfMembers_commaList (parts : List Tokens) (trailing : Bool) :
    selfMembers (commaList parts trailing) = parts.flatMap selfMembers := by
  have apart : (if trailing && !parts.isEmpty then operator "," else []).startsApart = true := by
    split <;> rfl
  have silent : selfMembers (if trailing && !parts.isEmpty then operator "," else []) = [] := by
    split <;> simp
  rw [commaList, selfMembers_append apart, silent, List.append_nil, divides_comma.members]

/-- Closed parts stay apart whatever silent tokens separate them. -/
theorem separated_of_closed {separator : Tokens} (closed : Closed separator)
    (silent : selfMembers separator = []) {parts : List Tokens} (each : ∀ part ∈ parts, Closed part) :
    selfMembers (separated separator parts) = parts.flatMap selfMembers ∧
      Closed (separated separator parts) := by
  fun_induction separated separator parts with
  | case1 => exact ⟨rfl, closed_nil⟩
  | case2 part => exact ⟨by simp, each part (by simp)⟩
  | case3 part rest _ ih =>
    obtain ⟨first, others⟩ := List.forall_mem_cons.mp each
    obtain ⟨members, ends⟩ := ih others
    exact ⟨by simp [first, closed, silent, members], by simp [first, closed, ends]⟩

end Tokens

namespace Builder
open Tokens

@[simp] theorem selfMembers_joined (names : List String) : selfMembers (joined names) = [] := by
  rw [joined, divides_colons.members]
  simp

@[simp] theorem closed_joined {names : List String} (other : "self" ∉ names) :
    Closed (joined names) := by
  refine divides_colons.closes fun part final => ?_
  obtain ⟨name, member, rfl⟩ := List.mem_map.mp (List.mem_of_mem_getLast? final)
  exact closed_word fun same => other (same ▸ member)

@[simp] theorem startsApart_colons (rest : Tokens) : (operator "::" ++ rest).startsApart = true := by
  simp [operator, operatorOf, startsApart]

@[simp] theorem selfMembers_std (names : List String) : selfMembers (std names) = [] := by
  simp [std]

@[simp] theorem closed_std {names : List String} (other : "self" ∉ names) : Closed (std names) := by
  simp [std, other]

@[simp] theorem selfMembers_below (runtime : Path) (names : List String) :
    selfMembers (below runtime names) = selfMembers runtime.tokens := by
  simp [below]

@[simp] theorem closed_below (runtime : Path) {names : List String} (other : "self" ∉ names) :
    Closed (below runtime names) := by
  intro rest
  simp [below, other]

@[simp] theorem selfMembers_applied {type : Tokens} (closed : Closed type) (arguments : List Tokens) :
    selfMembers (applied type arguments) = selfMembers type ++ arguments.flatMap selfMembers := by
  have apart : (operator ">").startsApart = true := by simp [operator, operatorOf, startsApart]
  simp [applied, closed, apart]

/-! A call ends what it calls, and a member of something other than `self` is none of its members. -/

@[simp] theorem closed_call (function : Tokens) (arguments : List Tokens) :
    Closed (call function arguments) := closed_concat rfl function

@[simp] theorem closed_longCall (function : Tokens) (arguments : List Tokens) :
    Closed (longCall function arguments) := closed_concat rfl function

@[simp] theorem selfMembers_call {function : Tokens} (closed : Closed function) (arguments : List Tokens) :
    selfMembers (call function arguments) = selfMembers function ++ arguments.flatMap selfMembers := by
  simp [call, closed]

@[simp] theorem selfMembers_longCall {function : Tokens} (closed : Closed function)
    (arguments : List Tokens) :
    selfMembers (longCall function arguments) =
      selfMembers function ++ arguments.flatMap selfMembers := by
  simp [longCall, closed]

theorem closed_qualified (type : Tokens) {name : String} (other : name ≠ "self") :
    Closed (type ++ (operator "::" ++ word name)) := by
  intro rest
  simp [other]

@[simp] theorem selfMembers_call_qualified (type : Tokens) {name : String} (other : name ≠ "self")
    (arguments : List Tokens) :
    selfMembers (call (type ++ (operator "::" ++ word name)) arguments) =
      selfMembers type ++ arguments.flatMap selfMembers := by
  simp [closed_qualified type other]

theorem closed_member {value : Tokens} (closed : Closed value) {name : String} (other : name ≠ "self") :
    Closed (member value name) :=
  (closed.append (closed_operator ".")).append (closed_word other)

@[simp] theorem closed_member_word {value name : String} (noSelf : value ≠ "self")
    (other : name ≠ "self") : Closed (member (word value) name) :=
  closed_member (closed_word noSelf) other

@[simp] theorem closed_callOn (value : Tokens) (name : String) (arguments : List Tokens) :
    Closed (callOn value name arguments) :=
  closed_call _ arguments

@[simp] theorem closed_member_call {function : Tokens} {arguments : List Tokens} {name : String}
    (other : name ≠ "self") : Closed (member (call function arguments) name) :=
  closed_member (closed_call function arguments) other

@[simp] theorem closed_member_callOn {value : Tokens} {called name : String} {arguments : List Tokens}
    (other : name ≠ "self") : Closed (member (callOn value called arguments) name) :=
  closed_member (closed_callOn value called arguments) other

@[simp] theorem selfMembers_member {value : Tokens} (closed : Closed value) (name : String) :
    selfMembers (member value name) = selfMembers value := by
  simp [member, closed]

@[simp] theorem selfMembers_member_self (name : String) :
    selfMembers (member self name) = [⟨name, false⟩] := by
  simp [member, self, word, operator, operatorOf, selfMembers_ident, namedMember?, memberAfterDot?,
    startsGroup]

@[simp] theorem selfMembers_callOn {value : Tokens} {name : String} (closed : Closed (member value name))
    (arguments : List Tokens) :
    selfMembers (callOn value name arguments) =
      selfMembers (member value name) ++ arguments.flatMap selfMembers :=
  selfMembers_call closed arguments

@[simp] theorem selfMembers_callOn_self (name : String) (arguments : List Tokens) :
    selfMembers (callOn self name arguments) = ⟨name, true⟩ :: arguments.flatMap selfMembers := by
  simp [callOn, call, member, self, word, operator, operatorOf, selfMembers_ident, namedMember?,
    memberAfterDot?, startsGroup, parens]

@[simp] theorem selfMembers_reference (value : Tokens) :
    selfMembers (reference value) = selfMembers value := by
  simp [reference]

@[simp] theorem selfMembers_mutableReference (value : Tokens) :
    selfMembers (mutableReference value) = selfMembers value := by
  simp [mutableReference]

@[simp] theorem selfMembers_propagated (value : Tokens) :
    selfMembers (propagated value) = selfMembers value := by
  have apart : (operator "?").startsApart = true := by simp [operator, operatorOf, startsApart]
  simp [propagated, apart]

@[simp] theorem selfMembers_text (value : String) : selfMembers (text value) = [] := by
  simp [text]

@[simp] theorem selfMembers_ownedText (value : String) : selfMembers (ownedText value) = [] := by
  simp [ownedText, string]

@[simp] theorem selfMembers_shown (value : Tokens) :
    selfMembers (shown value) = selfMembers value := by
  simp [shown]

@[simp] theorem closed_present (value : Tokens) : Closed (present value) := closed_call _ [value]

@[simp] theorem selfMembers_present (value : Tokens) :
    selfMembers (present value) = selfMembers value := by
  simp [present]

/-! Statements are closed, so those of a body can be searched one after the other. -/

@[simp] theorem closed_statement (value : Tokens) : Closed (statement value) := by
  simpa [statement, operator, operatorOf] using closed_concat rfl value

@[simp] theorem selfMembers_statement (value : Tokens) :
    selfMembers (statement value) = selfMembers value := by
  have apart : (operator ";").startsApart = true := by simp [operator, operatorOf, startsApart]
  simp [statement, apart]

@[simp] theorem closed_assignment (target value : Tokens) : Closed (assignment target value) :=
  closed_statement (target ++ operator "=" ++ value)

theorem startsApart_assign (rest : Tokens) : (operator "=" ++ rest).startsApart = true := by
  simp [operator, operatorOf, startsApart]

@[simp] theorem selfMembers_assignment (target value : Tokens) :
    selfMembers (assignment target value) = selfMembers target ++ selfMembers value := by
  have value : selfMembers (assignment target value) = selfMembers (target ++ operator "=" ++ value) :=
    selfMembers_statement _
  simp [value, startsApart_assign]

@[simp] theorem closed_binding (name : String) (value : Tokens) : Closed (binding name value) :=
  closed_statement (word "let" ++ word name ++ operator "=" ++ value)

@[simp] theorem selfMembers_binding (name : String) (value : Tokens) :
    selfMembers (binding name value) = selfMembers value := by
  have named : selfMembers (binding name value) =
      selfMembers (word "let" ++ word name ++ operator "=" ++ value) := selfMembers_statement _
  simp [named, startsApart_assign]

@[simp] theorem closed_mutableBinding (name : String) (value : Tokens) :
    Closed (mutableBinding name value) :=
  closed_statement (words ["let", "mut", name] ++ operator "=" ++ value)

@[simp] theorem selfMembers_mutableBinding (name : String) (value : Tokens) :
    selfMembers (mutableBinding name value) = selfMembers value := by
  have named : selfMembers (mutableBinding name value) =
      selfMembers (words ["let", "mut", name] ++ operator "=" ++ value) := selfMembers_statement _
  have words : words ["let", "mut", name] = word "let" ++ (word "mut" ++ word name) := rfl
  simp [named, words, startsApart_assign]

@[simp] theorem closed_conditional (condition body : Tokens) : Closed (conditional condition body) :=
  closed_concat rfl (word "if" ++ condition)

@[simp] theorem selfMembers_conditional (condition body : Tokens) :
    selfMembers (conditional condition body) = selfMembers condition ++ selfMembers body := by
  simp [conditional]

end Builder

end Endpoints
