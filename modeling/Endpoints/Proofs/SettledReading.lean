import Endpoints.Item.Reader
import Endpoints.Proofs.TagRecognition

/-! Readers whose value does not depend on what follows the tokens that they take. What a group is read as
depends on what it holds alone, and so do attributes and visibilities before a word. -/

namespace Endpoints

namespace Reader

variable {α β : Type}

theorem bind_of_ok {reader : Reader α} {next : α → Reader β} {tokens rest : Tokens} {value : α}
    {result : Except ReadError (β × Tokens)} (first : reader tokens = .ok (value, rest))
    (second : next value rest = result) : (reader >>= next) tokens = result := by
  simp only [bind, first, second]

theorem bind_of_error {reader : Reader α} {next : α → Reader β} {tokens : Tokens} {error : ReadError}
    (first : reader tokens = .error error) : (reader >>= next) tokens = .error error := by
  simp only [bind, first]

theorem toOption_bind (reader : Reader α) (next : α → Reader β) (tokens : Tokens) :
    ((reader >>= next) tokens).toOption =
      (reader tokens).toOption.bind fun found => (next found.1 found.2).toOption := by
  simp only [bind]
  cases reader tokens <;> rfl

theorem ahead_of {look : Tokens → α} {tokens : Tokens} {value : α} (looked : look tokens = value) :
    ahead look tokens = .ok (value, tokens) := by
  rw [ahead, looked]

/-- What is read of tokens of which the last ones vary, and are left together with some before them: always the
same value, or never any. -/
inductive Settled (result : Tokens → Except ReadError (α × Tokens)) (left : Tokens) : Prop where
  | taken (value : α) (reads : ∀ rest, result rest = .ok (value, left ++ rest))
  | refused (fails : ∀ rest, ∃ error, result rest = .error error)

theorem settled_of_toOption {result : Tokens → Except ReadError (α × Tokens)} {left : Tokens} (value? : Option α)
    (reads : ∀ rest, (result rest).toOption = value?.map (·, left ++ rest)) : Settled result left := by
  cases value? with
  | none =>
    refine .refused fun rest => ?_
    have none := reads rest
    cases found : result rest with
    | error error => exact ⟨error, rfl⟩
    | ok _ => simp [found, Except.toOption] at none
  | some value =>
    refine .taken value fun rest => ?_
    have some := reads rest
    cases found : result rest with
    | error _ => simp [found, Except.toOption] at some
    | ok _ => simpa [found, Except.toOption] using some

theorem Settled.bind {reader : Reader α} {next : Tokens → α → Reader β} {start : Tokens → Tokens}
    {between left : Tokens} (first : Settled (fun rest => reader (start rest)) between)
    (second : ∀ value, (∀ rest, reader (start rest) = .ok (value, between ++ rest)) →
      Settled (fun rest => next rest value (between ++ rest)) left) :
    Settled (fun rest => (reader >>= next rest) (start rest)) left := by
  cases first with
  | refused fails =>
    refine .refused fun rest => ?_
    obtain ⟨error, read⟩ := fails rest
    exact ⟨error, bind_of_error read⟩
  | taken value reads =>
    cases second value reads with
    | taken result follows => exact .taken result fun rest => bind_of_ok (reads rest) (follows rest)
    | refused fails =>
      refine .refused fun rest => ?_
      obtain ⟨error, read⟩ := fails rest
      exact ⟨error, bind_of_ok (reads rest) read⟩

theorem Settled.after {reader : Reader α} {next : Tokens → α → Reader β} {start between : Tokens → Tokens}
    {left : Tokens} {value : Tokens → α} (first : ∀ rest, reader (start rest) = .ok (value rest, between rest))
    (second : Settled (fun rest => next rest (value rest) (between rest)) left) :
    Settled (fun rest => (reader >>= next rest) (start rest)) left := by
  cases second with
  | taken result follows => exact .taken result fun rest => bind_of_ok (first rest) (follows rest)
  | refused fails =>
    refine .refused fun rest => ?_
    obtain ⟨error, read⟩ := fails rest
    exact ⟨error, bind_of_ok (first rest) read⟩

theorem Settled.before {result : Tokens → Except ReadError (α × Tokens)} {left : Tokens}
    (settled : Settled result left) (more : Tokens) : Settled (fun rest => result (more ++ rest)) (left ++ more) := by
  cases settled with
  | taken value reads => exact .taken value fun rest => by rw [reads, List.append_assoc]
  | refused fails => exact .refused fun rest => fails (more ++ rest)

theorem settled_pure (value : α) (left : Tokens) :
    Settled (fun rest => (pure value : Reader α) (left ++ rest)) left := .taken value fun _ => rfl

theorem settled_pure_or {condition : Prop} [Decidable condition] (first second : α) (left : Tokens) :
    Settled (fun rest => (if condition then pure first else pure second : Reader α) (left ++ rest)) left := by
  split
  · exact settled_pure first left
  · exact settled_pure second left

theorem settled_group (delimiter : Delimiter) (reader : Reader α) (content : Tokens) :
    Settled (fun rest => group delimiter reader (.group delimiter content :: rest)) [] := by
  simp only [group, if_true]
  cases reader content with
  | error error => exact .refused fun _ => ⟨error, rfl⟩
  | ok found =>
    obtain ⟨value, left⟩ := found
    cases left with
    | nil => exact .taken value fun _ => rfl
    | cons token more => exact .refused fun _ => ⟨_, rfl⟩

theorem exists_of_group {delimiter : Delimiter} {reader : Reader α} {tokens rest : Tokens} {value : α}
    (read : group delimiter reader tokens = .ok (value, rest)) : ∃ content, reader content = .ok (value, []) := by
  unfold group at read
  split at read
  next other content after =>
    split at read
    · split at read
      next found =>
        cases read
        exact ⟨content, found⟩
      next => cases read
      next => cases read
    · cases read
  next => cases read

theorem of_ahead {α : Type} {look : Tokens → α} {tokens rest : Tokens} {value : α}
    (looked : ahead look tokens = .ok (value, rest)) : look tokens = value ∧ rest = tokens := by
  cases looked
  exact ⟨rfl, rfl⟩

theorem chainedUntil_ne_nil {α : Type} {stop : Tokens → Bool} {separator : String} {item : Reader α}
    {tokens rest : Tokens} {found : Separated α} (goes : stop tokens = false)
    (read : chainedUntil stop separator item tokens = .ok (found, rest)) : found.items ≠ [] := by
  obtain ⟨stops, _, looked, read⟩ := bind_eq_ok_iff.mp read
  obtain ⟨rfl, rfl⟩ := of_ahead looked
  rw [goes] at read
  obtain ⟨first, _, -, read⟩ := bind_eq_ok_iff.mp read
  obtain ⟨others, _, -, read⟩ := bind_eq_ok_iff.mp read
  cases read
  exact List.cons_ne_nil first others.items

/-- What a reader makes of tokens that stand alone. -/
def alone? (reader : Reader α) (tokens : Tokens) : Option α := (reader tokens).toOption.map Prod.fst

theorem Settled.toOption_eq {reader : Reader α} {tokens : Tokens}
    (settled : Settled (fun rest => reader (tokens ++ rest)) []) (rest : Tokens) :
    (reader (tokens ++ rest)).toOption = (reader.alone? tokens).map (·, rest) := by
  cases settled with
  | taken value reads =>
    have bare : reader tokens = .ok (value, []) := by simpa using reads []
    have followed : reader (tokens ++ rest) = .ok (value, rest) := reads rest
    rw [followed, alone?, bare]
    rfl
  | refused fails =>
    obtain ⟨error, bare⟩ : ∃ error, reader tokens = .error error := by simpa using fails []
    obtain ⟨other, followed⟩ : ∃ other, reader (tokens ++ rest) = .error other := fails rest
    rw [followed, alone?, bare]
    rfl

theorem whileFuel_parts {go : Tokens → Bool} {item : Reader α} {parts : List Tokens} {last : Tokens}
    (settled : ∀ part ∈ parts, Settled (fun rest => item (part ++ rest)) [])
    (goes : ∀ part ∈ parts, ∀ rest, go (part ++ rest) = true) (stops : go last = false) {fuel : Nat}
    (enough : parts.length < fuel) :
    (whileFuel go item fuel (parts.flatten ++ last)).toOption = (parts.mapM item.alone?).map (·, last) := by
  induction parts generalizing fuel with
  | nil =>
    obtain ⟨fuel, rfl⟩ := Nat.exists_eq_add_one_of_ne_zero (Nat.ne_of_gt enough)
    have read : whileFuel go item (fuel + 1) last = .ok ([], last) := bind_of_ok (ahead_of stops) rfl
    rw [List.flatten_nil, List.nil_append, read]
    rfl
  | cons part rest ih =>
    obtain ⟨fuel, rfl⟩ := Nat.exists_eq_add_one_of_ne_zero (Nat.ne_of_gt (Nat.zero_lt_of_lt enough))
    obtain ⟨first, others⟩ := List.forall_mem_cons.mp settled
    obtain ⟨goesFirst, goesOthers⟩ := List.forall_mem_cons.mp goes
    have left := ih others goesOthers (Nat.lt_of_succ_lt_succ enough)
    have read : whileFuel go item (fuel + 1) (part ++ (rest.flatten ++ last)) =
        (item >>= fun value => whileFuel go item fuel >>= fun values => pure (value :: values))
          (part ++ (rest.flatten ++ last)) := bind_of_ok (ahead_of (goesFirst _)) rfl
    rw [List.flatten_cons, List.append_assoc, read, toOption_bind, first.toOption_eq, List.mapM_cons]
    cases item.alone? part with
    | none => rfl
    | some value =>
      simp only [Option.map_some, Option.bind_some, toOption_bind, left]
      cases rest.mapM item.alone? <;> rfl

theorem whileAhead_parts {go : Tokens → Bool} {item : Reader α} {parts : List Tokens} {last : Tokens}
    (settled : ∀ part ∈ parts, Settled (fun rest => item (part ++ rest)) [])
    (goes : ∀ part ∈ parts, ∀ rest, go (part ++ rest) = true) (stops : go last = false) :
    (whileAhead go item (parts.flatten ++ last)).toOption = (parts.mapM item.alone?).map (·, last) := by
  have filled : ∀ part ∈ parts, 1 ≤ part.length := by
    intro part member
    rcases List.eq_nil_or_concat part with rfl | ⟨_, _, rfl⟩
    · exact absurd ((goes [] member last).symm.trans stops) (by decide)
    · simp
  have longer : parts.length ≤ parts.flatten.length := by
    clear settled goes
    induction parts with
    | nil => exact Nat.le_refl _
    | cons part rest ih =>
      obtain ⟨first, others⟩ := List.forall_mem_cons.mp filled
      have more := ih others
      rw [List.flatten_cons, List.length_append, List.length_cons]
      omega
  refine whileFuel_parts settled goes stops ?_
  rw [List.length_append]
  omega

end Reader

open Reader

/-! Attributes and visibilities -/

theorem settled_outerAttributes (nested : Nested) {attributes : List Attribute}
    (outer : ∀ mark ∈ attributes, mark.inner = false) (word : String) (more : Tokens) :
    Settled (fun rest => outerAttributes nested (attributesTokens attributes ++ (.ident word :: more ++ rest)))
      (.ident word :: more) := by
  have spelled : ∀ part ∈ attributes.map Attribute.tokens,
      ∃ content, part = [.punct '#' .alone, .group .bracket content] := by
    intro part member
    obtain ⟨mark, among, rfl⟩ := List.mem_map.mp member
    rw [Attribute.tokens, outer mark among]
    exact ⟨_, rfl⟩
  have parts : attributesTokens attributes = (attributes.map Attribute.tokens).flatten := List.flatMap_def ..
  rw [parts]
  refine settled_of_toOption _ fun rest => whileAhead_parts ?_ ?_ rfl
  · intro part member
    obtain ⟨content, rfl⟩ := spelled part member
    exact (settled_group .bracket (attributeContent nested) content).bind fun found _ =>
      settled_pure (Attribute.mk false found.1 found.2) []
  · intro part member rest
    obtain ⟨content, rfl⟩ := spelled part member
    rfl

theorem startsName_of_name {tokens rest : Tokens} {found : String} (read : Reader.name tokens = .ok (found, rest)) :
    tokens.startsName = true := by
  obtain ⟨rfl, free⟩ := Reader.name_eq_ok_iff.mp read
  simp [Tokens.startsName, free]

theorem pathOfWords_ne_nil {tokens rest : Tokens} {isGlobal : Bool} {words : List String}
    (read : pathOfWords tokens = .ok ((isGlobal, words), rest)) : words ≠ [] := by
  obtain ⟨_, after, -, read⟩ := bind_eq_ok_iff.mp read
  obtain ⟨starts, _, looked, read⟩ := bind_eq_ok_iff.mp read
  obtain ⟨same, rfl⟩ := of_ahead looked
  cases starts with
  | false =>
    -- what starts no path is no name either
    obtain ⟨name, _, named, -⟩ := bind_eq_ok_iff.mp read
    rw [startsName_of_name named] at same
    cases same
  | true =>
    obtain ⟨found, _, chained, read⟩ := bind_eq_ok_iff.mp read
    have filled : found.items ≠ [] := chainedUntil_ne_nil (by rw [same]; rfl) chained
    dsimp only at read
    split at read
    · obtain ⟨_, _, failed, -⟩ := bind_eq_ok_iff.mp read
      cases failed
    · cases read
      exact filled

theorem plainPath_ne_nil {tokens rest path : Tokens} (read : plainPath tokens = .ok (path, rest)) : path ≠ [] := by
  obtain ⟨⟨isGlobal, words⟩, _, read, spelled⟩ := bind_eq_ok_iff.mp read
  cases spelled
  obtain ⟨first, more, rfl⟩ := List.exists_cons_of_ne_nil (pathOfWords_ne_nil read)
  cases more <;> simp [Tokens.separated, Tokens.word]

/-- A visibility as it is read from tokens. -/
def Visibility.IsRead : Visibility → Prop
  | .inside false path => ∃ name ∈ ["crate", "self", "super"], path = Tokens.word name
  | .inside true path => path ≠ []
  | .inherited | .everywhere => True

theorem isRead_of_visibility {tokens rest : Tokens} {found : Visibility}
    (read : visibility tokens = .ok (found, rest)) : found.IsRead := by
  obtain ⟨isPublic, after, -, read⟩ := bind_eq_ok_iff.mp read
  cases isPublic with
  | false =>
    cases read
    trivial
  | true =>
    obtain ⟨next, _, -, read⟩ := bind_eq_ok_iff.mp read
    split at read
    next name =>
      split at read
      next known =>
        cases read
        exact ⟨name, by simpa using known, rfl⟩
      next =>
        cases read
        trivial
    next =>
      obtain ⟨content, read⟩ := exists_of_group read
      obtain ⟨_, _, -, read⟩ := bind_eq_ok_iff.mp read
      obtain ⟨path, _, named, read⟩ := bind_eq_ok_iff.mp read
      cases read
      exact plainPath_ne_nil named
    next =>
      cases read
      trivial

theorem settled_visibility {visible : Visibility} (isRead : visible.IsRead) {word : String} (other : word ≠ "pub")
    (more : Tokens) :
    Settled (fun rest => visibility (visible.tokens ++ (.ident word :: more ++ rest))) (.ident word :: more) := by
  match visible with
  | .inherited =>
    refine .taken .inherited fun rest => ?_
    have absent : word? "pub" (.ident word :: more ++ rest) = .ok (false, .ident word :: more ++ rest) := by
      simp [word?, Tokens.startsWord, other]
    exact bind_of_ok absent rfl
  | .everywhere => exact .taken .everywhere fun rest => rfl
  | .inside false path =>
    obtain ⟨name, known, rfl⟩ := isRead
    refine .taken (.inside false (Tokens.word name)) fun rest => ?_
    simp only [List.mem_cons, List.not_mem_nil, or_false] at known
    rcases known with rfl | rfl | rfl <;> rfl
  | .inside true path =>
    obtain ⟨first, others, rfl⟩ := List.exists_cons_of_ne_nil isRead
    exact (settled_group .parenthesis (do
      Reader.word "in"
      return Visibility.inside true (← plainPath)) (.ident "in" :: first :: others)).before (.ident word :: more)

end Endpoints
