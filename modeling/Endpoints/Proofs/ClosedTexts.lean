import Mathlib.Data.List.Basic

/-! Texts with brackets. A text is closed for some marks when every bracket in it has its partner and no mark stands
outside all brackets, so that the first such mark behind it tells where it ends. Between brackets that can be nothing
else, `<` and `>` are no brackets, and the `>` of an arrow is none anywhere. -/

namespace Endpoints

/-- A place in a text: how many brackets are open that can be nothing else, how many `<` outside of them, and whether
a dash comes right before. -/
structure Nesting where
  hard : Nat
  angle : Nat
  dash : Bool
  deriving DecidableEq

namespace Nesting

def top : Nesting := ⟨0, 0, false⟩

def opening : List Char := ['(', '[', '\x7b']

def closing : List Char := [')', ']', '\x7d']

/-- The place after a character. There is none after a bracket that closes nothing, nor after a mark outside of all
brackets. -/
def step (marks : List Char) (place : Nesting) (c : Char) : Option Nesting :=
  if c ∈ opening then some ⟨place.hard + 1, place.angle, false⟩
  else if c ∈ closing then if place.hard = 0 then none else some ⟨place.hard - 1, place.angle, false⟩
  else if place.hard ≠ 0 then some ⟨place.hard, place.angle, false⟩
  else if c = '<' then some ⟨0, place.angle + 1, false⟩
  else if c = '>' then
    if place.dash then some ⟨0, place.angle, false⟩
    else if place.angle = 0 then none
    else some ⟨0, place.angle - 1, false⟩
  else if place.angle = 0 ∧ c ∈ marks then none
  else some ⟨0, place.angle, c = '-'⟩

def run (marks : List Char) (place : Nesting) : List Char → Option Nesting
  | [] => some place
  | c :: rest => (place.step marks c).bind fun next => next.run marks rest

/-- How many brackets are open that can be nothing else. -/
def depth (count : Nat) : List Char → Option Nat
  | [] => some count
  | c :: rest =>
    if c ∈ opening then depth (count + 1) rest
    else if c ∈ closing then if count = 0 then none else depth (count - 1) rest
    else depth count rest

variable {marks : List Char} {place : Nesting}

theorem run_append (first second : List Char) :
    place.run marks (first ++ second) = (place.run marks first).bind fun next => next.run marks second := by
  induction first generalizing place with
  | nil => rfl
  | cons c rest ih =>
    rw [List.cons_append, run, run, Option.bind_assoc]
    exact congrArg _ (funext fun next => ih)

theorem step_of_subset {fewer : List Char} (subset : fewer ⊆ marks) {c : Char} {next : Nesting}
    (stepped : place.step marks c = some next) : place.step fewer c = some next := by
  have marked := @subset c
  unfold step at stepped ⊢
  grind

theorem run_of_subset {fewer : List Char} (subset : fewer ⊆ marks) {text : List Char} {next : Nesting}
    (ran : place.run marks text = some next) : place.run fewer text = some next := by
  induction text generalizing place with
  | nil => exact ran
  | cons c rest ih =>
    obtain ⟨middle, stepped, ran⟩ := Option.bind_eq_some_iff.mp ran
    exact Option.bind_eq_some_iff.mpr ⟨middle, step_of_subset subset stepped, ih ran⟩

/-- More angle brackets around a text change nothing in it, and then no mark matters. -/
theorem run_in_angles {more : Nat} (some_more : more ≠ 0) {text : List Char} {next : Nesting}
    (ran : place.run [] text = some next) :
    run marks ⟨place.hard, place.angle + more, place.dash⟩ text = some ⟨next.hard, next.angle + more, next.dash⟩ := by
  induction text generalizing place with
  | nil =>
    cases ran
    rfl
  | cons c rest ih =>
    obtain ⟨middle, stepped, ran⟩ := Option.bind_eq_some_iff.mp ran
    refine Option.bind_eq_some_iff.mpr ⟨_, ?_, ih ran⟩
    unfold step at stepped ⊢
    grind

theorem depth_of_run {text : List Char} {next : Nesting} (ran : place.run marks text = some next) :
    depth place.hard text = some next.hard := by
  induction text generalizing place with
  | nil =>
    cases ran
    rfl
  | cons c rest ih =>
    obtain ⟨middle, stepped, ran⟩ := Option.bind_eq_some_iff.mp ran
    have later := ih ran
    unfold step at stepped
    unfold depth
    grind

theorem depth_append {first second : List Char} {count middle : Nat} (counted : depth count first = some middle) :
    depth count (first ++ second) = depth middle second := by
  induction first generalizing count with
  | nil =>
    cases counted
    rfl
  | cons c rest ih =>
    rw [List.cons_append, depth]
    rw [depth] at counted
    grind

theorem run_inside {text : List Char} {count left angle : Nat} (counted : depth count text = some left) :
    run marks ⟨count + 1, angle, false⟩ text = some ⟨left + 1, angle, false⟩ := by
  induction text generalizing count with
  | nil =>
    cases counted
    rfl
  | cons c rest ih =>
    unfold depth at counted
    unfold run step
    grind

/-- A text without a mark outside of brackets, in which all brackets are closed. -/
def Closed (marks text : List Char) : Prop := top.run marks text = some top

instance decidableClosed (marks text : List Char) : Decidable (Closed marks text) :=
  inferInstanceAs (Decidable (_ = _))

/-- A text that brackets can be put around. -/
def Enclosable (text : List Char) : Prop := depth 0 text = some 0

instance decidableEnclosable (text : List Char) : Decidable (Enclosable text) :=
  inferInstanceAs (Decidable (_ = _))

/-- What a closed text ends at: nothing more, a mark, or a bracket that closes. -/
def Stops (marks text : List Char) : Prop := ∀ c ∈ text.head?, top.step marks c = none

variable {marks fewer first second text : List Char}

namespace Closed

theorem nil : Closed marks [] := rfl

theorem append (one : Closed marks first) (other : Closed marks second) : Closed marks (first ++ second) := by
  unfold Closed at *
  rw [run_append, one]
  exact other

theorem of_subset (closed : Closed marks text) (subset : fewer ⊆ marks) : Closed fewer text :=
  run_of_subset subset closed

theorem enclosable (closed : Closed marks text) : Enclosable text := depth_of_run closed

theorem in_angles (closed : Closed marks text) : Closed fewer ('<' :: (text ++ ['>'])) := by
  have within : (⟨0, 1, false⟩ : Nesting).run fewer text = some ⟨0, 1, false⟩ :=
    @run_in_angles fewer top 1 Nat.one_ne_zero _ _ (closed.of_subset (List.nil_subset _))
  have opened : top.step fewer '<' = some ⟨0, 1, false⟩ := by simp [step, top, opening, closing]
  have ended : (⟨0, 1, false⟩ : Nesting).run fewer ['>'] = some top := by
    simp [run, step, top, opening, closing]
  rw [Closed, run, opened, Option.bind_some, run_append, within]
  exact ended

theorem of_plain (plain : ∀ c ∈ text, top.step marks c = some top) : Closed marks text := by
  induction text with
  | nil => exact .nil
  | cons c rest ih =>
    rw [Closed, run, plain c List.mem_cons_self, Option.bind_some]
    exact ih fun other member => plain other (List.mem_cons_of_mem _ member)

theorem intercalate {separator : List Char} (between : Closed marks separator) {parts : List (List Char)}
    (closed : ∀ part ∈ parts, Closed marks part) : Closed marks (separator.intercalate parts) := by
  induction parts with
  | nil => exact .nil
  | cons part rest ih =>
    cases rest with
    | nil => simpa using closed part List.mem_cons_self
    | cons next others =>
      rw [List.intercalate_cons_cons]
      exact ((closed part List.mem_cons_self).append between).append
        (ih fun other member => closed other (List.mem_cons_of_mem _ member))

end Closed

namespace Enclosable

theorem append (one : Enclosable first) (other : Enclosable second) : Enclosable (first ++ second) :=
  (depth_append one).trans other

theorem in_brackets (enclosable : Enclosable text) {before after : Char} (opens : before ∈ opening)
    (closes : after ∈ closing) : Closed marks (before :: (text ++ [after])) := by
  have opened : top.step marks before = some ⟨1, 0, false⟩ := by simp [step, opens, top]
  have within : (⟨1, 0, false⟩ : Nesting).run marks text = some ⟨1, 0, false⟩ := run_inside enclosable
  have apart : after ∉ opening := by
    intro both
    simp only [opening, closing, List.mem_cons, List.not_mem_nil, or_false] at both closes
    grind
  rw [Closed, run, opened, Option.bind_some, run_append, within]
  simp [run, step, apart, closes, top]

end Enclosable

theorem stops_nil : Stops marks [] := nofun

theorem stops_cons {c : Char} {rest : List Char} : Stops marks (c :: rest) ↔ top.step marks c = none := by
  simp [Stops]

/-- Texts that lead to the top from the same place are the same if they are the same up to what they stop at. -/
theorem cut_of_run {place : Nesting} {after other : List Char} (one : place.run marks first = some top)
    (two : place.run marks second = some top) (stops : Stops marks after) (ends : Stops marks other)
    (same : first ++ after = second ++ other) : first = second ∧ after = other := by
  induction first generalizing second place with
  | nil =>
    cases second with
    | nil => exact ⟨rfl, same⟩
    | cons c rest =>
      obtain rfl : place = top := Option.some.inj one
      rw [List.nil_append, List.cons_append] at same
      rw [same, stops_cons] at stops
      rw [run, stops] at two
      cases two
  | cons c rest ih =>
    cases second with
    | nil =>
      obtain rfl : place = top := Option.some.inj two
      rw [List.nil_append, List.cons_append] at same
      rw [← same, stops_cons] at ends
      rw [run, ends] at one
      cases one
    | cons d others =>
      rw [List.cons_append, List.cons_append, List.cons.injEq] at same
      obtain ⟨rfl, same⟩ := same
      obtain ⟨next, stepped, one⟩ := Option.bind_eq_some_iff.mp one
      obtain ⟨_, again, two⟩ := Option.bind_eq_some_iff.mp two
      obtain rfl := Option.some.inj (stepped.symm.trans again)
      obtain ⟨rfl, left⟩ := ih one two same
      exact ⟨rfl, left⟩

theorem Closed.cut {after other : List Char} (one : Closed marks first) (two : Closed marks second)
    (stops : Stops marks after) (ends : Stops marks other) (same : first ++ after = second ++ other) :
    first = second ∧ after = other :=
  cut_of_run one two stops ends same

section Separated

variable {lead tail part other : List Char} {mark : Char} {parts others : List (List Char)}

theorem intercalate_cons_eq (separator part : List Char) (rest : List (List Char)) :
    separator.intercalate (part :: rest) = part ++ rest.flatMap (separator ++ ·) := by
  induction rest generalizing part with
  | nil => simp
  | cons next more ih => rw [List.intercalate_cons_cons, ih, List.flatMap_cons, List.append_assoc, List.append_assoc]

/-- The first part of a list is cut off where its separator has a mark. -/
theorem Closed.cut_part (leads : Closed marks lead) (stops : top.step marks mark = none) (one : Closed marks part)
    (two : Closed marks other) (same : part ++ parts.flatMap ((lead ++ mark :: tail) ++ ·) =
      other ++ others.flatMap ((lead ++ mark :: tail) ++ ·)) :
    part = other ∧ parts.flatMap ((lead ++ mark :: tail) ++ ·) = others.flatMap ((lead ++ mark :: tail) ++ ·) := by
  have shape (part next : List Char) (more : List (List Char)) :
      part ++ (next :: more).flatMap ((lead ++ mark :: tail) ++ ·) =
        (part ++ lead) ++ mark :: (tail ++ next ++ more.flatMap ((lead ++ mark :: tail) ++ ·)) := by simp
  -- The last part of a list is not the same as one with more behind it.
  have last {part first rest : List Char} (one : Closed marks part) (two : Closed marks first)
      (alike : part ++ [] = (first ++ lead) ++ mark :: rest) : False := by
    have ends := (one.cut (two.append leads) stops_nil (stops_cons.mpr stops) alike).2
    cases ends
  cases parts with
  | nil =>
    cases others with
    | nil => exact ⟨List.append_cancel_right same, rfl⟩
    | cons next more =>
      rw [shape] at same
      exact (last one two same).elim
  | cons next more =>
    cases others with
    | nil =>
      rw [shape] at same
      exact (last two one same.symm).elim
    | cons second others =>
      have first : part = other := by
        rw [shape, shape] at same
        have leading := ((one.append leads).cut (two.append leads) (stops_cons.mpr stops) (stops_cons.mpr stops) same).1
        exact List.append_cancel_right leading
      subst first
      exact ⟨rfl, List.append_cancel_left same⟩

theorem flatMap_injective (leads : Closed marks lead) (stops : top.step marks mark = none)
    (each : ∀ part ∈ parts, Closed marks part) (every : ∀ part ∈ others, Closed marks part)
    (same : parts.flatMap ((lead ++ mark :: tail) ++ ·) = others.flatMap ((lead ++ mark :: tail) ++ ·)) :
    parts = others := by
  induction parts generalizing others with
  | nil =>
    cases others with
    | nil => rfl
    | cons other more => simp at same
  | cons part rest ih =>
    cases others with
    | nil => simp at same
    | cons other more =>
      rw [List.forall_mem_cons] at each every
      rw [List.flatMap_cons, List.flatMap_cons, List.append_assoc _ part, List.append_assoc _ other] at same
      obtain ⟨rfl, left⟩ := leads.cut_part stops each.1 every.1 (List.append_cancel_left same)
      rw [ih each.2 every.2 left]

/-- A list can be told from its parts with a mark between them, when they are closed for it and none is empty. -/
theorem intercalate_injective (leads : Closed marks lead) (stops : top.step marks mark = none)
    (each : ∀ part ∈ parts, Closed marks part ∧ part ≠ []) (every : ∀ part ∈ others, Closed marks part ∧ part ≠ [])
    (same : (lead ++ mark :: tail).intercalate parts = (lead ++ mark :: tail).intercalate others) : parts = others := by
  cases parts with
  | nil =>
    cases others with
    | nil => rfl
    | cons other more =>
      rw [intercalate_cons_eq] at same
      exact absurd (List.append_eq_nil_iff.mp same.symm).1 (every other List.mem_cons_self).2
  | cons part rest =>
    cases others with
    | nil =>
      rw [intercalate_cons_eq] at same
      exact absurd (List.append_eq_nil_iff.mp same).1 (each part List.mem_cons_self).2
    | cons other more =>
      rw [List.forall_mem_cons] at each every
      rw [intercalate_cons_eq, intercalate_cons_eq] at same
      obtain ⟨rfl, left⟩ := leads.cut_part stops each.1.1 every.1.1 same
      rw [flatMap_injective leads stops (fun part member => (each.2 part member).1)
        (fun part member => (every.2 part member).1) left]

end Separated

end Nesting
end Endpoints
