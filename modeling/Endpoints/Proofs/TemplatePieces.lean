import Endpoints.Proofs.EndpointContents
import Endpoints.Template

/-! Templates cut into pieces. Each template has one cut, and both loops that scan templates follow it. Filled
in, a template has the same cut but for the placeholders that got a value, so it can be filled in by stages. -/

namespace Endpoints

namespace Keyed

variable {α : Type}

/-- Values and those of other keys: a key of both keeps the first value. -/
def extendedBy (first second : Keyed α) : Keyed α :=
  first.foldr (fun (key, value) keyed => keyed.put key value) second

theorem get?_extendedBy (first second : Keyed α) (key : String) :
    (first.extendedBy second).get? key = (first.get? key).or (second.get? key) := by
  induction first with
  | nil => rfl
  | cons entry rest ih =>
    by_cases same : key = entry.1
    · simp [extendedBy, get?, same]
    · simpa [extendedBy, get?, same, get?_put_of_ne] using ih

theorem mem_of_get? {keyed : Keyed α} {key : String} {value : α} (found : keyed.get? key = some value) :
    (key, value) ∈ keyed := by
  induction keyed with
  | nil => cases found
  | cons entry rest ih =>
    by_cases same : key = entry.1
    · obtain rfl : entry.2 = value := by simpa [get?, same] using found
      rw [same]
      exact List.mem_cons_self
    · exact List.mem_cons_of_mem _ (ih (by simpa [get?, same] using found))

end Keyed

namespace Template

/-- A stretch of a template: text that stands for itself, or a placeholder. -/
inductive Piece where
  | text (characters : List Char)
  | key (name : List Char)

namespace Piece

def written : Piece → List Char
  | text characters => characters
  | key name => '\x7b' :: (name ++ ['\x7d'])

def filled (bound : Keyed String) : Piece → List Char
  | text characters => characters
  | key name => substitute bound name

def name? : Piece → Option String
  | text _ => none
  | key name => some (String.ofList name)

/-- The name of a placeholder that has no value. -/
def left? (bound : Keyed String) (piece : Piece) : Option String :=
  piece.name?.filter fun name => (bound.get? name).isNone

theorem filled_of_left {bound : Keyed String} {piece : Piece} (left : (piece.left? bound).isSome) :
    piece.filled bound = piece.written := by
  obtain ⟨name, kept⟩ := Option.isSome_iff_exists.mp left
  obtain ⟨named, missing⟩ := Option.filter_eq_some_iff.mp kept
  cases piece with
  | text characters => cases named
  | key characters =>
    obtain rfl := Option.some.inj named
    simp only [filled, substitute, written, Option.isNone_iff_eq_none.mp missing]

theorem filled_nil (piece : Piece) : piece.filled [] = piece.written := by
  cases piece <;> rfl

end Piece

/-- A template cut into pieces. A `{` without a `}` after it is text. -/
inductive Pieces : List Char → List Piece → Prop where
  | plain {text} (opens : '\x7b' ∉ text) : Pieces text [.text text]
  | unclosed {before after} (opens : '\x7b' ∉ before) (closes : '\x7d' ∉ after) :
      Pieces (before ++ '\x7b' :: after) [.text (before ++ '\x7b' :: after)]
  | key {before name after pieces} (opens : '\x7b' ∉ before) (closes : '\x7d' ∉ name)
      (more : Pieces after pieces) :
      Pieces (before ++ '\x7b' :: (name ++ '\x7d' :: after)) (.text before :: .key name :: pieces)

theorem expandFrom_none_append (bound : Keyed String) {before : List Char} (opens : '\x7b' ∉ before)
    (after : List Char) : expandFrom bound none (before ++ after) = before ++ expandFrom bound none after := by
  induction before with
  | nil => rfl
  | cons c rest ih =>
    obtain ⟨other, later⟩ := List.ne_and_not_mem_of_not_mem_cons opens
    simp [expandFrom, other.symm, ih later]

theorem expandFrom_some_append (bound : Keyed String) {key : List Char} (closes : '\x7d' ∉ key)
    (opened after : List Char) :
    expandFrom bound (some opened) (key ++ after) = expandFrom bound (some (key.reverse ++ opened)) after := by
  induction key generalizing opened with
  | nil => rfl
  | cons c rest ih =>
    obtain ⟨other, later⟩ := List.ne_and_not_mem_of_not_mem_cons closes
    simp [expandFrom, other.symm, ih later]

namespace Pieces
variable {text : List Char} {pieces : List Piece}

theorem flatMap_written (cut : Pieces text pieces) : pieces.flatMap Piece.written = text := by
  induction cut with
  | plain => simp [Piece.written]
  | unclosed => simp [Piece.written]
  | key _ _ _ ih => simp [Piece.written, ih]

theorem flatMap_filled (cut : Pieces text pieces) (bound : Keyed String) :
    pieces.flatMap (Piece.filled bound) = expandFrom bound none text := by
  induction cut with
  | @plain text opens =>
    have whole := expandFrom_none_append bound opens []
    simpa [Piece.filled, expandFrom] using whole.symm
  | @unclosed before after opens closes =>
    have rest := expandFrom_some_append bound closes [] []
    rw [List.append_nil] at rest
    rw [expandFrom_none_append bound opens]
    simp [Piece.filled, expandFrom, rest]
  | @key before name after pieces opens closes _ ih =>
    rw [expandFrom_none_append bound opens]
    simp [Piece.filled, expandFrom, expandFrom_some_append bound closes, ih]

theorem filterMap_name (cut : Pieces text pieces) :
    pieces.filterMap Piece.name? = placeholdersFrom none text := by
  induction cut with
  | plain opens => exact (Keys.plain opens).placeholdersFrom_eq.symm
  | unclosed opens closes => exact (Keys.unclosed opens closes).placeholdersFrom_eq.symm
  | @key before name after pieces opens closes _ ih =>
    rw [(Keys.key opens closes (keys_iff.mpr ih.symm)).placeholdersFrom_eq]
    rfl

theorem eq_of_first_mark {mark : Char} {first second after others : List Char} (unmarked : mark ∉ first)
    (free : mark ∉ second) (same : first ++ mark :: after = second ++ mark :: others) :
    first = second ∧ after = others := by
  induction first generalizing second with
  | nil =>
    cases second with
    | nil => exact ⟨rfl, List.tail_eq_of_cons_eq same⟩
    | cons c rest => exact absurd (List.head_eq_of_cons_eq same ▸ List.mem_cons_self) free
  | cons c rest ih =>
    cases second with
    | nil => exact absurd (List.head_eq_of_cons_eq same ▸ List.mem_cons_self) unmarked
    | cons d more =>
      obtain ⟨rfl, later⟩ := List.cons.inj same
      obtain ⟨rfl, tail⟩ := ih (List.not_mem_of_not_mem_cons unmarked) (List.not_mem_of_not_mem_cons free) later
      exact ⟨rfl, tail⟩

theorem unique (cut : Pieces text pieces) {others : List Piece} (other : Pieces text others) :
    others = pieces := by
  induction cut generalizing others with
  | plain opens =>
    cases other with
    | plain => rfl
    | unclosed => exact absurd (List.mem_append_right _ List.mem_cons_self) opens
    | key => exact absurd (List.mem_append_right _ List.mem_cons_self) opens
  | @unclosed before after opens closes =>
    generalize whole : before ++ '\x7b' :: after = text at other
    cases other with
    | plain never => exact absurd (whole ▸ List.mem_append_right _ List.mem_cons_self) never
    | unclosed => rfl
    | key first _ _ =>
      obtain ⟨rfl, rfl⟩ := eq_of_first_mark opens first whole
      exact absurd (List.mem_append_right _ List.mem_cons_self) closes
  | @key before name after pieces opens closes _ ih =>
    generalize whole : before ++ '\x7b' :: (name ++ '\x7d' :: after) = text at other
    cases other with
    | plain never => exact absurd (whole ▸ List.mem_append_right _ List.mem_cons_self) never
    | unclosed first never =>
      obtain ⟨rfl, rfl⟩ := eq_of_first_mark opens first whole
      exact absurd (List.mem_append_right _ List.mem_cons_self) never
    | key first ends more =>
      obtain ⟨rfl, inside⟩ := eq_of_first_mark opens first whole
      obtain ⟨rfl, rfl⟩ := eq_of_first_mark closes ends inside
      rw [ih more]

end Pieces

theorem exists_pieces (text : List Char) : ∃ pieces, Pieces text pieces := by
  obtain ⟨keys, found⟩ := exists_keys text
  induction found with
  | plain opens => exact ⟨_, .plain opens⟩
  | unclosed opens closes => exact ⟨_, .unclosed opens closes⟩
  | key opens closes _ ih =>
    obtain ⟨pieces, more⟩ := ih
    exact ⟨_, .key opens closes more⟩

/-- There is one way to cut a template into pieces. An endpoint with this template has the placeholders among
them, in order, and filling in replaces each placeholder that has a value and nothing else. -/
theorem read_alike (template : String) :
    ∃ pieces, (∀ others, Pieces template.toList others ↔ others = pieces) ∧
      pieces.flatMap Piece.written = template.toList ∧
      (∀ endpoint : Endpoint, ({ endpoint with template := template }).placeholders = pieces.filterMap Piece.name?) ∧
      ∀ bound, (expand template bound).toList = pieces.flatMap (Piece.filled bound) := by
  obtain ⟨pieces, cut⟩ := exists_pieces template.toList
  refine ⟨pieces, ?_, cut.flatMap_written, ?_, ?_⟩
  · intro others
    constructor
    · exact cut.unique
    · intro same
      rw [same]
      exact cut
  · intro endpoint
    exact cut.filterMap_name.symm
  · intro bound
    rw [toList_expand, cut.flatMap_filled]

/-- No value opens a placeholder. -/
def OpensNothing (bound : Keyed String) : Prop := ∀ entry ∈ bound, '\x7b' ∉ entry.2.toList

instance (bound : Keyed String) : Decidable (OpensNothing bound) :=
  List.decidableBAll (fun entry : String × String => '\x7b' ∉ entry.2.toList) bound

theorem substitute_congr {bound other : Keyed String} (same : ∀ key, bound.get? key = other.get? key)
    (key : List Char) : substitute bound key = substitute other key := by
  unfold substitute
  rw [same]

theorem expand_congr (template : String) {bound other : Keyed String}
    (same : ∀ key, bound.get? key = other.get? key) : expand template bound = expand template other := by
  obtain ⟨pieces, cut⟩ := exists_pieces template.toList
  have filled : Piece.filled bound = Piece.filled other := by
    funext piece
    cases piece with
    | text characters => rfl
    | key name => exact substitute_congr same name
  apply String.toList_inj.mp
  rw [toList_expand, toList_expand, ← cut.flatMap_filled, ← cut.flatMap_filled, filled]

theorem expandFrom_substitute {first : Keyed String} (opens : OpensNothing first) (second : Keyed String)
    {name : List Char} (closes : '\x7d' ∉ name) (after : List Char) :
    expandFrom second none (substitute first name ++ after) =
      substitute (first.extendedBy second) name ++ expandFrom second none after := by
  unfold substitute
  rw [Keyed.get?_extendedBy]
  cases held : first.get? (String.ofList name) with
  | none => simp [expandFrom, expandFrom_some_append second closes, substitute]
  | some value => simpa using expandFrom_none_append second (opens _ (Keyed.mem_of_get? held)) after

theorem Pieces.expandFrom_filled {text : List Char} {pieces : List Piece} (cut : Pieces text pieces)
    {first : Keyed String} (opens : OpensNothing first) (second : Keyed String) :
    expandFrom second none (pieces.flatMap (Piece.filled first)) = pieces.flatMap (Piece.filled (first.extendedBy second)) := by
  induction cut with
  | plain none => simpa [Piece.filled] using ((Pieces.plain none).flatMap_filled second).symm
  | unclosed none closes => simpa [Piece.filled] using ((Pieces.unclosed none closes).flatMap_filled second).symm
  | key none closes _ ih =>
    simp only [List.flatMap_cons, Piece.filled]
    rw [expandFrom_none_append second none, expandFrom_substitute opens second closes, ih]

/-- To fill in values that open nothing and then others is to fill in both at once. Hence the same values
change nothing the second time, and values for different keys may come in either order. -/
theorem expand_in_stages (template : String) {first : Keyed String} (opens : OpensNothing first) (second : Keyed String) :
    expand (expand template first) second = expand template (first.extendedBy second) ∧
      expand (expand template first) first = expand template first ∧
      (OpensNothing second → (∀ key, first.get? key = none ∨ second.get? key = none) →
        expand (expand template first) second = expand (expand template second) first) := by
  have staged {first : Keyed String} (opens : OpensNothing first) (second : Keyed String) :
      expand (expand template first) second = expand template (first.extendedBy second) := by
    obtain ⟨pieces, cut⟩ := exists_pieces template.toList
    apply String.toList_inj.mp
    rw [toList_expand, toList_expand, toList_expand, ← cut.flatMap_filled, ← cut.flatMap_filled,
      cut.expandFrom_filled opens]
  refine ⟨staged opens second, ?_, ?_⟩
  · rw [staged opens]
    apply expand_congr
    intro key
    rw [Keyed.get?_extendedBy, Option.or_self]
  · intro others apart
    rw [staged opens, staged others]
    apply expand_congr
    intro key
    rw [Keyed.get?_extendedBy, Keyed.get?_extendedBy]
    rcases apart key with missing | missing <;> simp [missing]

/-- The values hold closing braces, and the template has a name with a brace in it and an unclosed one. -/
theorem expand_in_stages_stray :
    let template := "/\x7ba\x7d/\x7bb\x7bc\x7d/\x7bb\x7d\x7bb"
    let first : Keyed String := [("a", "\x7d")]
    let second : Keyed String := [("b", "v\x7d")]
    OpensNothing first ∧ OpensNothing second ∧ (∀ key, first.get? key = none ∨ second.get? key = none) ∧
      expand (expand template first) second = "/\x7d/\x7bb\x7bc\x7d/v\x7d\x7bb" ∧
      expand (expand template second) first = expand (expand template first) second := by
  intro template first second
  have opensFirst : OpensNothing first := by decide
  have opensSecond : OpensNothing second := by decide
  have apart (key : String) : first.get? key = none ∨ second.get? key = none := by
    by_cases same : key = "a" <;> simp [first, second, Keyed.get?, same]
  obtain ⟨staged, _, commutes⟩ := expand_in_stages template opensFirst second
  refine ⟨opensFirst, opensSecond, apart, ?_, (commutes opensSecond apart).symm⟩
  rw [staged]
  decide

end Template

end Endpoints
