import Mathlib.Data.List.Forall2

/-! Chains of checks in `Except`: a chain succeeds exactly when every check in it does. -/

namespace Endpoints.Checks

variable {ε α β : Type}

@[simp] theorem bind_eq_ok_iff {first : Except ε α} {next : α → Except ε β} {result : β} :
    (first >>= next) = .ok result ↔ ∃ value, first = .ok value ∧ next value = .ok result := by
  cases first <;> simp [bind, Except.bind]

@[simp] theorem pure_eq_ok_iff {value result : α} :
    (pure value : Except ε α) = .ok result ↔ value = result := by
  simp [pure, Except.pure]

@[simp] theorem map_eq_ok_iff {first : Except ε α} {change : α → β} {result : β} :
    first.map change = .ok result ↔ ∃ value, first = .ok value ∧ change value = result := by
  cases first <;> simp [Except.map]

@[simp] theorem functor_map_eq_ok_iff {first : Except ε α} {change : α → β} {result : β} :
    change <$> first = .ok result ↔ ∃ value, first = .ok value ∧ change value = result :=
  map_eq_ok_iff

@[simp] theorem mapError_eq_ok_iff {δ : Type} {first : Except ε α} {change : ε → δ} {result : α} :
    first.mapError change = .ok result ↔ first = .ok result := by
  cases first <;> simp [Except.mapError]

@[simp] theorem throw_eq_error {error : ε} : (throw error : Except ε α) = .error error := rfl

@[simp] theorem error_bind {error : ε} {next : α → Except ε β} :
    (Except.error error >>= next) = .error error := rfl

instance decidableEqError [DecidableEq ε] (first : Except ε α) (error : ε) : Decidable (first = .error error) :=
  match first with
  | .ok _ => .isFalse nofun
  | .error found => decidable_of_iff (found = error) ⟨congrArg _, Except.error.inj⟩

theorem exists_ok_of_toOption (first : Except ε α) (property : α → Prop) [DecidablePred property]
    (found : (first.toOption.any fun result => decide (property result)) = true) :
    ∃ result, first = .ok result ∧ property result := by
  cases first with
  | error error => cases found
  | ok result => exact ⟨result, rfl, of_decide_eq_true found⟩

@[simp] theorem refuse_eq_ok_iff {condition : Prop} [Decidable condition] {error : ε}
    {otherwise : Except ε α} {result : α} :
    (if condition then .error error else otherwise) = .ok result ↔
      ¬ condition ∧ otherwise = .ok result := by
  by_cases refused : condition <;> simp [refused]

@[simp] theorem require_eq_ok_iff {condition : Prop} [Decidable condition] {error : ε}
    {next : Except ε α} {result : α} :
    (if condition then next else .error error) = .ok result ↔ condition ∧ next = .ok result := by
  by_cases granted : condition <;> simp [granted]

theorem mapM_eq_ok_iff {check : α → Except ε β} {items : List α} {results : List β} :
    items.mapM check = .ok results ↔
      List.Forall₂ (fun item result => check item = .ok result) items results := by
  induction items generalizing results with
  | nil =>
    simp only [List.mapM_nil, pure_eq_ok_iff, List.forall₂_nil_left_iff]
    exact eq_comm
  | cons item rest ih =>
    simp only [List.mapM_cons, bind_eq_ok_iff, pure_eq_ok_iff, List.forall₂_cons_left_iff]
    constructor
    · rintro ⟨result, passed, others, passedRest, rfl⟩
      exact ⟨result, others, passed, ih.mp passedRest, rfl⟩
    · rintro ⟨result, others, passed, passedRest, rfl⟩
      exact ⟨result, passed, others, ih.mpr passedRest, rfl⟩

theorem mapM_eq_some_iff {choose : α → Option β} {items : List α} {results : List β} :
    items.mapM choose = some results ↔
      List.Forall₂ (fun item result => choose item = some result) items results := by
  induction items generalizing results with
  | nil =>
    simp only [List.mapM_nil, Option.pure_def, Option.some.injEq, List.forall₂_nil_left_iff]
    exact eq_comm
  | cons item rest ih =>
    simp only [List.mapM_cons, Option.bind_eq_bind, Option.pure_def, Option.bind_eq_some_iff,
      Option.some.injEq, List.forall₂_cons_left_iff]
    constructor
    · rintro ⟨result, chosen, others, chosenRest, rfl⟩
      exact ⟨result, others, chosen, ih.mp chosenRest, rfl⟩
    · rintro ⟨result, others, chosen, chosenRest, rfl⟩
      exact ⟨result, chosen, others, ih.mpr chosenRest, rfl⟩

theorem toOption_eq_some_iff {first : Except ε α} {result : α} :
    first.toOption = some result ↔ first = .ok result := by
  cases first <;> simp [Except.toOption]

theorem toOption_mapM (check : α → Except ε β) (items : List α) :
    (items.mapM check).toOption = items.mapM fun item => (check item).toOption := by
  induction items with
  | nil => rfl
  | cons item rest ih =>
    rw [List.mapM_cons, List.mapM_cons, ← ih]
    cases check item with
    | error _ => rfl
    | ok _ => cases rest.mapM check <;> rfl

theorem mapM_bind {γ : Type} (first : α → Option β) (second : β → Option γ) (items : List α) :
    (items.mapM fun item => (first item).bind second) = (items.mapM first).bind fun found => found.mapM second := by
  induction items with
  | nil => rfl
  | cons item rest ih =>
    rw [List.mapM_cons, List.mapM_cons, ih]
    cases first item with
    | none => rfl
    | some found =>
      rw [Option.bind_some]
      cases rest.mapM first with
      | none => cases second found <;> rfl
      | some others => exact List.mapM_cons.symm

theorem exists_of_mem_forall₂ {relation : α → β → Prop} {items : List α} {results : List β} {result : β}
    (related : List.Forall₂ relation items results) (member : result ∈ results) :
    ∃ item ∈ items, relation item result := by
  induction related with
  | nil => cases member
  | cons first _ ih =>
    rcases List.mem_cons.mp member with rfl | among
    · exact ⟨_, List.mem_cons_self, first⟩
    · obtain ⟨item, inside, holds⟩ := ih among
      exact ⟨item, List.mem_cons_of_mem _ inside, holds⟩

theorem forall₂_comp_iff {γ : Type} {relation : α → β → Prop} {next : β → γ → Prop} {items : List α}
    {results : List γ} :
    List.Forall₂ (fun item result => ∃ value, relation item value ∧ next value result) items results ↔
      ∃ values, List.Forall₂ relation items values ∧ List.Forall₂ next values results := by
  constructor
  · intro chosen
    induction chosen with
    | nil => exact ⟨[], .nil, .nil⟩
    | cons first _ ih =>
      obtain ⟨value, related, follows⟩ := first
      obtain ⟨values, others, otherwise⟩ := ih
      exact ⟨value :: values, .cons related others, .cons follows otherwise⟩
  · rintro ⟨values, related, follows⟩
    induction related generalizing results with
    | nil =>
      obtain rfl := List.forall₂_nil_left_iff.mp follows
      exact .nil
    | cons first _ ih =>
      obtain ⟨result, others, next, nextOthers, rfl⟩ := List.forall₂_cons_left_iff.mp follows
      exact .cons ⟨_, first, next⟩ (ih nextOthers)

theorem forall₂_exists_iff {γ : Type} {relation : α → β → Prop} {change : β → γ} {items : List α}
    {results : List γ} :
    List.Forall₂ (fun item result => ∃ value, relation item value ∧ change value = result) items results ↔
      ∃ values, List.Forall₂ relation items values ∧ values.map change = results := by
  have same (values : List β) :
      List.Forall₂ (fun value result => change value = result) values results ↔ values.map change = results := by
    rw [← List.forall₂_map_left_iff, List.forall₂_eq_eq_eq]
  simp only [forall₂_comp_iff, same]

theorem ok_bind {value : α} {next : α → Except ε β} : (Except.ok value >>= next) = next value := rfl

theorem bind_eq_error_iff {first : Except ε α} {next : α → Except ε β} {error : ε} :
    (first >>= next) = .error error ↔
      first = .error error ∨ ∃ value, first = .ok value ∧ next value = .error error := by
  cases first <;> simp [bind, Except.bind]

@[simp] theorem pure_ne_error {value : α} {error : ε} : (pure value : Except ε α) ≠ .error error := nofun

theorem exists_ok_iff {first : Except ε α} : (∃ value, first = .ok value) ↔ ∀ error, first ≠ .error error := by
  cases first <;> simp

theorem refuse_eq_error_iff {condition : Prop} [Decidable condition] {error found : ε}
    {otherwise : Except ε α} :
    (if condition then .error error else otherwise) = .error found ↔
      condition ∧ error = found ∨ ¬ condition ∧ otherwise = .error found := by
  by_cases refused : condition <;> simp [refused]

/-- No item is at fault, each being judged with those before it. -/
def Faultless (fault : List α → α → ε → Prop) (items : List α) : Prop :=
  ∀ before item after, items = before ++ item :: after → ∀ error, ¬ fault before item error

/-- The error of the first item that is at fault. -/
def FirstOf (fault : List α → α → ε → Prop) (items : List α) (error : ε) : Prop :=
  ∃ before item after, items = before ++ item :: after ∧ Faultless fault before ∧ fault before item error

section

variable {fault : List α → α → ε → Prop} {item : α} {rest : List α} {error : ε}

theorem faultless_nil : Faultless fault [] := by
  intro before item after same
  cases before <;> cases same

theorem faultless_cons_iff :
    Faultless fault (item :: rest) ↔
      (∀ error, ¬ fault [] item error) ∧ Faultless (fun before => fault (item :: before)) rest := by
  constructor
  · intro faultless
    exact ⟨faultless [] item rest rfl, fun before other after same =>
      faultless (item :: before) other after (by rw [same, List.cons_append])⟩
  · rintro ⟨first, others⟩ before other after same
    rcases List.cons_eq_append_iff.mp same with ⟨rfl, same⟩ | ⟨before, rfl, rfl⟩
    · cases same
      exact first
    · exact others before other after rfl

theorem not_firstOf_nil : ¬ FirstOf fault [] error := by
  rintro ⟨before, item, after, same, _⟩
  cases before <;> cases same

theorem firstOf_cons_iff :
    FirstOf fault (item :: rest) error ↔
      fault [] item error ∨
        (∀ error, ¬ fault [] item error) ∧ FirstOf (fun before => fault (item :: before)) rest error := by
  constructor
  · rintro ⟨before, other, after, same, faultless, found⟩
    rcases List.cons_eq_append_iff.mp same with ⟨rfl, same⟩ | ⟨before, rfl, rfl⟩
    · cases same
      exact .inl found
    · obtain ⟨first, others⟩ := faultless_cons_iff.mp faultless
      exact .inr ⟨first, before, other, after, rfl, others, found⟩
  · rintro (found | ⟨first, before, other, after, rfl, others, found⟩)
    · exact ⟨[], item, rest, rfl, faultless_nil, found⟩
    · exact ⟨item :: before, other, after, rfl, faultless_cons_iff.mpr ⟨first, others⟩, found⟩

theorem faultless_iff {items : List α} : Faultless fault items ↔ ∀ error, ¬ FirstOf fault items error := by
  induction items generalizing fault with
  | nil => exact iff_of_true faultless_nil fun _ => not_firstOf_nil
  | cons item rest ih =>
    rw [faultless_cons_iff, ih]
    simp only [firstOf_cons_iff, not_or, not_and]
    exact ⟨fun ⟨first, others⟩ error => ⟨first error, fun _ => others error⟩,
      fun none => ⟨fun error => (none error).1, fun error => (none error).2 fun other => (none other).1⟩⟩

theorem faultless_const_iff {fault : α → ε → Prop} {items : List α} :
    Faultless (fun _ => fault) items ↔ ∀ item ∈ items, ∀ error, ¬ fault item error := by
  constructor
  · intro faultless item member
    obtain ⟨before, after, split⟩ := List.append_of_mem member
    exact faultless before item after split
  · rintro each before item after rfl
    exact each item (List.mem_append_right _ List.mem_cons_self)

end

theorem mapM_eq_error_iff {check : α → Except ε β} {items : List α} {error : ε} :
    items.mapM check = .error error ↔ FirstOf (fun _ item error => check item = .error error) items error := by
  induction items with
  | nil => exact iff_of_false nofun not_firstOf_nil
  | cons item rest ih =>
    rw [List.mapM_cons, bind_eq_error_iff, firstOf_cons_iff]
    simp only [bind_eq_error_iff, ih]
    cases check item with
    | error found => simp
    | ok value => simp [pure, Except.pure]

end Endpoints.Checks
