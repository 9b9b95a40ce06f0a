import Endpoints.Proofs.FormRoundTrip

/-! What a form holds after any history of filling it. Whatever the way in which pairs came in, the form is that of
all of them in a row: their stable sort by key, and so no more than the values of each key in their order. -/

namespace Endpoints

/-- Pairs in the order of the bytes of their keys. Those of one key are in the order in which they were given. -/
structure Form.IsStableSort (pairs sorted : List (String × String)) : Prop where
  ascending : sorted.Pairwise fun earlier later => ¬ bytesOf later.1 < bytesOf earlier.1
  stable : ∀ key, sorted.filter (·.1 = key) = pairs.filter (·.1 = key)
  complete : sorted.Perm pairs

/-- A way in which pairs come into a form. Collecting them starts a new form. -/
inductive Filling where
  | add (key value : String)
  | extend (pairs : List (String × String))
  | collect (pairs : List (String × String))

namespace Filling

def fill (form : Form) : Filling → Form
  | .add key value => form.add key value
  | .extend pairs => form.extend pairs
  | .collect pairs => Form.ofPairs pairs

/-- The pairs that were added, behind those that were added before. -/
def record (before : List (String × String)) : Filling → List (String × String)
  | .add key value => before ++ [(key, value)]
  | .extend pairs => before ++ pairs
  | .collect pairs => pairs

def form (history : List Filling) : Form := history.foldl fill .empty

def inserted (history : List Filling) : List (String × String) := history.foldl record []

end Filling

namespace Form

theorem isStableSort_sorted (pairs : List (String × String)) : IsStableSort pairs (sorted pairs) where
  ascending := by
    apply (List.pairwise_mergeSort le_trans_key le_total_key pairs).imp
    intro earlier later ordered below
    exact String.not_le.mpr (bytesOf_lt_iff.mp below) (of_decide_eq_true ordered)
  stable := filter_sorted pairs
  complete := List.mergeSort_perm pairs _

/-- There is one stable sort. -/
theorem IsStableSort.eq {pairs first second : List (String × String)} (one : IsStableSort pairs first)
    (other : IsStableSort pairs second) : first = second := by
  have weakly {list : List (String × String)} (sorts : IsStableSort pairs list) :
      list.Pairwise fun earlier later => earlier.1 ≤ later.1 :=
    sorts.ascending.imp fun notBelow => String.not_lt.mp fun below => notBelow (bytesOf_lt_iff.mpr below)
  apply Keyed.eq_of_filter_eq (weakly one) (weakly other)
  intro key
  rw [one.stable, other.stable]

theorem ofPairs_append (first second : List (String × String)) :
    ofPairs (first ++ second) = (ofPairs first).extend second := extend_append empty first second

theorem form_eq_ofPairs (history : List Filling) : Filling.form history = ofPairs (Filling.inserted history) := by
  have step (before : List (String × String)) (filling : Filling) :
      filling.fill (ofPairs before) = ofPairs (filling.record before) := by
    cases filling with
    | add key value => exact (ofPairs_append before [(key, value)]).symm
    | extend pairs => exact (ofPairs_append before pairs).symm
    | collect pairs => rfl
  have run (before : List (String × String)) :
      history.foldl Filling.fill (ofPairs before) = ofPairs (history.foldl Filling.record before) := by
    induction history generalizing before with
    | nil => rfl
    | cons filling rest ih => rw [List.foldl_cons, List.foldl_cons, step, ih]
  exact run []

theorem ofPairs_eq_iff {first second : List (String × String)} :
    ofPairs first = ofPairs second ↔ ∀ key, first.filter (·.1 = key) = second.filter (·.1 = key) := by
  refine ⟨fun same key => ?_, ofPairs_congr⟩
  rw [← filter_sorted first, ← filter_sorted second, ← pairs_ofPairs, ← pairs_ofPairs, same]

theorem pairs_inj {first second : Form} : first.pairs = second.pairs ↔ first = second := by
  refine ⟨fun same => ?_, fun same => same ▸ rfl⟩
  rw [← ofPairs_pairs first, same, ofPairs_pairs]

theorem add_comm {first second : String} (different : first ≠ second) (form : Form) (value other : String) :
    (form.add first value).add second other = (form.add second other).add first value := by
  apply ext_valuesOf
  intro key
  simp only [valuesOf_add, List.append_assoc]
  by_cases one : first = key
  · have two : second ≠ key := fun same => different (one.trans same.symm)
    simp [one, two]
  · simp [one]

/-- A key is stored with its values, in the order in which they were added, just where there are any. -/
theorem mem_groups_ofPairs_iff {pairs : List (String × String)} {key : String} {values : List String} :
    (key, values) ∈ (ofPairs pairs).groups ↔
      values ≠ [] ∧ (pairs.filter (·.1 = key)).map (·.2) = values := by
  rw [(ofPairs pairs).ascending.mem_iff, get?_groups_eq_some_iff, valuesOf_ofPairs, and_comm]

end Form

namespace Filling

/-- What a history of filling a form comes to. -/
structure AmountsToPairs (history : List Filling) : Prop where
  /-- All pairs that were added, sorted by the bytes of their keys. -/
  sorted : Form.IsStableSort (inserted history) (form history).pairs
  /-- Nothing else is so sorted. -/
  only : ∀ pairs, Form.IsStableSort (inserted history) pairs → (form history).pairs = pairs
  /-- A key is stored just where it has a value. -/
  stored : ∀ key values, (key, values) ∈ (form history).groups ↔
    values ≠ [] ∧ ((inserted history).filter (·.1 = key)).map (·.2) = values
  /-- Two forms are the same just where each key was given the same values, and just where the pairs that they list
  or the texts that they are written as are the same. -/
  same : ∀ other : List Filling,
    (form history = form other ↔
      ∀ key, (inserted history).filter (·.1 = key) = (inserted other).filter (·.1 = key)) ∧
    (form history = form other ↔ (form history).pairs = (form other).pairs) ∧
    (form history = form other ↔ (form history).encode = (form other).encode)
  /-- Pairs of different keys may change places. -/
  commutes : ∀ key value other more later, key ≠ other →
    form (history ++ .add key value :: .add other more :: later) =
      form (history ++ .add other more :: .add key value :: later)
  /-- Pairs may be collected in parts. -/
  parts : ∀ first second later,
    form (history ++ .collect (first ++ second) :: later) =
      form (history ++ .collect first :: .extend second :: later)

/-- Whatever the way in which pairs come into a form, it is that of all of them in a row. -/
theorem history_amountsToPairs (history : List Filling) : AmountsToPairs history where
  sorted := by
    rw [Form.form_eq_ofPairs, Form.pairs_ofPairs]
    exact Form.isStableSort_sorted _
  only := by
    intro pairs sorts
    rw [Form.form_eq_ofPairs, Form.pairs_ofPairs]
    exact (Form.isStableSort_sorted _).eq sorts
  stored := by
    intro key values
    rw [Form.form_eq_ofPairs]
    exact Form.mem_groups_ofPairs_iff
  same := by
    intro other
    refine ⟨?_, Form.pairs_inj.symm, ?_⟩
    · rw [Form.form_eq_ofPairs, Form.form_eq_ofPairs]
      exact Form.ofPairs_eq_iff
    · exact ((Form.encode_lossless (form other)).2.2.1 (form history)).symm
  commutes := by
    intro key value other more later different
    simp only [form, List.foldl_append, List.foldl_cons]
    exact congrArg (later.foldl fill) (Form.add_comm different _ value more)
  parts := by
    intro first second later
    simp only [form, List.foldl_append, List.foldl_cons]
    exact congrArg (later.foldl fill) (Form.ofPairs_append first second)

example : (form [.collect [("tag", "b")], .add "size" "800", .extend [("tag", "a")]]).pairs =
    [("size", "800"), ("tag", "b"), ("tag", "a")] := by decide

end Filling

end Endpoints
