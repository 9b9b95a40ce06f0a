import Endpoints.Form.Basic
import Mathlib.Data.List.Basic
import Mathlib.Data.List.Pairwise

/-! What lists of values under keys hold. Where the keys ascend, the values under each key say all, so forms
hold the pairs that are added to them in the order of their keys. -/

namespace Endpoints

theorem Keyed.eq_of_filter_eq {α : Type} {first second : List (String × α)}
    (firstAscends : first.Pairwise fun earlier later => earlier.1 ≤ later.1)
    (secondAscends : second.Pairwise fun earlier later => earlier.1 ≤ later.1)
    (same : ∀ key, first.filter (·.1 = key) = second.filter (·.1 = key)) : first = second := by
  induction first generalizing second with
  | nil =>
    cases second with
    | nil => rfl
    | cons entry rest => simpa using same entry.1
  | cons entry rest ih =>
    cases second with
    | nil => simpa using same entry.1
    | cons other others =>
      rw [List.pairwise_cons] at firstAscends secondAscends
      -- Each of the two first keys occurs in the other list, where nothing lies below the first key.
      have foundSecond : entry ∈ (other :: others).filter (·.1 = entry.1) := by simp [← same entry.1]
      have foundFirst : other ∈ (entry :: rest).filter (·.1 = other.1) := by simp [same other.1]
      have upper : other.1 ≤ entry.1 := by
        rcases List.mem_cons.mp (List.mem_of_mem_filter foundSecond) with rfl | later
        · exact String.le_refl _
        · exact secondAscends.1 _ later
      have lower : entry.1 ≤ other.1 := by
        rcases List.mem_cons.mp (List.mem_of_mem_filter foundFirst) with rfl | later
        · exact String.le_refl _
        · exact firstAscends.1 _ later
      have key : entry.1 = other.1 := String.le_antisymm lower upper
      have heads := same entry.1
      rw [List.filter_cons_of_pos (by simp), List.filter_cons_of_pos (by simp [key])] at heads
      obtain ⟨rfl, _⟩ := List.cons.inj heads
      apply congrArg (entry :: ·)
      apply ih firstAscends.2 secondAscends.2
      intro other
      have filtered := same other
      by_cases here : entry.1 = other
      · rw [List.filter_cons_of_pos (by simpa using here), List.filter_cons_of_pos (by simpa using here)]
          at filtered
        exact (List.cons.inj filtered).2
      · rwa [List.filter_cons_of_neg (by simpa using here), List.filter_cons_of_neg (by simpa using here)]
          at filtered

namespace Keyed

variable {α : Type}

theorem ascending_ofList (entries : List (String × α)) : Ascending (ofList entries) := by
  have stored (entries : List (String × α)) (keyed : Keyed α) (ascends : keyed.Ascending) :
      Ascending (entries.foldl (fun keyed entry => keyed.put entry.1 entry.2) keyed) := by
    induction entries generalizing keyed with
    | nil => exact ascends
    | cons entry rest ih => exact ih _ (ascends.put entry.1 entry.2)
  exact stored entries [] .nil

theorem Ascending.filter_eq {keyed : Keyed α} (ascends : keyed.Ascending) (key : String) :
    keyed.filter (·.1 = key) = ((keyed.get? key).map (key, ·)).toList := by
  induction keyed with
  | nil => rfl
  | cons first rest ih =>
    obtain ⟨other, held⟩ := first
    obtain ⟨above, restAscends⟩ := List.pairwise_cons.mp ascends
    by_cases here : key = other
    · subst here
      have none : rest.filter (·.1 = key) = [] := by
        apply List.filter_eq_nil_iff.mpr
        intro entry member same
        have greater := above entry member
        simp only [decide_eq_true_eq] at same
        exact String.lt_irrefl _ (same ▸ greater)
      simp [get?, none]
    · simp [get?, here, Ne.symm here, ih restAscends]

theorem Ascending.mem_iff {keyed : Keyed α} (ascends : keyed.Ascending) {key : String} {value : α} :
    (key, value) ∈ keyed ↔ keyed.get? key = some value := by
  have filtered : (key, value) ∈ keyed ↔ (key, value) ∈ keyed.filter (·.1 = key) := by simp
  rw [filtered, ascends.filter_eq]
  simp

theorem mem_ofList_iff {entries : List (String × α)} {key : String} {value : α} :
    (key, value) ∈ ofList entries ↔ ((entries.filter (·.1 = key)).getLast?).map (·.2) = some value := by
  rw [(ascending_ofList entries).mem_iff, get?_ofList]

theorem Ascending.ext {first second : Keyed α} (firstAscends : first.Ascending)
    (secondAscends : second.Ascending) (same : ∀ key, first.get? key = second.get? key) :
    first = second := by
  have weakly {keyed : Keyed α} (ascends : keyed.Ascending) :
      keyed.Pairwise fun earlier later => earlier.1 ≤ later.1 :=
    ascends.imp fun less => String.not_lt.mp (String.lt_asymm less)
  apply eq_of_filter_eq (weakly firstAscends) (weakly secondAscends)
  intro key
  rw [firstAscends.filter_eq, secondAscends.filter_eq, same]

theorem map_filter (entries : List (String × α)) (key : String) :
    ((entries.filter (·.1 = key)).map (·.2)).map (key, ·) = entries.filter (·.1 = key) := by
  rw [List.map_map]
  refine Eq.trans ?_ (List.map_id _)
  apply List.map_congr_left
  intro entry member
  have same : entry.1 = key := by simpa using (List.mem_filter.mp member).2
  exact Prod.ext same.symm rfl

end Keyed

namespace Form

theorem filter_pairsOf (group : String × List String) (key : String) :
    (pairsOf group).filter (·.1 = key) = if group.1 = key then pairsOf group else [] := by
  unfold pairsOf
  by_cases same : group.1 = key
  · rw [if_pos same]
    exact List.filter_eq_self.mpr (by simp [same])
  · rw [if_neg same]
    exact List.filter_eq_nil_iff.mpr (by simp [same])

theorem filter_pairs (form : Form) (key : String) :
    form.pairs.filter (·.1 = key) = (form.valuesOf key).map (key, ·) := by
  have grouped : form.pairs.filter (·.1 = key) = (form.groups.filter (·.1 = key)).flatMap pairsOf := by
    unfold pairs
    induction form.groups with
    | nil => rfl
    | cons group rest ih =>
      rw [List.flatMap_cons, List.filter_append, filter_pairsOf, ih]
      by_cases same : group.1 = key <;> simp [same]
  rw [grouped, form.ascending.filter_eq, valuesOf]
  cases form.groups.get? key <;> simp [pairsOf]

theorem ascending_pairs (form : Form) : form.pairs.Pairwise fun earlier later => earlier.1 ≤ later.1 := by
  rw [pairs, List.pairwise_flatMap]
  constructor
  · intro group _
    rw [pairsOf, List.pairwise_map]
    exact List.pairwise_of_forall fun _ _ => String.le_refl _
  · apply form.ascending.imp
    intro earlier later less first among second other
    obtain ⟨_, _, rfl⟩ := List.mem_map.mp among
    obtain ⟨_, _, rfl⟩ := List.mem_map.mp other
    exact String.not_lt.mp (String.lt_asymm less)

theorem get?_groups_eq_some_iff {form : Form} {key : String} {values : List String} :
    form.groups.get? key = some values ↔ form.valuesOf key = values ∧ values ≠ [] := by
  constructor
  · intro found
    have member := form.ascending.mem_iff.mpr found
    exact ⟨by rw [valuesOf, found, Option.getD_some], form.filled _ member⟩
  · rintro ⟨rfl, some⟩
    unfold valuesOf at some ⊢
    cases found : form.groups.get? key with
    | none => simp [found] at some
    | some values => rfl

theorem ext_valuesOf {first second : Form} (same : ∀ key, first.valuesOf key = second.valuesOf key) :
    first = second := by
  have groups : first.groups = second.groups := by
    apply first.ascending.ext second.ascending
    intro key
    apply Option.ext
    intro values
    rw [get?_groups_eq_some_iff, get?_groups_eq_some_iff, same]
  cases first
  cases second
  cases groups
  rfl

theorem valuesOf_add (form : Form) (key value other : String) :
    (form.add key value).valuesOf other = form.valuesOf other ++ if key = other then [value] else [] := by
  by_cases same : key = other
  · subst same
    simp [valuesOf, add]
  · simp [valuesOf, add, Keyed.get?_put_of_ne (Ne.symm same), same]

theorem valuesOf_extend (form : Form) (pairs : List (String × String)) (key : String) :
    (form.extend pairs).valuesOf key = form.valuesOf key ++ (pairs.filter (·.1 = key)).map (·.2) := by
  induction pairs generalizing form with
  | nil => simp
  | cons pair rest ih =>
    have next : form.extend (pair :: rest) = (form.add pair.1 pair.2).extend rest := rfl
    rw [next, ih, valuesOf_add]
    by_cases same : pair.1 = key <;> simp [same]

theorem valuesOf_ofPairs (pairs : List (String × String)) (key : String) :
    (ofPairs pairs).valuesOf key = (pairs.filter (·.1 = key)).map (·.2) :=
  valuesOf_extend empty pairs key

theorem ofPairs_congr {first second : List (String × String)}
    (same : ∀ key, first.filter (·.1 = key) = second.filter (·.1 = key)) :
    ofPairs first = ofPairs second := by
  apply ext_valuesOf
  intro key
  rw [valuesOf_ofPairs, valuesOf_ofPairs, same]

theorem ofPairs_pairs (form : Form) : ofPairs form.pairs = form := by
  apply ext_valuesOf
  intro key
  rw [valuesOf_ofPairs, filter_pairs, List.map_map]
  exact List.map_id _

end Form

def Form.sorted (pairs : List (String × String)) : List (String × String) :=
  pairs.mergeSort fun first second => decide (first.1 ≤ second.1)

namespace Form

theorem le_trans_key (first second third : String × String) (lower : decide (first.1 ≤ second.1) = true)
    (upper : decide (second.1 ≤ third.1) = true) : decide (first.1 ≤ third.1) = true :=
  decide_eq_true (String.le_trans (of_decide_eq_true lower) (of_decide_eq_true upper))

theorem le_total_key (first second : String × String) :
    (decide (first.1 ≤ second.1) || decide (second.1 ≤ first.1)) = true := by
  rcases String.le_total first.1 second.1 with lower | upper
  · simp [lower]
  · simp [upper]

theorem filter_sorted (pairs : List (String × String)) (key : String) :
    (sorted pairs).filter (·.1 = key) = pairs.filter (·.1 = key) := by
  have level : (pairs.filter (·.1 = key)).Pairwise fun first second => decide (first.1 ≤ second.1) = true := by
    apply List.pairwise_of_forall_mem_list
    intro first among second other
    have same : first.1 = second.1 := by simp_all
    rw [same]
    exact decide_eq_true (String.le_refl _)
  have kept : (pairs.filter (·.1 = key)).Sublist (sorted pairs) :=
    List.sublist_mergeSort le_trans_key le_total_key level List.filter_sublist
  have inside : (pairs.filter (·.1 = key)).Sublist ((sorted pairs).filter (·.1 = key)) := by
    simpa using kept.filter (·.1 = key)
  have length : ((sorted pairs).filter (·.1 = key)).length = (pairs.filter (·.1 = key)).length :=
    ((List.mergeSort_perm pairs _).filter _).length_eq
  exact (inside.eq_of_length length.symm).symm

theorem pairs_ofPairs (pairs : List (String × String)) : (ofPairs pairs).pairs = sorted pairs := by
  have ascends : (sorted pairs).Pairwise fun earlier later => earlier.1 ≤ later.1 :=
    (List.pairwise_mergeSort le_trans_key le_total_key pairs).imp of_decide_eq_true
  apply Keyed.eq_of_filter_eq (ofPairs pairs).ascending_pairs ascends
  intro key
  rw [filter_pairs, valuesOf_ofPairs, Keyed.map_filter, filter_sorted]

end Form

end Endpoints
