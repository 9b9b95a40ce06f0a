/-! Lists of values under text keys, in ascending order of the keys and with one value for a key. -/

namespace Endpoints

abbrev Keyed (α : Type) := List (String × α)

namespace Keyed

variable {α : Type}

/-- Stores a value under a key, in place of the value that the key had. -/
def put (key : String) (value : α) : Keyed α → Keyed α
  | [] => [(key, value)]
  | (other, held) :: rest =>
    if key < other then (key, value) :: (other, held) :: rest
    else if key = other then (key, value) :: rest
    else (other, held) :: put key value rest

def get? (key : String) : Keyed α → Option α
  | [] => none
  | (other, held) :: rest => if key = other then some held else get? key rest

def ofList (entries : List (String × α)) : Keyed α :=
  entries.foldl (fun keyed (key, value) => keyed.put key value) []

/-- The keys ascend, so that each has one value. -/
def Ascending (keyed : Keyed α) : Prop := keyed.Pairwise fun earlier later => earlier.1 < later.1

theorem mem_put {key : String} {value : α} {keyed : Keyed α} {entry : String × α}
    (member : entry ∈ keyed.put key value) : entry = (key, value) ∨ entry ∈ keyed := by
  induction keyed with
  | nil => simpa [put] using member
  | cons first rest ih =>
    simp only [put] at member
    split at member
    · simpa using member
    · split at member
      · rcases List.mem_cons.mp member with rfl | later
        · exact .inl rfl
        · exact .inr (List.mem_cons_of_mem _ later)
      · rcases List.mem_cons.mp member with rfl | later
        · exact .inr List.mem_cons_self
        · exact (ih later).imp_right (List.mem_cons_of_mem _)

theorem Ascending.put {keyed : Keyed α} (ascends : keyed.Ascending) (key : String) (value : α) :
    Ascending (keyed.put key value) := by
  induction keyed with
  | nil => simp [Keyed.put, Ascending]
  | cons first rest ih =>
    obtain ⟨other, held⟩ := first
    obtain ⟨above, restAscends⟩ := List.pairwise_cons.mp ascends
    simp only [Keyed.put]
    split
    · next smaller =>
      refine List.pairwise_cons.mpr ⟨fun entry member => ?_, ascends⟩
      rcases List.mem_cons.mp member with rfl | later
      · exact smaller
      · exact String.lt_trans smaller (above entry later)
    · next notSmaller =>
      split
      · next equal =>
        subst equal
        exact List.pairwise_cons.mpr ⟨above, restAscends⟩
      · next different =>
        have greater : other < key :=
          String.not_le.mp fun below => different (String.le_antisymm below (String.not_lt.mp notSmaller))
        refine List.pairwise_cons.mpr ⟨fun entry member => ?_, ih restAscends⟩
        rcases mem_put member with rfl | later
        · exact greater
        · exact above entry later

@[simp] theorem get?_put_self (key : String) (value : α) (keyed : Keyed α) :
    (keyed.put key value).get? key = some value := by
  induction keyed with
  | nil => simp [put, get?]
  | cons entry rest ih =>
    obtain ⟨other, held⟩ := entry
    simp only [put]
    split
    · simp [get?]
    · split
      · simp [get?]
      · next different => simp [get?, different, ih]

theorem get?_put_of_ne {key other : String} (different : other ≠ key) (value : α) (keyed : Keyed α) :
    (keyed.put key value).get? other = keyed.get? other := by
  induction keyed with
  | nil => simp [put, get?, different]
  | cons entry rest ih =>
    obtain ⟨first, held⟩ := entry
    simp only [put]
    split
    · simp [get?, different]
    · split
      · next same => subst same; simp [get?, different]
      · simp [get?, ih]

theorem isEmpty_put (key : String) (value : α) (keyed : Keyed α) :
    (keyed.put key value).isEmpty = false := by
  cases keyed with
  | nil => rfl
  | cons entry rest =>
    simp only [put]
    split
    · rfl
    · split <;> rfl

theorem isEmpty_ofList (entries : List (String × α)) :
    (ofList entries).isEmpty = entries.isEmpty := by
  have stored (entries : List (String × α)) (keyed : Keyed α) :
      (entries.foldl (fun keyed (key, value) => keyed.put key value) keyed).isEmpty =
        (entries.isEmpty && keyed.isEmpty) := by
    induction entries generalizing keyed with
    | nil => simp
    | cons entry rest ih => simp [ih, isEmpty_put]
  simpa [ofList] using stored entries []

theorem get?_ofList (entries : List (String × α)) (key : String) :
    (ofList entries).get? key = ((entries.filter (·.1 = key)).getLast?).map (·.2) := by
  have stored (entries : List (String × α)) (keyed : Keyed α) :
      (entries.foldl (fun keyed (key, value) => keyed.put key value) keyed).get? key =
        (((entries.filter (·.1 = key)).getLast?).map (·.2)).or (keyed.get? key) := by
    induction entries generalizing keyed with
    | nil => rfl
    | cons entry rest ih =>
      simp only [List.foldl_cons, ih]
      by_cases same : entry.1 = key
      · subst same
        rw [get?_put_self, List.filter_cons_of_pos (by simp), List.getLast?_cons]
        cases List.getLast? _ <;> rfl
      · rw [get?_put_of_ne (Ne.symm same), List.filter_cons_of_neg (by simpa using same)]
  simpa [ofList, get?] using stored entries []

end Keyed

end Endpoints
