import Endpoints.Keyed

/-! Forms: values under keys, of which a key may have several. The keys ascend and the values of a key
stay in the order in which they were added. -/

namespace Endpoints

structure Form where
  /-- The values of each key. -/
  groups : Keyed (List String)
  ascending : groups.Ascending
  /-- A key that is there has a value. -/
  filled : ∀ group ∈ groups, group.2 ≠ []
  deriving DecidableEq

namespace Form

def valuesOf (form : Form) (key : String) : List String := (form.groups.get? key).getD []

def empty : Form := ⟨[], .nil, nofun⟩

def add (form : Form) (key value : String) : Form where
  groups := form.groups.put key (form.valuesOf key ++ [value])
  ascending := form.ascending.put key _
  filled := by
    intro group member
    rcases Keyed.mem_put member with rfl | held
    · simp
    · exact form.filled group held

def extend (form : Form) (pairs : List (String × String)) : Form :=
  pairs.foldl (fun form (key, value) => form.add key value) form

def ofPairs (pairs : List (String × String)) : Form := empty.extend pairs

def isEmpty (form : Form) : Bool := form.groups.isEmpty

def pairsOf (group : String × List String) : List (String × String) := group.2.map (group.1, ·)

def pairs (form : Form) : List (String × String) := form.groups.flatMap pairsOf

@[simp] theorem extend_nil (form : Form) : form.extend [] = form := rfl

theorem extend_append (form : Form) (first second : List (String × String)) :
    form.extend (first ++ second) = (form.extend first).extend second :=
  List.foldl_append

theorem isEmpty_add (form : Form) (key value : String) : (form.add key value).isEmpty = false :=
  Keyed.isEmpty_put key _ form.groups

theorem isEmpty_extend (form : Form) (pairs : List (String × String)) :
    (form.extend pairs).isEmpty = (pairs.isEmpty && form.isEmpty) := by
  induction pairs generalizing form with
  | nil => simp
  | cons pair rest ih =>
    have next : form.extend (pair :: rest) = (form.add pair.1 pair.2).extend rest := rfl
    simp [next, ih, isEmpty_add]

theorem isEmpty_ofPairs (pairs : List (String × String)) : (ofPairs pairs).isEmpty = pairs.isEmpty := by
  simp only [ofPairs, isEmpty_extend]
  exact Bool.and_true _

/-- There is a pair just where there is a key. -/
theorem pairs_eq_nil_iff {form : Form} : form.pairs = [] ↔ form.isEmpty = true := by
  rw [isEmpty, List.isEmpty_iff, pairs, List.flatMap_eq_nil_iff]
  constructor
  · intro nothing
    apply List.eq_nil_iff_forall_not_mem.mpr
    intro group member
    exact form.filled group member (List.map_eq_nil_iff.mp (nothing group member))
  · intro none group member
    simp [none] at member

end Form

end Endpoints
