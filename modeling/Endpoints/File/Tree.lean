import Endpoints.File.Path
import Endpoints.Text.Utf8

/-! Files, folders and links under one top folder. Entries stand in no order of their own; every one has a
place of its own, in a folder that is there. -/

namespace Endpoints

/-- The names that lead from the top folder to an entry. -/
abbrev Place := List String

/-- Whether a place does not come after another one. Names are compared from the top down. -/
def Place.upTo : Place → Place → Bool
  | [], _ => true
  | _ :: _, [] => false
  | name :: rest, other :: others => name < other || (name == other && Place.upTo rest others)

inductive Entry where
  | file (content : Bytes)
  | folder
  | link (target : FilePath)
  deriving DecidableEq, Repr

structure FileTree where
  entries : List (Place × Entry)
  distinct : (entries.map Prod.fst).Nodup
  rooted : ∀ held ∈ entries, held.1 ≠ [] ∧
    (held.1.dropLast = [] ∨ (held.1.dropLast, Entry.folder) ∈ entries)

namespace FileTree

def empty : FileTree := ⟨[], by simp, by simp⟩

def get? (tree : FileTree) (place : Place) : Option Entry :=
  if place = [] then some .folder
  else (tree.entries.find? (·.1 = place)).map Prod.snd

private theorem find?_of_mem {entries : List (Place × Entry)} {place : Place} {entry : Entry}
    (distinct : (entries.map Prod.fst).Nodup) (present : (place, entry) ∈ entries) :
    entries.find? (·.1 = place) = some (place, entry) := by
  induction entries with
  | nil => cases present
  | cons held rest ih =>
    simp only [List.map_cons, List.nodup_cons] at distinct
    rcases List.mem_cons.1 present with rfl | later
    · simp
    · have differs : held.1 ≠ place := fun same =>
        distinct.1 (List.mem_map.2 ⟨_, later, same.symm⟩)
      simp [differs, ih distinct.2 later]

theorem get?_eq_some_iff {tree : FileTree} {place : Place} {entry : Entry} (inside : place ≠ []) :
    tree.get? place = some entry ↔ (place, entry) ∈ tree.entries := by
  simp only [get?, inside, if_false, Option.map_eq_some_iff]
  constructor
  · rintro ⟨⟨other, held⟩, found, rfl⟩
    have same : other = place := by simpa using List.find?_some found
    exact same ▸ List.mem_of_find?_eq_some found
  · intro present
    exact ⟨_, find?_of_mem tree.distinct present, rfl⟩

/-- Whether something can be put at a place: it lies in a folder, and is itself none. -/
def MayHold (tree : FileTree) (place : Place) : Prop :=
  place ≠ [] ∧ tree.get? place.dropLast = some .folder ∧ tree.get? place ≠ some .folder

instance (tree : FileTree) (place : Place) : Decidable (tree.MayHold place) :=
  inferInstanceAs (Decidable (_ ∧ _ ∧ _))

def replaced (entries : List (Place × Entry)) (place : Place) (entry : Entry) : List (Place × Entry) :=
  entries.filter (·.1 ≠ place) ++ [(place, entry)]

private theorem mem_replaced {entries : List (Place × Entry)} {place other : Place} {entry held : Entry} :
    (other, held) ∈ replaced entries place entry ↔
      (other ≠ place ∧ (other, held) ∈ entries) ∨ (other = place ∧ held = entry) := by
  simp [replaced, and_comm]

private theorem nodup_replaced {entries : List (Place × Entry)} (place : Place) (entry : Entry)
    (distinct : (entries.map Prod.fst).Nodup) :
    ((replaced entries place entry).map Prod.fst).Nodup := by
  rw [replaced, List.map_append, List.nodup_append]
  refine ⟨distinct.sublist (List.filter_sublist.map _), by simp, ?_⟩
  intro other kept last isLast
  simp only [List.map_cons, List.map_nil, List.mem_singleton] at isLast
  obtain ⟨held, isHeld, rfl⟩ := List.mem_map.1 kept
  simpa [isLast] using (List.mem_filter.1 isHeld).2

private theorem rooted_replaced {tree : FileTree} {place : Place} (allowed : tree.MayHold place)
    (entry : Entry) : ∀ held ∈ replaced tree.entries place entry, held.1 ≠ [] ∧
      (held.1.dropLast = [] ∨ (held.1.dropLast, Entry.folder) ∈ replaced tree.entries place entry) := by
  obtain ⟨inside, inFolder, noFolder⟩ := allowed
  have stays : ∀ folder : Place, (folder, Entry.folder) ∈ tree.entries →
      (folder, Entry.folder) ∈ replaced tree.entries place entry := fun folder present => by
    refine mem_replaced.2 (.inl ⟨?_, present⟩)
    rintro rfl
    exact noFolder ((get?_eq_some_iff inside).2 present)
  rintro ⟨other, held⟩ present
  rcases mem_replaced.1 present with ⟨_, before⟩ | ⟨rfl, rfl⟩
  · obtain ⟨nonempty, parent⟩ := tree.rooted _ before
    exact ⟨nonempty, parent.imp_right (stays _)⟩
  · refine ⟨inside, ?_⟩
    by_cases top : other.dropLast = []
    · exact .inl top
    · exact .inr (stays _ ((get?_eq_some_iff top).1 inFolder))

/-- Puts a file, a folder or a link at a place, if something can be put there. -/
def put (tree : FileTree) (place : Place) (entry : Entry) : FileTree :=
  if allowed : tree.MayHold place then
    ⟨replaced tree.entries place entry, nodup_replaced _ _ tree.distinct, rooted_replaced allowed entry⟩
  else tree

private theorem rooted_removed (tree : FileTree) (place : Place) :
    ∀ held ∈ tree.entries.filter (fun held => ¬ place <+: held.1), held.1 ≠ [] ∧
      (held.1.dropLast = [] ∨
        (held.1.dropLast, Entry.folder) ∈ tree.entries.filter (fun held => ¬ place <+: held.1)) := by
  intro held present
  simp only [decide_not, List.mem_filter, Bool.not_eq_eq_eq_not, Bool.not_true,
    decide_eq_false_iff_not] at present ⊢
  obtain ⟨nonempty, parent⟩ := tree.rooted _ present.1
  exact ⟨nonempty, parent.imp_right fun found =>
    ⟨found, fun under => present.2 (under.trans (List.dropLast_prefix _))⟩⟩

def remove (tree : FileTree) (place : Place) : FileTree :=
  ⟨tree.entries.filter (fun held => ¬ place <+: held.1),
    tree.distinct.sublist (List.filter_sublist.map _), tree.rooted_removed place⟩

theorem get?_put_self {tree : FileTree} {place : Place} (allowed : tree.MayHold place) (entry : Entry) :
    (tree.put place entry).get? place = some entry := by
  rw [get?_eq_some_iff allowed.1, put, dif_pos allowed]
  exact mem_replaced.2 (.inr ⟨rfl, rfl⟩)

theorem get?_put_of_ne {place other : Place} (tree : FileTree) (differs : other ≠ place)
    (entry : Entry) : (tree.put place entry).get? other = tree.get? other := by
  by_cases allowed : tree.MayHold place
  · by_cases top : other = []
    · simp [get?, top]
    · refine Option.ext fun held => ?_
      rw [get?_eq_some_iff top, get?_eq_some_iff top, put, dif_pos allowed]
      exact mem_replaced.trans ⟨fun either => either.elim And.right fun same => absurd same.1 differs,
        fun present => .inl ⟨differs, present⟩⟩
  · rw [put, dif_neg allowed]

/-- The entries below a folder, under their names from there and in the order of the names. -/
def below (tree : FileTree) (folder : Place) : List (Place × Entry) :=
  (tree.entries.filterMap fun (place, entry) =>
    if folder <+: place ∧ place ≠ folder then some (place.drop folder.length, entry)
    else none).mergeSort
      fun first second => Place.upTo first.1 second.1

def leaves (tree : FileTree) : List Place :=
  tree.entries.filterMap fun (place, entry) => if entry = .folder then none else some place

end FileTree

end Endpoints
