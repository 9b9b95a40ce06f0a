import Mathlib.Data.Finset.Sort
import Mathlib.Data.String.Basic
import Endpoints.Proofs.OutputFrame

/-! Walks through the folders of a tree without links. A walk takes the names in each folder in an order of
its own, and comes across every file below just once. The files that a tree lists are those of the walk that
takes all names in their order. -/

namespace Endpoints

namespace Place

end Place

namespace FileTree

def HasFile (tree : FileTree) (place : Place) : Prop := ∃ content, tree.get? place = some (.file content)

/-- The names in a folder, each once and in any order. -/
structure Names (tree : FileTree) (folder : Place) (names : List String) : Prop where
  distinct : names.Nodup
  complete : ∀ name, name ∈ names ↔ (tree.get? (folder ++ [name])).isSome

/-- A walk takes some names in a folder one after another. From a name that leads to a folder it goes on with
all names there, in some order. -/
inductive Walk (tree : FileTree) : Place → List String → List Place → Prop where
  | nil {folder} : Walk tree folder [] []
  | file {folder name rest found} (held : tree.HasFile (folder ++ [name]))
      (others : Walk tree folder rest found) : Walk tree folder (name :: rest) ([name] :: found)
  | folder {folder name inside below rest found} (held : tree.get? (folder ++ [name]) = some .folder)
      (names : tree.Names (folder ++ [name]) inside) (within : Walk tree (folder ++ [name]) inside below)
      (others : Walk tree folder rest found) :
      Walk tree folder (name :: rest) (below.map (name :: ·) ++ found)

section
variable {tree : FileTree} {folder : Place} {names : List String} {found : List Place}

theorem HasFile.isSome {place : Place} (held : tree.HasFile place) : (tree.get? place).isSome := by
  obtain ⟨content, same⟩ := held
  simp [same]

theorem get?_of_below {place more : Place} (held : (tree.get? (place ++ more)).isSome) (inward : more ≠ []) :
    tree.get? place = some .folder := by
  induction more using List.reverseRecOn with
  | nil => exact absurd rfl inward
  | append_singleton outer name ih =>
    obtain ⟨entry, same⟩ := Option.isSome_iff_exists.mp held
    have around : tree.get? (place ++ outer) = some .folder := by
      simpa [← List.append_assoc] using get?_dropLast same
    by_cases last : outer = []
    · simpa [last] using around
    · exact ih (by simp [around]) last

theorem isSome_of_below {name : String} {rest : Place} (held : tree.HasFile (folder ++ name :: rest)) :
    (tree.get? (folder ++ [name])).isSome := by
  rcases rest with _ | ⟨next, more⟩
  · exact held.isSome
  · have around : tree.get? (folder ++ [name]) = some .folder :=
      get?_of_below (by simpa using held.isSome) (List.cons_ne_nil next more)
    simp [around]

/-- A walk comes across the files below the names that it takes, and no others. -/
theorem Walk.mem_iff (walk : tree.Walk folder names found) (place : Place) :
    place ∈ found ↔ (∃ name ∈ names, place.head? = some name) ∧ tree.HasFile (folder ++ place) := by
  induction walk generalizing place with
  | nil => simp
  | @file folder name rest found held others ih =>
    rw [List.mem_cons, ih]
    constructor
    · rintro (rfl | ⟨⟨other, among, first⟩, below⟩)
      · exact ⟨⟨name, List.mem_cons_self, rfl⟩, held⟩
      · exact ⟨⟨other, List.mem_cons_of_mem _ among, first⟩, below⟩
    · rintro ⟨⟨other, among, first⟩, below⟩
      rcases List.mem_cons.mp among with rfl | later
      · obtain ⟨more, rfl⟩ := List.head?_eq_some_iff.mp first
        -- Nothing lies below a file.
        have last : more = [] := by
          by_contra inward
          obtain ⟨_, same⟩ := held
          have around : tree.get? (folder ++ [other]) = some .folder :=
            get?_of_below (by simpa using below.isSome) inward
          simp [same] at around
        exact .inl (by rw [last])
      · exact .inr ⟨⟨other, later, first⟩, below⟩
  | @folder folder name inside below rest found held names within others ihWithin ih =>
    rw [List.mem_append, List.mem_map, ih]
    constructor
    · rintro (⟨more, among, rfl⟩ | ⟨⟨other, among, first⟩, file⟩)
      · exact ⟨⟨name, List.mem_cons_self, rfl⟩, by simpa using ((ihWithin more).mp among).2⟩
      · exact ⟨⟨other, List.mem_cons_of_mem _ among, first⟩, file⟩
    · rintro ⟨⟨other, among, first⟩, file⟩
      rcases List.mem_cons.mp among with rfl | later
      · obtain ⟨more, rfl⟩ := List.head?_eq_some_iff.mp first
        have file : tree.HasFile (folder ++ [other] ++ more) := by simpa using file
        rcases more with _ | ⟨next, more⟩
        · obtain ⟨_, same⟩ := file
          simp [held] at same
        · have listed := (names.complete next).mpr (isSome_of_below file)
          exact .inl ⟨next :: more, (ihWithin _).mpr ⟨⟨next, listed, rfl⟩, file⟩, rfl⟩
      · exact .inr ⟨⟨other, later, first⟩, file⟩

end

/-! The walk that takes all names in their order. -/

section
variable {tree : FileTree} {folder : Place}

end

/-! The files that a tree lists. -/

section
variable {tree : FileTree} {folder : Place}

end

end FileTree

end Endpoints
