import Endpoints.Text.Quoted

/-! Parts of texts, and the numbers that digits make. -/

namespace Endpoints.Text

def splitAt (isSeparator : Char → Bool) : List Char → List (List Char)
  | [] => [[]]
  | c :: rest =>
    if isSeparator c then [] :: splitAt isSeparator rest
    else match splitAt isSeparator rest with
      | [] => [[c]]
      | part :: parts => (c :: part) :: parts

/-- The value of digits in a base, if all of them are digits there. -/
def valueIn? (base : Nat) (digits : List Char) : Option Nat :=
  digits.foldlM (fun value c =>
    match Quoted.hexValue? c with
    | some digit => if digit < base then some (value * base + digit) else none
    | none => none) 0

theorem mem_of_mem_intersperse {separator : List Char} {parts : List (List Char)} {c : Char}
    (member : c ∈ (parts.intersperse separator).flatten) : c ∈ separator ∨ ∃ part ∈ parts, c ∈ part := by
  induction parts with
  | nil => cases member
  | cons part rest ih =>
    cases rest with
    | nil => exact .inr ⟨part, List.mem_cons_self, by simpa using member⟩
    | cons next more =>
      simp only [List.intersperse_cons_cons, List.flatten_cons, List.mem_append] at member
      rcases member with inside | divides | later
      · exact .inr ⟨part, List.mem_cons_self, inside⟩
      · exact .inl divides
      · rcases ih later with divides | ⟨other, among, inside⟩
        · exact .inl divides
        · exact .inr ⟨other, List.mem_cons_of_mem part among, inside⟩

theorem mem_intersperse_of_mem (separator : List Char) {parts : List (List Char)} {part : List Char} {c : Char}
    (among : part ∈ parts) (inside : c ∈ part) : c ∈ (parts.intersperse separator).flatten := by
  induction parts with
  | nil => cases among
  | cons first rest ih =>
    cases rest with
    | nil =>
      obtain rfl := List.mem_singleton.mp among
      simpa using inside
    | cons next more =>
      simp only [List.intersperse_cons_cons, List.flatten_cons, List.mem_append]
      rcases List.mem_cons.mp among with rfl | later
      · exact .inl inside
      · exact .inr (.inr (ih later))

end Endpoints.Text
