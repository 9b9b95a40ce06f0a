import Endpoints.Text.Blank
import Mathlib.Data.List.DropRight

/-! Texts without the blanks around them, and the lines of texts that are joined by line breaks. -/

namespace Endpoints.Text

theorem rdropWhile_append {p : Char → Bool} {last : Char} (stays : p last = false) (front rest : List Char) :
    (front ++ last :: rest).rdropWhile p = front ++ last :: rest.rdropWhile p := by
  induction rest using List.reverseRecOn with
  | nil => simpa using List.rdropWhile_concat_neg p front last (by simp [stays])
  | append_singleton rest c ih =>
    rw [← List.cons_append, ← List.append_assoc, List.rdropWhile_concat, List.rdropWhile_concat, ih]
    split <;> simp

theorem trimStart_append {blanks : List Char} (blank : ∀ c ∈ blanks, isBlank c = true) (rest : List Char) :
    trimStart (blanks ++ rest) = trimStart rest := List.dropWhile_append_of_pos blank

theorem trimStart_cons {first : Char} (shown : isBlank first = false) (rest : List Char) :
    trimStart (first :: rest) = first :: rest := List.dropWhile_cons_of_neg (by simp [shown])

theorem trimEnd_append {first : Char} (shown : isBlank first = false) (front rest : List Char) :
    trimEnd (front ++ first :: rest) = front ++ first :: trimEnd rest := rdropWhile_append shown front rest

theorem exists_trimStart_append (text : List Char) :
    ∃ blanks, text = blanks ++ trimStart text ∧ ∀ c ∈ blanks, isBlank c = true :=
  ⟨text.takeWhile isBlank, List.takeWhile_append_dropWhile.symm, fun _ among => List.mem_takeWhile_imp among⟩

theorem exists_trimEnd_append (text : List Char) :
    ∃ blanks, text = trimEnd text ++ blanks ∧ ∀ c ∈ blanks, isBlank c = true :=
  ⟨text.rtakeWhile isBlank, List.rdropWhile_append_rtakeWhile.symm, fun _ among => List.mem_rtakeWhile_imp among⟩

end Endpoints.Text
