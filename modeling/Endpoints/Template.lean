import Endpoints.Keyed

/-! Path templates: text with placeholders in braces. -/

namespace Endpoints.Template

/-- The text that stands for a placeholder: the value bound to it, or the placeholder as written. -/
def substitute (bound : Keyed String) (key : List Char) : List Char :=
  match bound.get? (String.ofList key) with
  | some value => value.toList
  | none => '\x7b' :: (key ++ ['\x7d'])

/-- The rest of a template with its placeholders filled in. `opened` holds the characters after a `{`,
reversed. What is filled in is not looked at again, and a `{` without a `}` after it opens nothing. -/
def expandFrom (bound : Keyed String) (opened : Option (List Char)) : List Char → List Char
  | [] =>
    match opened with
    | none => []
    | some key => '\x7b' :: key.reverse
  | c :: rest =>
    match opened with
    | none =>
      if c == '\x7b' then expandFrom bound (some []) rest else c :: expandFrom bound none rest
    | some key =>
      if c == '\x7d' then substitute bound key.reverse ++ expandFrom bound none rest
      else expandFrom bound (some (c :: key)) rest

def expand (template : String) (bound : Keyed String) : String :=
  if bound.isEmpty then template else String.ofList (expandFrom bound none template.toList)

theorem expandFrom_nil (opened : Option (List Char)) (text : List Char) :
    expandFrom [] opened text = (opened.elim [] fun key => '\x7b' :: key.reverse) ++ text := by
  induction text generalizing opened with
  | nil => cases opened <;> simp [expandFrom]
  | cons c rest ih =>
    cases opened with
    | none =>
      by_cases opens : c = '\x7b' <;> simp [expandFrom, opens, ih]
    | some key =>
      by_cases closes : c = '\x7d' <;> simp [expandFrom, closes, ih, substitute, Keyed.get?]

/-- Reading a template without values would give the same. -/
theorem toList_expand (template : String) (bound : Keyed String) :
    (expand template bound).toList = expandFrom bound none template.toList := by
  unfold expand
  cases bound with
  | nil => exact (expandFrom_nil none template.toList).symm
  | cons entry rest => exact String.toList_ofList

end Endpoints.Template
