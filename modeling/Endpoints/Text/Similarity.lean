/-! How alike two names are, between 0 and 1: the Jaro measure, raised for a common start. -/

namespace Endpoints.Text

/-- A character, and whether it has found its partner. -/
structure Marked where
  character : Char
  used : Bool

/-- Marks the first free partner of a character among those at positions `low` to `high`. -/
def markPartner (c : Char) (low high position : Nat) : List Marked → Option (List Marked)
  | [] => none
  | marked :: rest =>
    if low ≤ position && position ≤ high && !marked.used && marked.character == c then
      some (⟨marked.character, true⟩ :: rest)
    else (markPartner c low high (position + 1) rest).map (marked :: ·)

/-- The characters of the first name that have a partner at most `reach` positions away, and the second
name with its partners marked. -/
def partners (reach position : Nat) (second : List Marked) : List Char → List Char × List Marked
  | [] => ([], second)
  | c :: rest =>
    match markPartner c (position - reach) (position + reach) 0 second with
    | some marked =>
      let (found, final) := partners reach (position + 1) marked rest
      (c :: found, final)
    | none => partners reach (position + 1) second rest

def jaro (first second : List Char) : Float :=
  if first.isEmpty && second.isEmpty then 1
  else
    let reach := max first.length second.length / 2 - 1
    let (found, marked) := partners reach 0 (second.map (⟨·, false⟩)) first
    let answers := (marked.filter (·.used)).map (·.character)
    let shared := found.length
    if shared = 0 then 0
    else
      let moved := ((found.zip answers).filter fun (c, d) => c != d).length / 2
      (shared.toFloat / first.length.toFloat + shared.toFloat / second.length.toFloat
        + (shared - moved).toFloat / shared.toFloat) / 3

def commonStart : List Char → List Char → Nat
  | c :: first, d :: second => if c == d then commonStart first second + 1 else 0
  | _, _ => 0

def similarity (first second : String) : Float :=
  let alike := jaro first.toList second.toList
  if alike > 0.7 then
    let start := commonStart (first.toList.take 4) second.toList
    alike + 0.1 * start.toFloat * (1 - alike)
  else alike

/-- Whether one name may have been meant for the other. -/
def mayBeMeantFor (name other : String) : Bool := similarity name other > 0.8

end Endpoints.Text
