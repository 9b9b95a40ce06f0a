/-! Punycode: names of any characters written in letters, digits and hyphens. -/

namespace Endpoints.Punycode

def digit (value : Nat) : Char :=
  if value < 26 then Char.ofNat (97 + value) else Char.ofNat (22 + value)

def value? (c : Char) : Option Nat :=
  if 'a' ≤ c ∧ c ≤ 'z' then some (c.toNat - 97)
  else if 'A' ≤ c ∧ c ≤ 'Z' then some (c.toNat - 65)
  else if '0' ≤ c ∧ c ≤ '9' then some (c.toNat - 22)
  else none

/-- The least digit that does not end a number, at the given place. -/
def threshold (place bias : Nat) : Nat :=
  if place ≤ bias then 1 else if bias + 26 ≤ place then 26 else place - bias

theorem threshold_pos (place bias : Nat) : 0 < threshold place bias := by
  unfold threshold; split
  · exact Nat.one_pos
  · split <;> omega

theorem threshold_le (place bias : Nat) : threshold place bias ≤ 26 := by
  unfold threshold; split
  · omega
  · split <;> omega

def shrink (delta place : Nat) : Nat × Nat :=
  if 455 < delta then shrink (delta / 35) (place + 36) else (delta, place)
  termination_by delta
  decreasing_by omega

def adapt (delta handled : Nat) (first : Bool) : Nat :=
  let damped := if first then delta / 700 else delta / 2
  let (rest, place) := shrink (damped + damped / handled) 0
  place + 36 * rest / (rest + 38)

/-- A number in digits, the lowest first. -/
def encodeNumber (bias place number : Nat) : List Char :=
  let limit := threshold place bias
  if number < limit then [digit number]
  else digit (limit + (number - limit) % (36 - limit))
    :: encodeNumber bias (place + 36) ((number - limit) / (36 - limit))
  termination_by number
  decreasing_by
    have := threshold_pos place bias
    have := Nat.div_le_self (number - threshold place bias) (36 - threshold place bias)
    omega

structure Encoder where
  /-- The number to write for the next character. -/
  delta : Nat
  bias : Nat
  handled : Nat
  /-- What is written, reversed. -/
  written : List Char

/-- Passes one character of the name while `point` is being placed. -/
def Encoder.pass (basics point : Nat) (encoder : Encoder) (c : Char) : Encoder :=
  if c.toNat < point then { encoder with delta := encoder.delta + 1 }
  else if c.toNat = point then
    { delta := 0
      bias := adapt encoder.delta (encoder.handled + 1) (encoder.handled == basics)
      handled := encoder.handled + 1
      written := (encodeNumber encoder.bias 36 encoder.delta).reverse ++ encoder.written }
  else encoder

/-- Places the given points, which ascend, after all points below `next`. -/
def Encoder.place (name : List Char) (basics : Nat) (next : Nat) (encoder : Encoder) :
    List Nat → Encoder
  | [] => encoder
  | point :: rest =>
    let start := { encoder with delta := encoder.delta + (point - next) * (encoder.handled + 1) }
    let passed := name.foldl (Encoder.pass basics point) start
    Encoder.place name basics (point + 1) { passed with delta := passed.delta + 1 } rest

def isBasic (c : Char) : Bool := c.toNat < 128

def encode (name : List Char) : List Char :=
  let basic := name.filter isBasic
  let points := ((name.filter (!isBasic ·)).map Char.toNat).mergeSort.eraseDups
  let encoder := Encoder.place name basic.length 128 ⟨0, 72, basic.length, []⟩ points
  basic ++ (if basic = [] then [] else ['-']) ++ encoder.written.reverse

def decodeNumber (bias place weight sum : Nat) : List Char → Option (Nat × List Char)
  | [] => none
  | c :: rest =>
    match value? c with
    | none => none
    | some value =>
      let limit := threshold place bias
      if value < limit then some (sum + value * weight, rest)
      else decodeNumber bias (place + 36) (weight * (36 - limit)) (sum + value * weight) rest

theorem decodeNumber_length {bias place weight sum : Nat} {text : List Char} {result : Nat × List Char}
    (found : decodeNumber bias place weight sum text = some result) :
    result.2.length < text.length := by
  fun_induction decodeNumber bias place weight sum text with
  | case1 => simp at found
  | case2 => simp at found
  | case3 place weight sum c rest value _ limit _ => simp_all; subst found; simp
  | case4 place weight sum c rest value _ limit _ ih => have := ih found; simp; omega

/-- Inserts characters into a name as the numbers in the text tell. -/
def insertAll (name : List Char) (point index bias : Nat) (text : List Char) : Option (List Char) :=
  match text with
  | [] => some name
  | c :: rest =>
    match found : decodeNumber bias 36 1 index (c :: rest) with
    | none => none
    | some (total, after) =>
      have := decodeNumber_length found
      let places := name.length + 1
      let next := point + total / places
      if next.isValidChar then
        let inserted := name.take (total % places) ++ Char.ofNat next :: name.drop (total % places)
        insertAll inserted next (total % places + 1) (adapt (total - index) places (index == 0)) after
      else none
  termination_by text.length
  decreasing_by assumption

/-- The name that a text encodes. What stands before the last hyphen is taken as it is. -/
def decode? (text : List Char) : Option (List Char) :=
  let reversed := text.reverse
  if text.contains '-' then
    let basic := ((reversed.dropWhile (· ≠ '-')).drop 1).reverse
    if basic = [] then none
    else insertAll basic 128 0 72 (reversed.takeWhile (· ≠ '-')).reverse
  else insertAll [] 128 0 72 text

end Endpoints.Punycode
