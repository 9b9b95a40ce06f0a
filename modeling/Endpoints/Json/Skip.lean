import Endpoints.Json.Reader

/-! Skipping JSON values that nobody asked for. Nothing limits how deep they are nested, and their texts
need not spell characters. -/

namespace Endpoints.JsonReader

def skipEscape (bytes : Bytes) : Except JsonFault (Unit × Bytes) :=
  match bytes with
  | [] => faultBefore .endInText []
  | byte :: rest =>
    if byte == 0x75 then (codeUnit rest).map fun (_, after) => ((), after)
    else if (shortEscape? byte).isSome then .ok ((), rest)
    else faultBefore .badEscape rest

theorem skipEscape_length {bytes rest : Bytes} (read : skipEscape bytes = .ok ((), rest)) :
    rest.length < bytes.length := by
  unfold skipEscape at read
  split at read
  · simp [faultBefore] at read
  · split at read
    · next after _ =>
      match inner : codeUnit after with
      | .error fault => simp [inner, Except.map] at read
      | .ok (unit, others) =>
        have := codeUnit_length inner
        simp [inner, Except.map] at read
        simp [← read]; omega
    · split at read
      · simp at read; simp [← read]
      · simp [faultBefore] at read

def skipText (bytes : Bytes) : Except JsonFault (Unit × Bytes) :=
  match bytes with
  | [] => faultBefore .endInText []
  | byte :: rest =>
    if byte == 0x22 then .ok ((), rest)
    else if byte == 0x5c then
      match read : skipEscape rest with
      | .error fault => .error fault
      | .ok ((), after) =>
        have := skipEscape_length read
        skipText after
    else if byte < 0x20 then faultBefore .controlCharacter rest
    else skipText rest
  termination_by bytes.length

def skipExponent (bytes : Bytes) : Except JsonFault (Unit × Bytes) :=
  let digits := match bytes with
    | 0x2b :: rest | 0x2d :: rest => rest
    | rest => rest
  if startsWithDigit digits then .ok ((), digits.dropWhile isDigit) else faultBefore .noNumber (digits.drop 1)

def skipAfterDigits (bytes : Bytes) : Except JsonFault (Unit × Bytes) :=
  match bytes with
  | byte :: rest => if isExponentMark byte then skipExponent rest else .ok ((), bytes)
  | [] => .ok ((), [])

def skipNumber (bytes : Bytes) : Except JsonFault (Unit × Bytes) :=
  let fraction (rest : Bytes) : Except JsonFault (Unit × Bytes) :=
    match rest with
    | 0x2e :: digits =>
      if startsWithDigit digits then skipAfterDigits (digits.dropWhile isDigit)
      else faultAt .noNumber digits
    | _ => skipAfterDigits rest
  match bytes with
  | 0x30 :: rest => if startsWithDigit rest then faultAt .noNumber rest else fraction rest
  | _ =>
    if startsWithDigit bytes then fraction (bytes.dropWhile isDigit)
    else faultBefore .noNumber (bytes.drop 1)

/-- A list or an object that is open. -/
inductive Bracket where
  | list
  | object
  deriving DecidableEq, Repr

def skipKey (bytes : Bytes) : Except JsonFault Bytes :=
  match skipSpace bytes with
  | [] => faultAt .endInObject []
  | 0x22 :: rest => do colon (← skipText rest).2
  | rest => faultAt .noKey rest

/-- Passes to the next value in the open brackets, or out of them. -/
def skipToNext : List Bracket → Bytes → Except JsonFault (List Bracket × Bytes)
  | [], bytes => .ok ([], bytes)
  | .list :: outer, bytes =>
    match skipSpace bytes with
    | [] => faultAt .endInList []
    | 0x2c :: rest => .ok (.list :: outer, rest)
    | 0x5d :: rest => skipToNext outer rest
    | rest => faultAt .noListEnd rest
  | .object :: outer, bytes =>
    match skipSpace bytes with
    | [] => faultAt .endInObject []
    | 0x2c :: rest => (skipKey rest).map fun after => (.object :: outer, after)
    | 0x7d :: rest => skipToNext outer rest
    | rest => faultAt .noObjectEnd rest

/-- Passes a value, without those inside it where it is a list or an object that holds any. -/
def skipHead (opened : List Bracket) (bytes : Bytes) : Except JsonFault (List Bracket × Bytes) := do
  match skipSpace bytes with
  | [] => faultAt .endInValue []
  | byte :: rest =>
    if byte == 0x6e then skipToNext opened (← word "ull".toList rest).2
    else if byte == 0x74 then skipToNext opened (← word "rue".toList rest).2
    else if byte == 0x66 then skipToNext opened (← word "alse".toList rest).2
    else if byte == 0x2d then skipToNext opened (← skipNumber rest).2
    else if isDigit byte then skipToNext opened (← skipNumber (byte :: rest)).2
    else if byte == 0x22 then skipToNext opened (← skipText rest).2
    else if byte == 0x5b then
      match skipSpace rest with
      | [] => faultAt .endInList []
      | 0x5d :: after => skipToNext opened after
      | start => return (.list :: opened, start)
    else if byte == 0x7b then
      match skipSpace rest with
      | [] => faultAt .endInObject []
      | 0x7d :: after => skipToNext opened after
      | start => return (.object :: opened, ← skipKey start)
    else faultAt .noValue (byte :: rest)

def skipValues : Nat → List Bracket → JsonReader Unit
  | 0, _, bytes => faultBefore .endInValue bytes
  | fuel + 1, opened, bytes => do
    match ← skipHead opened bytes with
    | ([], rest) => return ((), rest)
    | (still, rest) => skipValues fuel still rest

def skip (fuel : Nat) : JsonReader Unit := skipValues fuel []

end Endpoints.JsonReader
