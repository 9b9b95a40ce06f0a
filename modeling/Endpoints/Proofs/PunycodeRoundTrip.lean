import Endpoints.Url.Punycode
import Mathlib.Data.List.TakeWhile

/-! Names that are written in Punycode are read again. The decoder follows the encoder: both go through the
places of a name, point by point, and the numbers between them tell how many places are passed. -/

namespace Endpoints.Punycode

theorem value?_digit {value : Nat} (small : value < 36) : value? (digit value) = some value := by
  have each : ∀ value < 36, value? (digit value) = some value := by decide
  exact each value small

theorem decodeNumber_encodeNumber (bias place weight sum number : Nat) (rest : List Char) :
    decodeNumber bias place weight sum (encodeNumber bias place number ++ rest) =
      some (sum + number * weight, rest) := by
  fun_induction encodeNumber bias place number generalizing weight sum with
  | case1 place number limit below =>
    have most := threshold_le place bias
    have read := value?_digit (show number < 36 by omega)
    simp [decodeNumber, read, below, limit]
  | case2 place number limit atLeast ih =>
    have most := threshold_le place bias
    have remainder := Nat.mod_lt (number - limit) (show 0 < 36 - limit by omega)
    have read := value?_digit (show limit + (number - limit) % (36 - limit) < 36 by omega)
    have whole : limit + (number - limit) % (36 - limit) + (number - limit) / (36 - limit) * (36 - limit) =
        number := by
      have parts := Nat.mod_add_div' (number - limit) (36 - limit)
      omega
    have goesOn : ¬ limit + (number - limit) % (36 - limit) < threshold place bias := by omega
    rw [List.cons_append, decodeNumber, read]
    simp only [goesOn, if_false]
    rw [ih]
    congr 2
    calc sum + (limit + (number - limit) % (36 - limit)) * weight +
          (number - limit) / (36 - limit) * (weight * (36 - threshold place bias))
        = sum + (limit + (number - limit) % (36 - limit) +
            (number - limit) / (36 - limit) * (36 - limit)) * weight := by
          rw [Nat.mul_comm weight, ← Nat.mul_assoc]
          simp only [limit, Nat.add_mul, Nat.add_assoc]
      _ = sum + number * weight := by rw [whole]

theorem encodeNumber_ne_nil (bias place number : Nat) : encodeNumber bias place number ≠ [] := by
  rw [encodeNumber]
  split <;> simp

theorem insertAll_encodeNumber {name : List Char} {last index delta next place : Nat} (bias : Nat)
    (rest : List Char) (inside : place ≤ name.length) (valid : next.isValidChar) (notBelow : last ≤ next)
    (position : last * (name.length + 1) + index + delta = next * (name.length + 1) + place) :
    insertAll name last index bias (encodeNumber bias 36 delta ++ rest) =
      insertAll (name.take place ++ Char.ofNat next :: name.drop place) next (place + 1)
        (adapt delta (name.length + 1) (index == 0)) rest := by
  have total : index + delta = (next - last) * (name.length + 1) + place := by
    obtain ⟨more, rfl⟩ := Nat.exists_eq_add_of_le notBelow
    rw [Nat.add_sub_cancel_left]
    rw [Nat.add_mul] at position
    omega
  have quotient : (index + delta) / (name.length + 1) = next - last := by
    rw [total, Nat.mul_comm, Nat.mul_add_div (Nat.succ_pos _), Nat.div_eq_of_lt (Nat.lt_succ_of_le inside),
      Nat.add_zero]
  have remainder : (index + delta) % (name.length + 1) = place := by
    rw [total, Nat.mul_comm, Nat.mul_add_mod, Nat.mod_eq_of_lt (Nat.lt_succ_of_le inside)]
  have found := decodeNumber_encodeNumber bias 36 1 index delta rest
  rw [Nat.mul_one] at found
  have point : last + (index + delta) / (name.length + 1) = next := by omega
  obtain ⟨first, others, spelled⟩ := List.exists_cons_of_ne_nil (encodeNumber_ne_nil bias 36 delta)
  rw [spelled, List.cons_append] at found ⊢
  rw [insertAll]
  split
  · next none => rw [found] at none; cases none
  · next total after same =>
    obtain ⟨rfl, rfl⟩ : index + delta = total ∧ rest = after := by simpa [found] using same
    simp only [point, remainder, valid, if_true, Nat.add_sub_cancel_left]

/-- The decoder has read what the encoder has written. Both are `place` characters into the name that is
read so far and look for the character `point` there; `last` and `index` are where the decoder has
inserted before. -/
structure Follows (basic read : List Char) (point place last index : Nat) (encoder : Encoder) : Prop where
  reads : ∀ rest, insertAll basic 128 0 72 (encoder.written.reverse ++ rest) =
    insertAll read last index encoder.bias rest
  handled : encoder.handled = read.length
  position : last * (read.length + 1) + index + encoder.delta = point * (read.length + 1) + place
  notBelow : last ≤ point
  basics : basic.length ≤ encoder.handled
  first : index = 0 ↔ encoder.handled = basic.length

variable {basic name : List Char} {point last index : Nat} {encoder : Encoder}

section
variable {read : List Char} {place : Nat}

theorem Follows.skip (follows : Follows basic read point place last index encoder) :
    Follows basic read point (place + 1) last index { encoder with delta := encoder.delta + 1 } := by
  obtain ⟨reads, handled, position, notBelow, basics, first⟩ := follows
  refine ⟨reads, handled, ?_, notBelow, basics, first⟩
  change _ + _ + (encoder.delta + 1) = _
  omega

theorem Follows.jump {later : Nat} (follows : Follows basic read point 0 last index encoder)
    (notBelow : point ≤ later) : Follows basic read later 0 last index
      { encoder with delta := encoder.delta + (later - point) * (encoder.handled + 1) } := by
  obtain ⟨reads, handled, position, lastBelow, basics, first⟩ := follows
  refine ⟨reads, handled, ?_, Nat.le_trans lastBelow notBelow, basics, first⟩
  obtain ⟨more, rfl⟩ := Nat.exists_eq_add_of_le notBelow
  rw [Nat.add_sub_cancel_left, handled, Nat.add_mul]
  change _ + _ + (encoder.delta + _) = _
  omega

/-- Behind the last character the next point is looked for from the front. -/
theorem Follows.turn (follows : Follows basic read point read.length last index encoder) :
    Follows basic read (point + 1) 0 last index { encoder with delta := encoder.delta + 1 } := by
  obtain ⟨reads, handled, position, lastBelow, basics, first⟩ := follows
  refine ⟨reads, handled, ?_, Nat.le_succ_of_le lastBelow, basics, first⟩
  change _ + _ + (encoder.delta + 1) = _
  rw [Nat.add_mul]
  omega

/-- The point is written, and the decoder inserts it where it has got to. -/
theorem Follows.insert (follows : Follows basic read point place last index encoder)
    (inside : place ≤ read.length) (valid : point.isValidChar) :
    Follows basic (read.take place ++ Char.ofNat point :: read.drop place) point (place + 1) point (place + 1)
      { delta := 0
        bias := adapt encoder.delta (encoder.handled + 1) (encoder.handled == basic.length)
        handled := encoder.handled + 1
        written := (encodeNumber encoder.bias 36 encoder.delta).reverse ++ encoder.written } := by
  obtain ⟨reads, handled, position, notBelow, basics, first⟩ := follows
  have longer : (read.take place ++ Char.ofNat point :: read.drop place).length = read.length + 1 := by
    simp
    omega
  refine ⟨?_, by rw [longer, handled], by rw [longer]; rfl, Nat.le_refl _, Nat.le_succ_of_le basics, ?_⟩
  · intro more
    have starts : (index == 0) = (encoder.handled == basic.length) := by
      rw [Bool.eq_iff_iff]
      simpa using first
    simp only [List.reverse_append, List.reverse_reverse, List.append_assoc]
    rw [reads, insertAll_encodeNumber encoder.bias more inside valid notBelow position, starts, handled]
  · exact iff_of_false (Nat.succ_ne_zero _) (Nat.ne_of_gt (Nat.lt_succ_of_le basics))

end

/-- The characters up to a point, where `rest` is still to be searched for the point itself. -/
def upTo (point : Nat) (passed rest : List Char) : List Char :=
  passed.filter (·.toNat ≤ point) ++ rest.filter (·.toNat < point)

theorem Follows.pass {passed rest : List Char} {c : Char}
    (follows : Follows basic (upTo point passed (c :: rest)) point (passed.filter (·.toNat ≤ point)).length
      last index encoder) :
    ∃ last index, Follows basic (upTo point (passed ++ [c]) rest) point
      ((passed ++ [c]).filter (·.toNat ≤ point)).length last index (encoder.pass basic.length point c) := by
  rcases Nat.lt_trichotomy c.toNat point with below | same | above
  · -- A character below the point is passed, and one more place is counted.
    have same : upTo point (passed ++ [c]) rest = upTo point passed (c :: rest) := by
      simp [upTo, List.filter_append, below, Nat.le_of_lt below]
    have passes : encoder.pass basic.length point c = { encoder with delta := encoder.delta + 1 } := by
      simp [Encoder.pass, below]
    have counted : ((passed ++ [c]).filter (·.toNat ≤ point)).length =
        (passed.filter (·.toNat ≤ point)).length + 1 := by
      simp [List.filter_append, Nat.le_of_lt below]
    rw [same, passes, counted]
    exact ⟨last, index, follows.skip⟩
  · -- The point itself is written, and the decoder inserts it.
    subst same
    have before : upTo c.toNat passed (c :: rest) =
        passed.filter (·.toNat ≤ c.toNat) ++ rest.filter (·.toNat < c.toNat) := by
      simp [upTo]
    have inside : (passed.filter (·.toNat ≤ c.toNat)).length ≤ (upTo c.toNat passed (c :: rest)).length := by
      simp [before]
    have inserted := follows.insert inside c.valid
    rw [before] at inserted
    refine ⟨c.toNat, (passed.filter (·.toNat ≤ c.toNat)).length + 1, ?_⟩
    simpa [upTo, List.filter_append, Encoder.pass] using inserted
  · -- A character above the point is not there yet.
    have notBelowPoint : ¬ c.toNat < point := by omega
    have notPoint : c.toNat ≠ point := by omega
    have notUpTo : ¬ c.toNat ≤ point := by omega
    refine ⟨last, index, ?_⟩
    simpa [upTo, List.filter_append, notBelowPoint, notUpTo, Encoder.pass, notPoint] using follows

theorem Follows.passAll {passed rest : List Char}
    (follows : Follows basic (upTo point passed rest) point (passed.filter (·.toNat ≤ point)).length
      last index encoder) :
    ∃ last index, Follows basic ((passed ++ rest).filter (·.toNat ≤ point)) point
      ((passed ++ rest).filter (·.toNat ≤ point)).length last index
      (rest.foldl (Encoder.pass basic.length point) encoder) := by
  induction rest generalizing passed last index encoder with
  | nil => exact ⟨last, index, by simpa [upTo] using follows⟩
  | cons c rest ih =>
    obtain ⟨next, nextIndex, further⟩ := follows.pass
    simpa using ih further

/-- Points that ascend and are all those of the name from the next one on lead to the whole name. -/
theorem Follows.place {next : Nat} {points : List Nat}
    (follows : Follows basic (name.filter (·.toNat < next)) next 0 last index encoder)
    (ascending : points.Pairwise (· < ·)) (least : ∀ point ∈ points, next ≤ point)
    (complete : ∀ c ∈ name, next ≤ c.toNat → c.toNat ∈ points) :
    insertAll basic 128 0 72 (encoder.place name basic.length next points).written.reverse = some name := by
  induction points generalizing next last index encoder with
  | nil =>
    have whole : name.filter (·.toNat < next) = name := by
      refine List.filter_eq_self.mpr fun c member => ?_
      have below : ¬ next ≤ c.toNat := fun above => absurd (complete c member above) (by simp)
      simpa using below
    have read := follows.reads []
    rw [List.append_nil, whole, insertAll] at read
    exact read
  | cons point rest ih =>
    obtain ⟨above, restAscends⟩ := List.pairwise_cons.mp ascending
    have notBelow := least point List.mem_cons_self
    -- Between the two points the name has no characters.
    have gap : name.filter (·.toNat < point) = name.filter (·.toNat < next) := by
      refine List.filter_congr fun c member => ?_
      have apart : next ≤ c.toNat → point ≤ c.toNat := by
        intro from_
        rcases List.mem_cons.mp (complete c member from_) with same | later
        · exact Nat.le_of_eq same.symm
        · exact Nat.le_of_lt (above _ later)
      exact decide_eq_decide.mpr (by omega)
    have moved : Follows basic (upTo point [] name) point 0 last index
        { encoder with delta := encoder.delta + (point - next) * (encoder.handled + 1) } := by
      rw [show upTo point [] name = name.filter (·.toNat < next) from gap]
      exact follows.jump notBelow
    obtain ⟨last, index, passed⟩ := moved.passAll
    have onward : name.filter (·.toNat ≤ point) = name.filter (·.toNat < point + 1) :=
      List.filter_congr fun c _ => decide_eq_decide.mpr Nat.lt_succ_iff.symm
    have next := passed.turn
    rw [List.nil_append, onward] at next
    rw [Encoder.place]
    refine ih next restAscends above ?_
    · intro c member from_
      rcases List.mem_cons.mp (complete c member (by omega)) with same | later
      · omega
      · exact later

theorem pairwise_eraseDups {points : List Nat} (sorted : points.Pairwise (· ≤ ·)) :
    points.eraseDups.Pairwise (· < ·) := by
  induction length : points.length using Nat.strongRecOn generalizing points with
  | ind count ih =>
    cases points with
    | nil => simp
    | cons point rest =>
      obtain ⟨least, restSorted⟩ := List.pairwise_cons.mp sorted
      rw [List.eraseDups_cons, List.pairwise_cons]
      constructor
      · intro other member
        obtain ⟨among, different⟩ := List.mem_filter.mp (List.mem_eraseDups.mp member)
        exact Nat.lt_of_le_of_ne (least other among) fun same => by simp [same] at different
      · subst length
        exact ih _ (Nat.lt_succ_of_le (List.length_filter_le _ _)) (restSorted.filter _) rfl

theorem mem_encodeNumber {c : Char} {bias place number : Nat} (member : c ∈ encodeNumber bias place number) :
    ∃ value < 36, digit value = c := by
  fun_induction encodeNumber bias place number with
  | case1 place number limit below =>
    have most := threshold_le place bias
    exact ⟨number, by omega, (List.mem_singleton.mp member).symm⟩
  | case2 place number limit atLeast ih =>
    have most := threshold_le place bias
    have remainder := Nat.mod_lt (number - limit) (show 0 < 36 - limit by omega)
    rcases List.mem_cons.mp member with rfl | later
    · exact ⟨_, by omega, rfl⟩
    · exact ih later

theorem Encoder.mem_written_pass {basics point : Nat} {encoder : Encoder} {c written : Char}
    (digits : ∀ c ∈ encoder.written, ∃ value < 36, digit value = c)
    (member : written ∈ (encoder.pass basics point c).written) : ∃ value < 36, digit value = written := by
  unfold Encoder.pass at member
  split at member
  · exact digits written member
  · split at member
    · rcases List.mem_append.mp member with here | before
      · exact mem_encodeNumber (List.mem_reverse.mp here)
      · exact digits written before
    · exact digits written member

/-- Only digits are written for the places of a name. -/
theorem Encoder.mem_written_place {name : List Char} {basics next : Nat} {encoder : Encoder} {points : List Nat}
    {written : Char} (digits : ∀ c ∈ encoder.written, ∃ value < 36, digit value = c)
    (member : written ∈ (encoder.place name basics next points).written) :
    ∃ value < 36, digit value = written := by
  have passed (point : Nat) (rest : List Char) (encoder : Encoder)
      (digits : ∀ c ∈ encoder.written, ∃ value < 36, digit value = c) :
      ∀ c ∈ (rest.foldl (Encoder.pass basics point) encoder).written, ∃ value < 36, digit value = c := by
    induction rest generalizing encoder with
    | nil => exact digits
    | cons c rest ih => exact ih _ fun _ => mem_written_pass digits
  induction points generalizing encoder next with
  | nil => exact digits written member
  | cons point rest ih =>
    refine ih (fun c held => ?_) member
    exact passed point name { encoder with delta := encoder.delta + (point - next) * (encoder.handled + 1) }
      digits c held

/-- The number part of a name that is written. -/
def numbers (name : List Char) : List Char :=
  (Encoder.place name (name.filter isBasic).length 128 ⟨0, 72, (name.filter isBasic).length, []⟩
    ((name.filter (!isBasic ·)).map Char.toNat).mergeSort.eraseDups).written.reverse

theorem encode_eq (name : List Char) :
    encode name = name.filter isBasic ++ (if name.filter isBasic = [] then [] else ['-']) ++ numbers name := rfl

theorem mem_numbers {name : List Char} {c : Char} (member : c ∈ numbers name) :
    ∃ value < 36, digit value = c :=
  Encoder.mem_written_place (by simp) (List.mem_reverse.mp member)

theorem mem_encode {name : List Char} {c : Char} (member : c ∈ encode name) :
    (c ∈ name ∧ isBasic c = true) ∨ c = '-' ∨ ∃ value < 36, digit value = c := by
  rw [encode_eq] at member
  rcases List.mem_append.mp member with before | number
  · rcases List.mem_append.mp before with basic | hyphen
    · exact .inl (List.mem_filter.mp basic)
    · split at hyphen
      · cases hyphen
      · exact .inr (.inl (List.mem_singleton.mp hyphen))
  · exact .inr (.inr (mem_numbers number))

theorem insertAll_numbers (name : List Char) :
    insertAll (name.filter isBasic) 128 0 72 (numbers name) = some name := by
  have basic : name.filter isBasic = name.filter (·.toNat < 128) := rfl
  have points {point : Nat} :
      point ∈ ((name.filter (!isBasic ·)).map Char.toNat).mergeSort.eraseDups ↔
        ∃ c ∈ name, isBasic c = false ∧ c.toNat = point := by
    simp [List.mem_eraseDups, and_assoc]
  have started : Follows (name.filter isBasic) (name.filter (·.toNat < 128)) 128 0 128 0
      ⟨0, 72, (name.filter isBasic).length, []⟩ := by
    rw [← basic]
    exact ⟨fun _ => rfl, rfl, rfl, Nat.le_refl _, Nat.le_refl _, iff_of_true rfl rfl⟩
  refine started.place ?_ ?_ ?_
  · have transitive (a b c : Nat) : decide (a ≤ b) = true → decide (b ≤ c) = true → decide (a ≤ c) = true := by
      simpa using Nat.le_trans
    have total (a b : Nat) : (decide (a ≤ b) || decide (b ≤ a)) = true := by
      simpa using Nat.le_total a b
    have sorted := List.pairwise_mergeSort transitive total ((name.filter (!isBasic ·)).map Char.toNat)
    exact pairwise_eraseDups (sorted.imp of_decide_eq_true)
  · intro point member
    obtain ⟨c, _, outside, rfl⟩ := points.mp member
    simpa [isBasic] using outside
  · intro c member outside
    exact points.mpr ⟨c, member, by simpa [isBasic] using outside, rfl⟩

theorem decode?_encode (name : List Char) : decode? (encode name) = some name := by
  have noHyphen : '-' ∉ numbers name := by
    intro member
    obtain ⟨value, small, same⟩ := mem_numbers member
    have each : ∀ value < 36, digit value ≠ '-' := by decide
    exact each value small same
  rw [decode?, encode_eq]
  by_cases basic : name.filter isBasic = []
  · have read := insertAll_numbers name
    rw [basic] at read
    simpa [basic, noHyphen] using read
  · have apart : ∀ c ∈ (numbers name).reverse, decide (c ≠ '-') = true := by
      intro c member
      have different : c ≠ '-' := fun same => noHyphen (same ▸ List.mem_reverse.mp member)
      exact decide_eq_true different
    have reversed : (name.filter isBasic ++ ['-'] ++ numbers name).reverse =
        (numbers name).reverse ++ '-' :: (name.filter isBasic).reverse := by simp
    have before : ((name.filter isBasic ++ ['-'] ++ numbers name).reverse.dropWhile (· ≠ '-')).drop 1 =
        (name.filter isBasic).reverse := by
      rw [reversed, List.dropWhile_append_of_pos apart]
      simp
    have after : (name.filter isBasic ++ ['-'] ++ numbers name).reverse.takeWhile (· ≠ '-') =
        (numbers name).reverse := by
      rw [reversed, List.takeWhile_append_of_pos apart]
      simp
    have holds : (name.filter isBasic ++ ['-'] ++ numbers name).contains '-' = true := by simp
    simp only [basic, if_false, holds, if_true, before, after, List.reverse_reverse]
    exact insertAll_numbers name

end Endpoints.Punycode
