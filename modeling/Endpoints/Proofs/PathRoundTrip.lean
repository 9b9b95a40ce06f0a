import Endpoints.Proofs.AddressRoundTrip
import Endpoints.Proofs.AuthorityRoundTrip
import Endpoints.Url.Path
import Mathlib.Data.List.DropRight

/-! Paths of the web that are read are read again. Their segments are encoded, hold no slash and lead neither
up nor nowhere, and paths of such segments stay as they are. -/

namespace Endpoints

namespace Text

theorem splitAt_append {isSeparator : Char → Bool} {part : List Char} (inside : ∀ c ∈ part, isSeparator c = false)
    {separator : Char} (divides : isSeparator separator = true) (rest : List Char) :
    splitAt isSeparator (part ++ separator :: rest) = part :: splitAt isSeparator rest := by
  induction part with
  | nil => simp [splitAt, divides]
  | cons c others ih =>
    obtain ⟨first, later⟩ := List.forall_mem_cons.mp inside
    simp [splitAt, first, ih later]

theorem splitAt_of_undivided {isSeparator : Char → Bool} {part : List Char}
    (inside : ∀ c ∈ part, isSeparator c = false) : splitAt isSeparator part = [part] := by
  induction part with
  | nil => rfl
  | cons c others ih =>
    obtain ⟨first, later⟩ := List.forall_mem_cons.mp inside
    simp [splitAt, first, ih later]

end Text

namespace UrlPath

/-- A segment that stays as it is when a path of the web is read. -/
structure IsSettled (segment : Segment) : Prop where
  leads : isUp segment = false ∧ isHere segment = false
  free : ∀ c ∈ segment, Percent.isFree Percent.inPath c = true
  undivided : ∀ c ∈ segment, isSlash c = false

/-- A path of settled segments. -/
def Settled (path : List Char) : Prop :=
  ∃ segments, segments ≠ [] ∧ (∀ segment ∈ segments, IsSettled segment) ∧ path = joined segments

theorem isSettled_nil : IsSettled [] := ⟨⟨rfl, rfl⟩, nofun, nofun⟩

theorem joined_append (first second : List Segment) : joined (first ++ second) = joined first ++ joined second :=
  List.flatMap_append

theorem joined_splitAt (text : List Char) : joined (Text.splitAt (· == '/') text) = '/' :: text := by
  induction text with
  | nil => rfl
  | cons c rest ih =>
    by_cases slash : c = '/'
    · subst slash
      simp only [Text.splitAt, beq_self_eq_true, if_true]
      rw [joined, List.flatMap_cons, ← joined, ih]
      rfl
    · have other : (c == '/') = false := beq_false_of_ne slash
      obtain ⟨first, others, split⟩ := List.exists_cons_of_ne_nil (Text.splitAt_ne_nil (· == '/') rest)
      rw [split] at ih
      have whole : first ++ joined others = rest := by simpa [joined] using ih
      have longer : Text.splitAt (· == '/') (c :: rest) = (c :: first) :: others := by
        simp [Text.splitAt, other, split]
      rw [longer, ← whole]
      rfl

theorem splitAt_joined {segments : List Segment} {segment : Segment}
    (undivided : ∀ part ∈ segment :: segments, ∀ c ∈ part, isSlash c = false) :
    Text.splitAt isSlash (segment ++ joined segments) = segment :: segments := by
  induction segments generalizing segment with
  | nil =>
    have alone := Text.splitAt_of_undivided (undivided segment List.mem_cons_self)
    simpa [joined] using alone
  | cons next rest ih =>
    obtain ⟨first, others⟩ := List.forall_mem_cons.mp undivided
    have behind : joined (next :: rest) = '/' :: (next ++ joined rest) := rfl
    rw [behind, Text.splitAt_append first rfl, ih others]

theorem push_of_isSettled (above : List Segment) {segment : Segment} (settled : IsSettled segment) :
    push above segment = segment :: above := by
  simp [push, settled.leads]

theorem walk_of_settled {above segments : List Segment} (settled : ∀ segment ∈ segments, IsSettled segment) :
    walk above segments = above.reverse ++ segments := by
  fun_induction walk above segments with
  | case1 above => simp
  | case2 above last ends =>
    have leads := (settled last List.mem_cons_self).leads
    simp [leads] at ends
  | case3 above last stays => simp [push_of_isSettled above (settled last List.mem_cons_self)]
  | case4 above segment rest more ih =>
    obtain ⟨first, others⟩ := List.forall_mem_cons.mp settled
    rw [ih others, push_of_isSettled above first]
    simp

theorem Settled.free {path : List Char} (settled : Settled path) :
    ∀ c ∈ path, Percent.isFree Percent.inPath c = true := by
  obtain ⟨segments, _, each, rfl⟩ := settled
  intro c member
  obtain ⟨segment, among, inside⟩ := List.mem_flatMap.mp member
  rcases List.mem_cons.mp inside with rfl | inside
  · decide
  · exact (each segment among).free c inside

theorem Settled.starts {path : List Char} (settled : Settled path) : ∃ rest, path = '/' :: rest := by
  obtain ⟨segments, some, _, rfl⟩ := settled
  obtain ⟨first, others, rfl⟩ := List.exists_cons_of_ne_nil some
  exact ⟨first ++ joined others, rfl⟩

theorem Settled.readWeb_eq {path : List Char} (settled : Settled path) : readWeb path = path := by
  obtain ⟨segments, some, each, rfl⟩ := settled
  obtain ⟨first, others, rfl⟩ := List.exists_cons_of_ne_nil some
  have cut := splitAt_joined fun part among => (each part among).undivided
  have encoded : (first :: others).map (Percent.encode Percent.inPath) = first :: others :=
    (List.map_congr_left fun segment among => Percent.encode_of_free (each segment among).free).trans
      (List.map_id _)
  have behind : joined (first :: others) = '/' :: (first ++ joined others) := rfl
  have slash : isSlash '/' = true := rfl
  rw [behind, readWeb, slash, if_pos rfl, cut, ofSegments, encoded, walk_of_settled each]
  rfl

theorem settled_push {above : List Segment} {segment : Segment} (others : ∀ part ∈ above, IsSettled part)
    (free : ∀ c ∈ segment, Percent.isFree Percent.inPath c = true) (undivided : ∀ c ∈ segment, isSlash c = false) :
    ∀ part ∈ push above segment, IsSettled part := by
  unfold push
  split
  · split
    · simp
    · next last rest =>
      obtain ⟨_, more⟩ := List.forall_mem_cons.mp others
      split
      · exact others
      · exact more
  · next level =>
    split
    · exact others
    · next leads =>
      refine List.forall_mem_cons.mpr ⟨⟨⟨?_, ?_⟩, free, undivided⟩, others⟩
      · simpa using level
      · simpa using leads

theorem settled_walk {above segments : List Segment} (others : ∀ part ∈ above, IsSettled part)
    (free : ∀ part ∈ segments, ∀ c ∈ part, Percent.isFree Percent.inPath c = true)
    (undivided : ∀ part ∈ segments, ∀ c ∈ part, isSlash c = false) :
    ∀ part ∈ walk above segments, IsSettled part := by
  fun_induction walk above segments with
  | case1 above => simpa using others
  | case2 above last ends =>
    have pushed := settled_push others (free last (by simp)) (undivided last (by simp))
    simpa [or_imp, forall_and, isSettled_nil] using pushed
  | case3 above last stays =>
    have pushed := settled_push others (free last (by simp)) (undivided last (by simp))
    simpa using pushed
  | case4 above segment rest more ih =>
    obtain ⟨firstFree, laterFree⟩ := List.forall_mem_cons.mp free
    obtain ⟨firstUndivided, laterUndivided⟩ := List.forall_mem_cons.mp undivided
    exact ih (settled_push others firstFree firstUndivided) laterFree laterUndivided

theorem walk_ne_nil {above segments : List Segment} (some : segments ≠ []) : walk above segments ≠ [] := by
  fun_induction walk above segments with
  | case1 above => exact absurd rfl some
  | case2 above last ends => simp
  | case3 above last stays =>
    have plain : isUp last = false ∧ isHere last = false := by simpa using stays
    simp [push, plain]
  | case4 above segment rest more ih => exact ih more

theorem undivided_encode {segment : Segment} (undivided : ∀ c ∈ segment, isSlash c = false) :
    ∀ c ∈ Percent.encode Percent.inPath segment, isSlash c = false := by
  intro c member
  rcases Percent.free_or_escape_of_mem_encode (fun byte => forall_byte (by decide) byte) member with ⟨kept, _⟩ | escape
  · exact undivided c kept
  · have digits : "%0123456789ABCDEF".toList.all (fun c => !isSlash c) = true := by decide
    simpa using List.all_eq_true.mp digits c escape

theorem settled_readWeb (text : List Char) : Settled (readWeb text) := by
  have made (segments : List Segment) (some : segments ≠ []) (undivided : ∀ part ∈ segments, ∀ c ∈ part, isSlash c = false) :
      Settled (ofSegments segments) := by
    refine ⟨_, walk_ne_nil (by simpa using some), settled_walk (List.forall_mem_nil _) ?_ ?_, rfl⟩
    · intro part among
      obtain ⟨segment, _, rfl⟩ := List.mem_map.mp among
      intro c member
      exact Percent.isFree_of_mem_encode (fun byte => forall_byte (by decide) byte) (by decide) member
    · intro part among
      obtain ⟨segment, member, rfl⟩ := List.mem_map.mp among
      exact undivided_encode (undivided segment member)
  unfold readWeb
  split
  · exact ⟨[[]], by simp, by simp [isSettled_nil], rfl⟩
  · exact made _ (Text.splitAt_ne_nil _ _) fun part among => Text.not_mem_of_mem_splitAt among

end UrlPath

end Endpoints
