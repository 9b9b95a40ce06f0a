import Endpoints.Layout.Item
import Endpoints.Layout.Render
import Mathlib.Data.List.Basic

/-! A file is laid out item by item. Its box is broken wherever it may be, since the line break after an item is
wider than any line, and a line break at its level brings the writing of lines back to where it started. -/

namespace Endpoints.Layout

def Piece.IsPlain : Piece → Prop
  | .text _ | .gap _ | .overflow => True
  | .opening .. | .closing => False

/-- Every box that is opened is closed. -/
inductive Balanced : List Piece → Prop where
  | nil : Balanced []
  | plain {piece rest} (plain : piece.IsPlain) (others : Balanced rest) : Balanced (piece :: rest)
  | box {shift uniform content rest} (inside : Balanced content) (others : Balanced rest) :
      Balanced (.opening shift uniform :: (content ++ .closing :: rest))

namespace Balanced

variable {first second : List Piece}

theorem append (balanced : Balanced first) (others : Balanced second) : Balanced (first ++ second) := by
  induction balanced with
  | nil => exact others
  | plain isPlain _ ih => exact .plain isPlain ih
  | box inside _ _ ih =>
    rw [List.cons_append, List.append_assoc, List.cons_append]
    exact .box inside ih

theorem before_gap {last : Gap} (balanced : Balanced (first ++ [.gap last])) : Balanced first := by
  generalize whole : first ++ [.gap last] = pieces at balanced
  induction balanced generalizing first with
  | nil => simp at whole
  | plain isPlain others ih =>
    cases first with
    | nil => exact .nil
    | cons piece more =>
      obtain ⟨rfl, rest⟩ := List.cons.inj whole
      exact .plain isPlain (ih rest)
  | @box shift uniform content rest inside others _ ih =>
    -- the last piece is no closing one, so it stands after the box
    rcases List.eq_nil_or_concat rest with rfl | ⟨more, final, rfl⟩
    · rw [← List.cons_append] at whole
      cases (List.append_inj' whole rfl).2
    · rw [List.concat_eq_append, ← List.cons_append, ← List.cons_append, ← List.append_assoc] at whole
      obtain ⟨rfl, same⟩ := List.append_inj' whole rfl
      exact .box inside (ih (by rw [List.concat_eq_append, same]))

end Balanced

theorem balanced_close {shift : Int} {uniform : Bool} {content : List Piece} (inside : Balanced content) :
    Balanced (close (.opening shift uniform) content.reverse) := by
  have closed {content : List Piece} (inside : Balanced content) :
      Balanced (.opening shift uniform :: content ++ [.closing]) := .box inside .nil
  unfold close
  split
  · exact .nil
  next last rest _ reversed =>
    obtain rfl : content = rest.reverse ++ [.gap last] := by
      rw [← List.reverse_inj, reversed, List.reverse_append, List.reverse_reverse]
      rfl
    split
    · exact closed inside.before_gap
    · rw [List.reverse_reverse]
      exact closed inside
  · rw [List.reverse_reverse]
    exact closed inside

mutual

theorem balanced_pieces : ∀ doc : Doc, Balanced (pieces doc)
  | .text _ | .gap _ | .overflow => .plain trivial .nil
  | .unsupported _ => .nil
  | .box _ _ content => balanced_close (balanced_piecesAll content)

theorem balanced_piecesAll : ∀ docs : Docs, Balanced (piecesAll docs)
  | [] => .nil
  | doc :: rest => (balanced_pieces doc).append (balanced_piecesAll rest)

end

theorem piecesAll_append (first second : Docs) :
    piecesAll (first ++ second) = piecesAll first ++ piecesAll second := by
  induction first with
  | nil => rfl
  | cons doc rest ih => simp [piecesAll, ih]

/-! Measuring -/

/-- Widths to the end that differ by a width. The same boxes are measured alike before both. -/
structure Alike (more : Nat) (one other : Measure) : Prop where
  total : other.total = one.total + more
  next : other.next = one.next + more

theorem Alike.refl (after : Measure) : Alike 0 after after := ⟨rfl, rfl⟩

theorem Piece.IsPlain.alike {piece : Piece} (isPlain : piece.IsPlain) {more : Nat} {one other : Measure}
    (alike : Alike more one other) :
    Alike more (measureStep piece one) (measureStep piece other) ∧
      (measureStep piece one).outer = one.outer ∧ (measureStep piece other).outer = other.outer ∧
      ∃ size, (measureStep piece one).pieces = ⟨piece, size⟩ :: one.pieces ∧
        (measureStep piece other).pieces = ⟨piece, size⟩ :: other.pieces := by
  obtain ⟨total, next⟩ := alike
  cases piece with
  | text value =>
    refine ⟨⟨?_, next⟩, rfl, rfl, 0, rfl, rfl⟩
    simp only [measureStep, total]
    omega
  | overflow =>
    refine ⟨⟨?_, next⟩, rfl, rfl, 0, rfl, rfl⟩
    simp only [measureStep, total]
    omega
  | gap gap =>
    have size : other.total + gap.blanks - other.next = one.total + gap.blanks - one.next := by omega
    refine ⟨⟨?_, ?_⟩, rfl, rfl, one.total + gap.blanks - one.next, rfl, ?_⟩
    · simp only [measureStep, total]
      omega
    · simp only [measureStep, total]
      omega
    · simp [measureStep, size]
  | opening _ _ | closing => exact isPlain.elim

/-- Balanced pieces are measured alike before ends that are alike, and leave the boxes around them alone. -/
theorem Balanced.alike {content : List Piece} (balanced : Balanced content) {more : Nat} {one other : Measure}
    (alike : Alike more one other) :
    Alike more (content.foldr measureStep one) (content.foldr measureStep other) ∧
      (content.foldr measureStep one).outer = one.outer ∧
      (content.foldr measureStep other).outer = other.outer ∧
      ∃ measured : List Measured, measured.map Measured.piece = content ∧
        (content.foldr measureStep one).pieces = measured ++ one.pieces ∧
        (content.foldr measureStep other).pieces = measured ++ other.pieces := by
  induction balanced generalizing one other with
  | nil => exact ⟨alike, rfl, rfl, [], rfl, rfl, rfl⟩
  | @plain piece rest isPlain _ ih =>
    obtain ⟨behind, outer, outerToo, measured, of, pieces, piecesToo⟩ := ih alike
    obtain ⟨before, kept, keptToo, size, first, firstToo⟩ := isPlain.alike behind
    simp only [List.foldr_cons]
    exact ⟨before, kept.trans outer, keptToo.trans outerToo, ⟨piece, size⟩ :: measured,
      by rw [List.map_cons, of], by rw [first, pieces]; rfl, by rw [firstToo, piecesToo]; rfl⟩
  | @box shift uniform content rest _ _ inside others =>
    -- the closing piece keeps the width to the next gap, and the opening one finds it again
    obtain ⟨⟨total, next⟩, outer, outerToo, after, ofAfter, pieces, piecesToo⟩ := others alike
    have closed : Alike more (measureStep .closing (rest.foldr measureStep one))
        (measureStep .closing (rest.foldr measureStep other)) := ⟨total, next⟩
    obtain ⟨⟨innerTotal, _⟩, innerOuter, innerOuterToo, within, ofWithin, innerPieces, innerPiecesToo⟩ :=
      inside closed
    simp only [List.foldr_cons, List.foldr_append]
    generalize rest.foldr measureStep one = left at *
    generalize rest.foldr measureStep other = right at *
    simp only [measureStep] at innerTotal innerOuter innerOuterToo innerPieces innerPiecesToo ⊢
    generalize content.foldr measureStep _ = before at *
    generalize content.foldr measureStep _ = beforeToo at *
    have size : beforeToo.total - right.next = before.total - left.next := by omega
    refine ⟨⟨innerTotal, ?_⟩, ?_, ?_,
      ⟨.opening shift uniform, before.total - left.next⟩ :: (within ++ ⟨.closing, 0⟩ :: after), ?_⟩
    · simp [innerOuter, innerOuterToo, next]
    · simp [innerOuter, outer]
    · simp [innerOuterToo, outerToo]
    · simp [innerOuter, innerOuterToo, innerPieces, innerPiecesToo, pieces, piecesToo, ofWithin, ofAfter, size]

theorem Balanced.measure_append {content : List Piece} (balanced : Balanced content) {after : Measure}
    (settled : after.total = after.next) :
    (content.foldr measureStep after).pieces = measure content ++ after.pieces := by
  have alike : Alike after.total ⟨[], 0, 0, []⟩ after := ⟨by simp, by simp [settled]⟩
  obtain ⟨-, -, -, measured, -, alone, before⟩ := balanced.alike alike
  rw [before, measure, alone, List.append_nil]

theorem Balanced.map_measure {content : List Piece} (balanced : Balanced content) :
    (measure content).map Measured.piece = content := by
  obtain ⟨-, -, -, measured, of, alone, -⟩ := balanced.alike (.refl ⟨[], 0, 0, []⟩)
  rw [measure, alone, List.append_nil, of]

theorem Balanced.outer_foldr {content : List Piece} (balanced : Balanced content) (after : Measure) :
    (content.foldr measureStep after).outer = after.outer :=
  (balanced.alike (.refl after)).2.1

theorem le_total_foldr (content : List Piece) (after : Measure) :
    after.total ≤ (content.foldr measureStep after).total := by
  induction content with
  | nil => exact Nat.le_refl _
  | cons piece rest ih =>
    refine Nat.le_trans ih ?_
    rw [List.foldr_cons]
    cases piece <;> simp [measureStep]

/-! Writing -/

/-- A line with more written before it. -/
def Line.behind (line : Line) (written : String) : Line := { line with written := written ++ line.written }

/-- What has been written has no effect on what is written next. -/
theorem Line.step_behind (line : Line) (written : String) (measured : Measured) :
    (line.behind written).step measured = (line.step measured).behind written := by
  obtain ⟨piece, size⟩ := measured
  have fits (gap : Gap) : (line.behind written).fits gap size = line.fits gap size := rfl
  cases piece with
  | text | overflow => simp [step, write, behind, String.append_assoc]
  | opening shift uniform =>
    by_cases wide : (size : Int) > line.room <;> simp [step, behind, wide]
  | closing => rfl
  | gap gap =>
    simp only [step, fits]
    split
    · simp [behind, String.append_assoc]
    · unfold writeNonempty
      split <;> split <;> simp [write, behind, String.append_assoc]

theorem Line.foldl_behind (measured : List Measured) (line : Line) (written : String) :
    measured.foldl step (line.behind written) = (measured.foldl step line).behind written := by
  induction measured generalizing line with
  | nil => rfl
  | cons first rest ih => rw [List.foldl_cons, step_behind, ih, List.foldl_cons]

theorem Piece.IsPlain.step_eq {piece : Piece} (isPlain : piece.IsPlain) (line : Line) (size : Nat) :
    (line.step ⟨piece, size⟩).frames = line.frames ∧ (line.step ⟨piece, size⟩).indent = line.indent := by
  cases piece with
  | text | overflow => exact ⟨rfl, rfl⟩
  | gap gap =>
    simp only [Line.step, Line.writeNonempty, Line.write]
    split
    · exact ⟨rfl, rfl⟩
    · split <;> split <;> exact ⟨rfl, rfl⟩
  | opening _ _ | closing => exact isPlain.elim

theorem Balanced.frames_foldl {measured : List Measured} (balanced : Balanced (measured.map Measured.piece))
    (line : Line) :
    (measured.foldl Line.step line).frames = line.frames ∧ (measured.foldl Line.step line).indent = line.indent := by
  generalize of : measured.map Measured.piece = content at balanced
  induction balanced generalizing measured line with
  | nil =>
    obtain rfl := List.map_eq_nil_iff.mp of
    exact ⟨rfl, rfl⟩
  | plain isPlain _ ih =>
    obtain ⟨⟨piece, size⟩, rest, rfl, rfl, rfl⟩ := List.map_eq_cons_iff.mp of
    obtain ⟨frames, indent⟩ := isPlain.step_eq line size
    rw [List.foldl_cons, ← frames, ← indent]
    exact ih _ rfl
  | @box shift uniform content rest _ _ inside others =>
    obtain ⟨⟨_, size⟩, opened, rfl, rfl, ofOpened⟩ := List.map_eq_cons_iff.mp of
    obtain ⟨within, closing, rfl, rfl, ofClosing⟩ := List.map_eq_append_iff.mp ofOpened
    obtain ⟨⟨_, closed⟩, after, rfl, rfl, rfl⟩ := List.map_eq_cons_iff.mp ofClosing
    rw [List.foldl_cons, List.foldl_append, List.foldl_cons]
    obtain ⟨frames, indent⟩ := inside (line.step ⟨.opening shift uniform, size⟩) rfl
    obtain ⟨framesAfter, indentAfter⟩ := others
      ((within.foldl Line.step (line.step ⟨.opening shift uniform, size⟩)).step ⟨.closing, closed⟩) rfl
    rw [framesAfter, indentAfter]
    simp only [Line.step] at frames indent ⊢
    split at frames
    · rw [if_pos ‹_›] at indent ⊢
      simp [frames]
    · rw [if_neg ‹_›] at indent ⊢
      simp [frames, indent]

/-! The items of a file -/

def lineStart (written : String) : Line := ⟨written, margin, 0, 0, [⟨some 0, true⟩]⟩

def linesOf (part : List Piece) : String :=
  ((measure part).foldl Line.step (lineStart "")).written ++ "\n"

theorem foldl_part {part : List Piece} (balanced : Balanced part) (written : String) (size : Nat) :
    ((measure part).foldl Line.step (lineStart written)).step ⟨.gap { blanks := Doc.unbounded }, size⟩ =
      lineStart (written ++ linesOf part) := by
  have from_start : lineStart written = (lineStart "").behind written := by
    simp [lineStart, Line.behind]
  obtain ⟨frames, indent⟩ := Balanced.frames_foldl (balanced.map_measure.symm ▸ balanced) (lineStart "")
  rw [from_start, Line.foldl_behind, Line.step_behind]
  unfold linesOf
  generalize (measure part).foldl Line.step (lineStart "") = line at *
  obtain ⟨done, room, lineIndent, blanks, lineFrames⟩ := line
  obtain rfl : lineFrames = [⟨some 0, true⟩] := frames
  obtain rfl : lineIndent = 0 := indent
  have room : max margin leastSpace = margin := by decide
  simp [Line.step, Line.fits, Line.writeNonempty, Line.behind, lineStart, room]

def brokenAfter (parts : List (List Piece)) : List Piece := parts.flatMap (· ++ [.gap { blanks := Doc.unbounded }])

theorem balanced_brokenAfter {parts : List (List Piece)} (balanced : ∀ part ∈ parts, Balanced part) :
    Balanced (brokenAfter parts) := by
  induction parts with
  | nil => exact .nil
  | cons part rest ih =>
    obtain ⟨first, others⟩ := List.forall_mem_cons.mp balanced
    have broken : Balanced (part ++ [.gap { blanks := Doc.unbounded }]) := first.append (.plain (by trivial) .nil)
    exact broken.append (ih others)

theorem foldl_brokenAfter {parts : List (List Piece)} (balanced : ∀ part ∈ parts, Balanced part) (after : Measure)
    (written : String) :
    ((brokenAfter parts).foldr measureStep after).pieces.foldl Line.step (lineStart written) =
      after.pieces.foldl Line.step (lineStart (written ++ String.join (parts.map linesOf))) := by
  induction parts generalizing written with
  | nil => simp [brokenAfter]
  | cons part rest ih =>
    obtain ⟨first, others⟩ := List.forall_mem_cons.mp balanced
    have split : brokenAfter (part :: rest) = part ++ .gap { blanks := Doc.unbounded } :: brokenAfter rest := by
      simp [brokenAfter]
    rw [split, List.foldr_append, List.foldr_cons, first.measure_append rfl, List.foldl_append]
    simp only [measureStep]
    rw [List.foldl_cons, foldl_part first, ih others]
    simp [String.append_assoc]

/-- Parts with line breaks after them, in a box, are the lines of each part. -/
theorem write_brokenAfter {parts : List (List Piece)} (balanced : ∀ part ∈ parts, Balanced part) :
    write (.opening 0 true :: brokenAfter parts ++ [.closing]) = String.join (parts.map linesOf) := by
  have outer := (balanced_brokenAfter balanced).outer_foldr (measureStep .closing ⟨[], 0, 0, []⟩)
  have lines := foldl_brokenAfter balanced (measureStep .closing ⟨[], 0, 0, []⟩) ""
  cases parts with
  | nil => decide
  | cons part rest =>
    have wide : Doc.unbounded ≤
        ((brokenAfter (part :: rest)).foldr measureStep (measureStep .closing ⟨[], 0, 0, []⟩)).total := by
      have split : brokenAfter (part :: rest) = part ++ .gap { blanks := Doc.unbounded } :: brokenAfter rest := by
        simp [brokenAfter]
      rw [split, List.foldr_append, List.foldr_cons]
      refine Nat.le_trans ?_ (le_total_foldr part _)
      exact Nat.le_add_left _ _
    unfold write measure
    rw [List.cons_append, List.foldr_cons, List.foldr_append, List.foldr_cons, List.foldr_nil]
    generalize (brokenAfter (part :: rest)).foldr measureStep (measureStep .closing ⟨[], 0, 0, []⟩) = before at *
    have broken : ((before.total - before.outer.head?.getD 0 : Nat) : Int) > margin := by
      simp only [outer, measureStep, List.head?_cons, Option.getD_some, margin, Doc.unbounded] at wide ⊢
      omega
    have opened : (⟨"", margin, 0, 0, []⟩ : Line).step
        ⟨.opening 0 true, before.total - before.outer.head?.getD 0⟩ = lineStart "" := by
      simp only [Line.step]
      rw [if_pos broken]
      rfl
    rw [measureStep, List.foldl_cons, opened, lines]
    simp [measureStep, Line.step, lineStart]

theorem firstUnsupportedOf_append (first second : Docs) :
    firstUnsupportedOf (first ++ second) = (firstUnsupportedOf first).or (firstUnsupportedOf second) := by
  induction first with
  | nil => rfl
  | cons doc rest ih =>
    rw [List.cons_append, firstUnsupportedOf, firstUnsupportedOf, ih]
    cases firstUnsupported doc <;> rfl

section
variable (kept : Kept)

def itemPart (item : Item) : List Piece := piecesAll (itemDocs kept item).dropLast

theorem itemDocs_eq (item : Item) : itemDocs kept item = (itemDocs kept item).dropLast ++ [Doc.hard] := by
  obtain ⟨docs, ends⟩ : ∃ docs, itemDocs kept item = docs ++ [Doc.hard] := by
    cases item <;> exact ⟨_, rfl⟩
  rw [ends, List.dropLast_concat]

theorem itemPart_ne_nil (item : Item) : itemPart kept item ≠ [] := by
  have ends (docs : Docs) (value : String) :
      piecesAll (docs ++ Doc.word value ++ [Doc.hard]).dropLast ≠ [] := by
    simp [piecesAll_append, Doc.word, piecesAll, pieces]
  match item with
  | .trait _ | .structure _ | .function _ | .implementation _ => exact ends _ "\x7d"
  | .module .. | .other _ => exact ends [] _

def itemLines (item : Item) : Except String String :=
  match firstUnsupportedOf (itemDocs kept item) with
  | some what => .error what
  | none => .ok (linesOf (itemPart kept item))

theorem piecesAll_items (items : List Item) :
    piecesAll (items.flatMap (itemDocs kept)) = brokenAfter (items.map (itemPart kept)) := by
  induction items with
  | nil => rfl
  | cons item rest ih =>
    have first : piecesAll (itemDocs kept item) = itemPart kept item ++ [.gap { blanks := Doc.unbounded }] := by
      rw [itemDocs_eq, piecesAll_append]
      rfl
    rw [List.flatMap_cons, piecesAll_append, ih, first]
    rfl

theorem piecesAll_fileDocs (items : List Item) :
    piecesAll (fileDocs kept ⟨[], items⟩) =
      .opening 0 true :: brokenAfter (items.map (itemPart kept)) ++ [.closing] := by
  change close (.opening 0 true) (piecesAll (items.flatMap (itemDocs kept))).reverse ++ [] = _
  rw [List.append_nil, piecesAll_items]
  rcases List.eq_nil_or_concat items with rfl | ⟨before, last, rfl⟩
  · rfl
  · have ends : brokenAfter ((before.concat last).map (itemPart kept)) =
        brokenAfter (before.map (itemPart kept)) ++ itemPart kept last ++ [.gap { blanks := Doc.unbounded }] := by
      simp [brokenAfter]
    -- the line break at the end stays, since it does not stand alone and is no inner one
    obtain ⟨others, final, found⟩ := List.eq_nil_or_concat (itemPart kept last) |>.resolve_left
      (itemPart_ne_nil kept last)
    rw [ends, found]
    simp [close]

theorem mapM_itemLines (items : List Item) :
    items.mapM (itemLines kept) =
      match firstUnsupportedOf (items.flatMap (itemDocs kept)) with
      | some what => .error what
      | none => .ok ((items.map (itemPart kept)).map linesOf) := by
  induction items with
  | nil => rfl
  | cons item rest ih =>
    rw [List.mapM_cons, ih, List.flatMap_cons, firstUnsupportedOf_append, itemLines]
    cases firstUnsupportedOf (itemDocs kept item) with
    | some what => rfl
    | none => cases firstUnsupportedOf (rest.flatMap (itemDocs kept)) <;> rfl

theorem render_items (items : List Item) :
    render (fileDocs kept ⟨[], items⟩) = (items.mapM (itemLines kept)).map String.join := by
  have balanced : ∀ part ∈ items.map (itemPart kept), Balanced part := by
    intro part member
    obtain ⟨item, -, rfl⟩ := List.mem_map.mp member
    exact balanced_piecesAll _
  have unsupported : firstUnsupportedOf (fileDocs kept ⟨[], items⟩) =
      firstUnsupportedOf (items.flatMap (itemDocs kept)) := by
    change (firstUnsupportedOf (items.flatMap (itemDocs kept))).orElse (fun _ => none) = _
    cases firstUnsupportedOf (items.flatMap (itemDocs kept)) <;> rfl
  rw [render, unsupported, piecesAll_fileDocs, write_brokenAfter balanced, mapM_itemLines]
  cases firstUnsupportedOf (items.flatMap (itemDocs kept)) <;> rfl

end

end Endpoints.Layout
