import Endpoints.Layout.Doc

/-! Writing a document in lines. Each box and each gap is measured up to the next gap that is no deeper,
and is broken if that does not fit on the rest of the line. -/

namespace Endpoints.Layout

/-- A document as a sequence. -/
inductive Piece where
  | text (value : String)
  | gap (gap : Gap)
  | opening (shift : Int) (uniform : Bool)
  | closing
  | overflow

/-- A box that holds one gap and nothing else is left out, and so is an inner gap at the end of a box.
The pieces before the end are reversed. -/
def close (opening : Piece) (reversed : List Piece) : List Piece :=
  match reversed with
  | [.gap _] => []
  | .gap last :: rest =>
    if last.inner then opening :: rest.reverse ++ [.closing] else opening :: reversed.reverse ++ [.closing]
  | _ => opening :: reversed.reverse ++ [.closing]

mutual

def pieces : Doc → List Piece
  | .text value => [.text value]
  | .gap gap => [.gap gap]
  | .box shift uniform content => close (.opening shift uniform) (piecesAll content).reverse
  | .overflow => [.overflow]
  | .unsupported _ => []

def piecesAll : List Doc → List Piece
  | [] => []
  | doc :: rest => pieces doc ++ piecesAll rest

end

/-- A piece, and for a box or a gap the width up to the next gap that is no deeper. -/
structure Measured where
  piece : Piece
  size : Nat

/-- The measured pieces, their width, and the widths from the next gap of each depth to the end, the
innermost depth first. -/
structure Measure where
  pieces : List Measured
  total : Nat
  next : Nat
  outer : List Nat

def measureStep (piece : Piece) (after : Measure) : Measure :=
  match piece with
  | .text value => { after with
      pieces := ⟨piece, 0⟩ :: after.pieces, total := after.total + value.utf8ByteSize }
  | .overflow => { after with pieces := ⟨piece, 0⟩ :: after.pieces, total := after.total + Doc.unbounded }
  | .closing => { after with pieces := ⟨piece, 0⟩ :: after.pieces, outer := after.next :: after.outer }
  | .opening .. =>
    let next := after.outer.head?.getD 0
    { after with
      pieces := ⟨piece, after.total - next⟩ :: after.pieces, next, outer := after.outer.tail }
  | .gap gap =>
    let total := after.total + gap.blanks
    { after with pieces := ⟨piece, total - after.next⟩ :: after.pieces, total, next := total }

def measure (pieces : List Piece) : List Measured :=
  (pieces.foldr measureStep ⟨[], 0, 0, []⟩).pieces

def margin : Int := 89

/-- The width that a line has at least, however far it is moved in. -/
def leastSpace : Int := 60

/-- A box that is being written: the indentation around it if it is broken, and whether it is uniform. -/
structure Frame where
  around : Option Int
  uniform : Bool

/-- What has been written, the room left on the line, the indentation of lines, and the blanks that stand
before the next text. -/
structure Line where
  written : String
  room : Int
  indent : Int
  blanks : Nat
  frames : List Frame

def blanksText (count : Nat) : String := String.ofList (List.replicate count ' ')

def Line.write (line : Line) (value : String) : Line :=
  { line with
    written := line.written ++ blanksText line.blanks ++ value
    blanks := 0
    room := line.room - value.utf8ByteSize }

/-- Writes a text that may be empty, without the blanks before it when it is. -/
def Line.writeNonempty (line : Line) (value : String) : Line :=
  if value.isEmpty then line else line.write value

def Line.fits (line : Line) (gap : Gap) (size : Nat) : Bool :=
  gap.fixed || match line.frames with
    | ⟨none, _⟩ :: _ => true
    | ⟨some _, true⟩ :: _ => false
    | ⟨some _, false⟩ :: _ => (size : Int) ≤ line.room
    | [] => (size : Int) ≤ line.room

def Line.step (line : Line) (measured : Measured) : Line :=
  match measured.piece with
  | .text value => line.write value
  | .overflow => line.write ""
  | .opening shift uniform =>
    if (measured.size : Int) > line.room then
      { line with
        frames := ⟨some line.indent, uniform⟩ :: line.frames, indent := line.indent + shift }
    else { line with frames := ⟨none, uniform⟩ :: line.frames }
  | .closing =>
    let indent := match line.frames with
      | ⟨some around, _⟩ :: _ => around
      | _ => line.indent
    { line with frames := line.frames.tail, indent }
  | .gap gap =>
    if line.fits gap measured.size then
      { line with
        blanks := line.blanks + gap.blanks
        room := line.room - gap.blanks - gap.instead.utf8ByteSize
        written := line.written ++ gap.instead }
    else
      let ended := line.writeNonempty gap.before
      let indent := line.indent + gap.shift
      Line.writeNonempty { ended with
        written := ended.written ++ "\n"
        blanks := indent.toNat
        room := max (margin - indent) leastSpace } gap.after

def write (pieces : List Piece) : String :=
  ((measure pieces).foldl Line.step ⟨"", margin, 0, 0, []⟩).written

mutual

/-- The first part of a document that has no layout. -/
def firstUnsupported : Doc → Option String
  | .unsupported what => some what
  | .box _ _ content => firstUnsupportedOf content
  | _ => none

def firstUnsupportedOf : List Doc → Option String
  | [] => none
  | doc :: rest => (firstUnsupported doc).orElse fun _ => firstUnsupportedOf rest

end

def render (docs : Docs) : Except String String :=
  match firstUnsupportedOf docs with
  | some what => .error what
  | none => .ok (write (piecesAll docs))

end Endpoints.Layout
