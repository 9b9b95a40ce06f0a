/-! Documents: text with gaps at which a line may be broken, grouped in boxes. A box that does not fit on
the line breaks at all its gaps when it is uniform, and otherwise only at those after which the text up to
the next gap does not fit. -/

namespace Endpoints

/-- A gap is some blanks on a line that goes on, or a line break. `shift` moves the line after it,
`before` ends the line that is broken and `after` starts the next one, `instead` stands in a line that
goes on. -/
structure Gap where
  blanks : Nat := 0
  shift : Int := 0
  before : String := ""
  after : String := ""
  instead : String := ""
  /-- The gap is left out at the end of a box. -/
  inner : Bool := false
  /-- The gap is never broken. -/
  fixed : Bool := false
  deriving DecidableEq, Repr

inductive Doc where
  | text (value : String)
  | gap (gap : Gap)
  /-- What follows a box of which `shift` moves the broken lines. -/
  | box (shift : Int) (uniform : Bool) (content : List Doc)
  /-- No text, but wider than any line. -/
  | overflow
  /-- Something that has no layout, and what it is. -/
  | unsupported (what : String)

abbrev Docs := List Doc

namespace Doc

/-- Wider than any line. -/
def unbounded : Nat := 0xffff

def indentation : Int := 4

def word (value : String) : Docs := [.text value]

def zero : Doc := .gap {}

def space : Doc := .gap { blanks := 1 }

def hard : Doc := .gap { blanks := unbounded }

/-- A blank at which no line is broken. -/
def blank : Docs := [.text " "]

def innerHard : Doc := .gap { blanks := unbounded, inner := true }

def innerSpace : Doc := .gap { blanks := 1, inner := true }

def fixed : Doc := .gap { fixed := true }

/-- A comma, which is left out where the last line goes on. -/
def lastComma : Doc := .gap { before := "," }

def lastCommaOrSpace : Doc := .gap { blanks := 1, before := "," }

/-- Moves the line after the last gap. -/
def shiftLast (amount : Int) : Docs → Docs
  | [] => []
  | [.gap last] => [.gap { last with shift := last.shift + amount }]
  | first :: rest => first :: shiftLast amount rest

/-- Moves the line after the last gap one level out. -/
def outdent (docs : Docs) : Docs := shiftLast (-indentation) docs

def uniform (shift : Int) (content : Docs) : Docs := [.box shift true content]

def flexible (shift : Int) (content : Docs) : Docs := [.box shift false content]

def commas (last : Doc) : List Docs → Docs
  | [] => []
  | [part] => part ++ [last]
  | part :: rest => part ++ [.text ",", space] ++ commas last rest

def separated (separator : Docs) : List Docs → Docs
  | [] => []
  | [part] => part
  | part :: rest => part ++ separator ++ separated separator rest

/-- Parts on one line, or one on each line. -/
def list (parts : List Docs) : Docs :=
  uniform indentation (outdent (zero :: commas lastComma parts))

/-- A single part with a comma after it in any case. -/
def single (part : Docs) : Docs :=
  uniform indentation (outdent (zero :: part ++ [.text ",", zero]))

/-- The lines of a body, each moved in. -/
def body (lines : Docs) : Docs := outdent (innerHard :: lines)

mutual

def width : Doc → Nat
  | .text value => value.utf8ByteSize
  | .gap between => between.blanks
  | .box _ _ content => widthAll content
  | .overflow => unbounded
  | .unsupported _ => 0

def widthAll : List Doc → Nat
  | [] => 0
  | doc :: rest => doc.width + widthAll rest

end

/-- A box that breaks when it is wider than `limit`, whatever the line leaves. -/
def uniformUpTo (limit : Nat) (shift : Int) (content : Docs) : Docs :=
  uniform shift (if widthAll content > limit then content ++ [.overflow] else content)

end Doc

end Endpoints
