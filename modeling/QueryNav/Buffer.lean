import QueryNav.Text.Line
import QueryNav.Text.Width

/-! The text of an open document and the editor's changes to it. The editor names a place by a line and
a column in UTF-16 units; `offset` turns it into a number of scalar values from the start. A column
past the end of a line means the end of its row, so behind the break, a column inside a character means
the start of the character, and a line past the last one means the end of the text. A change replaces
the characters between two such places, whichever of them comes first, or the whole text. -/

namespace QueryNav

open Text

/-- A place in a text, as the editor names it. -/
structure Position where
  line : Nat
  column : Nat
  deriving DecidableEq, Repr

namespace Buffer

/-- Whether all characters of a row are ASCII, so that each is one unit wide. -/
def isAscii (row : Text) : Bool := row.all fun c => c.toNat < 0x80

/-- The number of characters at the front of a row that fit into `room` UTF-16 units. -/
def charsWithin : (room : Nat) → Text → Nat
  | _, [] => 0
  | room, c :: rest => if units16 c ≤ room then charsWithin (room - units16 c) rest + 1 else 0

/-- The number of characters of a row before a column. An ASCII row needs no counting. -/
def charsBefore (row : Text) (column : Nat) : Nat :=
  if isAscii row then min column row.length else charsWithin column row

def lineStart (text : Text) (line : Nat) : Nat := ((rows text).take line).flatten.length

def offset (text : Text) (position : Position) : Nat :=
  match (rows text)[position.line]? with
  | some row => lineStart text position.line + charsBefore row position.column
  | none => text.length

/-- The lines of an open document, without their breaks. -/
def lines (text : Text) : List Text := (rows text).map content

/-- The text of the cursor's line up to the cursor, without any part of a break. -/
def before (text : Text) (cursor : Position) : Text :=
  match (rows text)[cursor.line]? with
  | some row => content (row.take (charsBefore row cursor.column))
  | none => []

/-- The text with the characters from `low` up to `high` replaced by `new`. -/
def splice (text : Text) (low high : Nat) (new : Text) : Text := text.take low ++ new ++ text.drop high

/-- A change of a text: what takes the place of a range, or of everything. -/
structure Change where
  range? : Option (Position × Position)
  text : Text
  deriving DecidableEq, Repr

def apply (text : Text) (change : Change) : Text :=
  match change.range? with
  | some (first, last) =>
    splice text (min (offset text first) (offset text last)) (max (offset text first) (offset text last))
      change.text
  | none => change.text

/-- The text after several changes, each made to the result of the one before. -/
def applyAll (text : Text) (changes : List Change) : Text := changes.foldl apply text

end Buffer

end QueryNav
