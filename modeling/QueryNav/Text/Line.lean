import QueryNav.Text.Basic

/-! Lines. A text breaks at a carriage return followed by a line feed, at a line feed, and at a
carriage return on its own; no other character ends a line, and a text with `n` breaks has `n + 1`
lines. There are two views: `lines` gives the lines without their breaks, as a file on disk is read,
and `rows` keeps each break at the end of its line, as an open document is edited. -/

namespace QueryNav.Text

/-- Whether a character takes part in a line break. -/
def isBreak (c : Char) : Bool := c = '\n' || c = '\r'

def consFirst (c : Char) : List Text → List Text
  | [] => [[c]]
  | line :: others => (c :: line) :: others

/-- The lines of a text, without their breaks. -/
def lines : Text → List Text
  | [] => [[]]
  | '\r' :: '\n' :: rest => [] :: lines rest
  | c :: rest => if isBreak c then [] :: lines rest else consFirst c (lines rest)

/-- The lines of a text, each with the break that ends it. -/
def rows : Text → List Text
  | [] => [[]]
  | '\r' :: '\n' :: rest => ['\r', '\n'] :: rows rest
  | c :: rest => if isBreak c then [c] :: rows rest else consFirst c (rows rest)

/-- A row without the break at its end. -/
def content (row : Text) : Text := trimEndWhile isBreak row

end QueryNav.Text
