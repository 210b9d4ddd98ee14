import QueryNav.Header.Clause

/-! The header of a query. The header starts after a line that holds an opening marker and ends at the
first later line that holds a closing marker and no opening one; both markers are recognised in any
case. The import clauses on the lines in between are the imports of the query, in order. A closing
marker also ends the search when no header was opened before it. -/

namespace QueryNav.Header

open QueryNav.Text

/-- Whether some suffix of a text satisfies `test`, the empty one included. -/
def somewhere (test : Text → Bool) : Text → Bool
  | [] => test []
  | c :: rest => test (c :: rest) || somewhere test rest

/-- The text after `word`, letters compared without regard to case. -/
def afterFolded? (word text : Text) : Option Text :=
  if (text.take word.length).map lowerAscii = word then some (text.drop word.length) else none

/-- Whether the text starts with an opening marker: `<head` and then a blank or `>`. -/
def opensAt (text : Text) : Bool :=
  match afterFolded? ['<', 'h', 'e', 'a', 'd'] text with
  | some (c :: _) => isBlank c || c = '>'
  | _ => false

/-- Whether the text starts with a closing marker: `</head>`. -/
def closesAt (text : Text) : Bool :=
  (afterFolded? ['<', '/', 'h', 'e', 'a', 'd', '>'] text).isSome

def opens (line : Text) : Bool := somewhere opensAt line

def closes (line : Text) : Bool := somewhere closesAt line

structure Statement where
  /-- The whole line, without the blanks at its ends. -/
  line : Text
  path : Text
  alias? : Option Text
  /-- The number of the line in its document, counted from zero. -/
  number : Nat
  deriving DecidableEq, Repr

/-- The import on a header line, if it holds a clause. -/
def statement? (number : Nat) (line : Text) : Option Statement :=
  (clause? line).map fun clause => { line, path := clause.path, alias? := clause.alias?, number }

/-- The imports found on the lines from `number` on, `inside` telling whether the header is open. -/
def scanFrom (inside : Bool) (number : Nat) : List Text → List Statement
  | [] => []
  | raw :: rest =>
    let line := trim raw
    if opens line then scanFrom true (number + 1) rest
    else if closes line then []
    else if inside then (statement? number line).toList ++ scanFrom true (number + 1) rest
    else scanFrom false (number + 1) rest

def scan (lines : List Text) : List Statement := scanFrom false 0 lines

end QueryNav.Header
