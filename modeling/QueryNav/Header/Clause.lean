import QueryNav.Text.Blank
import QueryNav.Text.Width

/-! The import clause. A clause is the word `import`, blanks, a module path made of letters, digits,
underscores and dots, and possibly blanks, `as`, blanks and an alias of letters, digits and
underscores. It may stand anywhere on a line; the leftmost one counts, its path and alias reach as far
as their characters do, and the word `import` is written in lower case. -/

namespace QueryNav.Header

open QueryNav.Text

/-- The characters of an alias, and of a module path apart from its dots. -/
def isNameChar (c : Char) : Bool :=
  ('a' ≤ c && c ≤ 'z') || ('A' ≤ c && c ≤ 'Z') || ('0' ≤ c && c ≤ '9') || c = '_'

def isPathChar (c : Char) : Bool := isNameChar c || c = '.'

def importWord : Text := ['i', 'm', 'p', 'o', 'r', 't']

def asWord : Text := ['a', 's']

/-- The text after one or more blanks. -/
def afterBlanks? (text : Text) : Option Text :=
  if text.takeWhile isBlank = [] then none else some (trimStart text)

structure Clause where
  path : Text
  /-- The byte offset of the module path in the line. -/
  start : Nat
  /-- The name given to the module, if there is one. -/
  alias? : Option Text
  deriving DecidableEq, Repr

/-- The byte offset just after the module path. -/
def Clause.stop (clause : Clause) : Nat := clause.start + width8 clause.path

/-- The alias at the very front of `text`, which is what follows a module path. -/
def aliasAt? (text : Text) : Option Text := do
  let word ← afterBlanks? text
  let rest ← after? asWord word
  let body ← afterBlanks? rest
  let name := body.takeWhile isNameChar
  if name = [] then none else some name

/-- The clause whose word `import` is at the very front of `text`, `offset` bytes into its line. -/
def clauseAt? (offset : Nat) (text : Text) : Option Clause := do
  let rest ← after? importWord text
  let body ← afterBlanks? rest
  let path := body.takeWhile isPathChar
  let start := offset + width8 importWord + width8 (rest.takeWhile isBlank)
  if path = [] then none else some { path, start, alias? := aliasAt? (body.dropWhile isPathChar) }

/-- The leftmost clause of `text`, which starts `offset` bytes into its line. -/
def clauseFrom? (offset : Nat) : Text → Option Clause
  | [] => none
  | c :: rest =>
    match clauseAt? offset (c :: rest) with
    | some clause => some clause
    | none => clauseFrom? (offset + c.utf8Size) rest

def clause? (line : Text) : Option Clause := clauseFrom? 0 line

end QueryNav.Header
