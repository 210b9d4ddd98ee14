import QueryNav.Json.Value
import QueryNav.Text.Hex

/-! Writing JSON. Inside a string only the quote, the backslash and the control characters below the
space are escaped, the common ones by a letter and the rest by four hexadecimal digits; everything
else stands for itself. A style says what is written between the parts of a value: `pretty` gives every
item and field a line of its own, indented by two spaces a level, and `compact` writes nothing. -/

namespace QueryNav.Json

open Text

/-- What stands between the parts of a printed value. -/
structure Style where
  /-- Written before every item of a container at this depth, and before the container's end. -/
  lineBreak : Nat → Text
  /-- Written between a field's name and its value. -/
  colon : Text

/-- One item a line, two spaces of indentation a level, and a space after each colon. -/
def Style.pretty : Style := ⟨fun depth => '\n' :: List.replicate (2 * depth) ' ', [':', ' ']⟩

/-- No white space at all. -/
def Style.compact : Style := ⟨fun _ => [], [':']⟩

/-- The letter that stands for a character behind a backslash. -/
def escapeLetter? (c : Char) : Option Char :=
  if c = '"' then some '"'
  else if c = '\\' then some '\\'
  else if c = '\n' then some 'n'
  else if c = '\r' then some 'r'
  else if c = '\t' then some 't'
  else if c = '\x08' then some 'b'
  else if c = '\x0c' then some 'f'
  else none

/-- A character as it is written inside a string. -/
def escape (c : Char) : Text :=
  match escapeLetter? c with
  | some letter => ['\\', letter]
  | none =>
    if c.toNat < 0x20 then
      ['\\', 'u', '0', '0', hexLower (c.toNat / 16), hexLower (c.toNat % 16)]
    else [c]

def quote (text : Text) : Text := '"' :: (text.flatMap escape ++ ['"'])

def decimal (value : Int) : Text :=
  if value < 0 then '-' :: Nat.toDigits 10 value.natAbs else Nat.toDigits 10 value.natAbs

mutual

/-- A value as text, `depth` containers deep. -/
def printAt (style : Style) (depth : Nat) : Json → Text
  | .null => ['n', 'u', 'l', 'l']
  | .bool true => ['t', 'r', 'u', 'e']
  | .bool false => ['f', 'a', 'l', 's', 'e']
  | .int value => decimal value
  | .real literal => literal
  | .str text => quote text
  | .arr [] => ['[', ']']
  | .arr (item :: items) =>
    '[' :: (style.lineBreak (depth + 1) ++ printAt style (depth + 1) item ++
      printItems style (depth + 1) items ++ style.lineBreak depth ++ [']'])
  | .obj [] => ['\x7b', '\x7d']
  | .obj ((name, value) :: fields) =>
    '\x7b' :: (style.lineBreak (depth + 1) ++ quote name ++ style.colon ++
      printAt style (depth + 1) value ++
      printFields style (depth + 1) fields ++ style.lineBreak depth ++ ['\x7d'])

/-- The items of an array after the first. -/
def printItems (style : Style) (depth : Nat) : List Json → Text
  | [] => []
  | item :: items =>
    ',' :: (style.lineBreak depth ++ printAt style depth item ++ printItems style depth items)

/-- The fields of an object after the first. -/
def printFields (style : Style) (depth : Nat) : List (Text × Json) → Text
  | [] => []
  | (name, value) :: fields =>
    ',' :: (style.lineBreak depth ++ quote name ++ style.colon ++ printAt style depth value ++
      printFields style depth fields)

end

def print (style : Style) (json : Json) : Text := printAt style 0 json

end QueryNav.Json
