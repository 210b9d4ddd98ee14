import QueryNav.Json.Value
import QueryNav.Text.Hex

/-! Reading JSON. The reader takes one value off the front of a text and gives back the rest; each step
of it takes at least one character, so the length of the text bounds its work. A character outside the
basic multilingual plane may be written as the escapes of its two UTF-16 units, and half of such a pair
on its own is refused. -/

namespace QueryNav.Json

open Text

/-- The blanks that may stand between the parts of a value. -/
def isSpace (c : Char) : Bool := c = ' ' || c = '\n' || c = '\r' || c = '\t'

def skipSpace (text : Text) : Text := text.dropWhile isSpace

def hex4? (a b c d : Char) : Option Nat := do
  let a ← hexValue? a
  let b ← hexValue? b
  let c ← hexValue? c
  let d ← hexValue? d
  some (((a * 16 + b) * 16 + c) * 16 + d)

/-- The code point that a letter behind a backslash stands for. -/
def escapeCode? (letter : Char) : Option Nat :=
  if letter = '"' then some 0x22
  else if letter = '\\' then some 0x5C
  else if letter = '/' then some 0x2F
  else if letter = 'n' then some 0x0A
  else if letter = 'r' then some 0x0D
  else if letter = 't' then some 0x09
  else if letter = 'b' then some 0x08
  else if letter = 'f' then some 0x0C
  else none

/-- The codes of a string, read up to and including its closing quote. A code is a code point or, when
it comes from an escape, possibly one unit of a surrogate pair. -/
def codes? : Text → Option (List Nat × Text)
  | [] => none
  | '"' :: rest => some ([], rest)
  | '\\' :: 'u' :: a :: b :: c :: d :: rest => do
    let code ← hex4? a b c d
    let (codes, rest) ← codes? rest
    some (code :: codes, rest)
  | '\\' :: letter :: rest => do
    let code ← escapeCode? letter
    let (codes, rest) ← codes? rest
    some (code :: codes, rest)
  | c :: rest =>
    if c = '\\' ∨ c.toNat < 0x20 then none
    else do
      let (codes, rest) ← codes? rest
      some (c.toNat :: codes, rest)

/-- The characters of a list of codes, two surrogate units making one character. -/
def characters? : List Nat → Option Text
  | [] => some []
  | code :: rest =>
    if 0xD800 ≤ code ∧ code < 0xDC00 then
      match rest with
      | [] => none
      | low :: rest =>
        if 0xDC00 ≤ low ∧ low < 0xE000 then
          (characters? rest).map (Char.ofNat (0x10000 + (code - 0xD800) * 0x400 + (low - 0xDC00)) :: ·)
        else none
    else if 0xDC00 ≤ code ∧ code < 0xE000 then none
    else (characters? rest).map (Char.ofNat code :: ·)

/-- A string, from just behind its opening quote. -/
def readString? (text : Text) : Option (Text × Text) := do
  let (codes, rest) ← codes? text
  let characters ← characters? codes
  some (characters, rest)

def isNumberChar (c : Char) : Bool :=
  c.isDigit || c = '-' || c = '+' || c = '.' || c = 'e' || c = 'E'

/-- Whether a text is a run of digits that is not empty. -/
def isDigits (text : Text) : Bool := text ≠ [] && text.all Char.isDigit

/-- Whether a text is a natural number without leading zeros. -/
def isNatural (text : Text) : Bool := isDigits text && (text.length = 1 || text.head? ≠ some '0')

/-- The part of a number without its minus sign. -/
def unsigned (literal : Text) : Text :=
  match literal with
  | '-' :: rest => rest
  | _ => literal

/-- Whether a text is an exponent's digits, with or without a sign. -/
def isExponent (text : Text) : Bool :=
  match text with
  | '-' :: rest => isDigits rest
  | '+' :: rest => isDigits rest
  | _ => isDigits text

/-- Whether a text is a number: an integer part, and possibly a fraction and an exponent. -/
def isNumber (literal : Text) : Bool :=
  let mantissa := (unsigned literal).takeWhile fun c => c ≠ 'e' && c ≠ 'E'
  let whole := mantissa.takeWhile (· ≠ '.')
  isNatural whole &&
    (match mantissa.dropWhile (· ≠ '.') with
      | [] => true
      | _ :: fraction => isDigits fraction) &&
    (match (unsigned literal).dropWhile fun c => c ≠ 'e' && c ≠ 'E' with
      | [] => true
      | _ :: exponent => isExponent exponent)

def number? (literal : Text) : Option Json :=
  match literal with
  | '-' :: digits =>
    if isNatural digits ∧ digits ≠ ['0'] then some (.int (-(Nat.ofDigitChars 10 digits 0 : Int)))
    else if isNumber literal then some (.real literal)
    else none
  | _ =>
    if isNatural literal then some (.int (Nat.ofDigitChars 10 literal 0))
    else if isNumber literal then some (.real literal)
    else none

mutual

/-- One value from the front of a text, and the rest. -/
def value? : (fuel : Nat) → Text → Option (Json × Text)
  | 0, _ => none
  | fuel + 1, text =>
    match skipSpace text with
    | 'n' :: 'u' :: 'l' :: 'l' :: rest => some (.null, rest)
    | 't' :: 'r' :: 'u' :: 'e' :: rest => some (.bool true, rest)
    | 'f' :: 'a' :: 'l' :: 's' :: 'e' :: rest => some (.bool false, rest)
    | '"' :: rest => do
      let (text, rest) ← readString? rest
      some (.str text, rest)
    | '[' :: rest =>
      match skipSpace rest with
      | ']' :: rest => some (.arr [], rest)
      | rest => do
        let (item, rest) ← value? fuel rest
        let (items, rest) ← moreItems? fuel rest
        some (.arr (item :: items), rest)
    | '\x7b' :: rest =>
      match skipSpace rest with
      | '\x7d' :: rest => some (.obj [], rest)
      | rest => do
        let (field, rest) ← fieldOf? fuel rest
        let (fields, rest) ← moreFields? fuel rest
        some (.obj (field :: fields), rest)
    | rest => do
      let number ← number? (rest.takeWhile isNumberChar)
      some (number, rest.dropWhile isNumberChar)

/-- The items after the first, up to and including the bracket that ends the array. -/
def moreItems? : (fuel : Nat) → Text → Option (List Json × Text)
  | 0, _ => none
  | fuel + 1, text =>
    match skipSpace text with
    | ']' :: rest => some ([], rest)
    | ',' :: rest => do
      let (item, rest) ← value? fuel rest
      let (items, rest) ← moreItems? fuel rest
      some (item :: items, rest)
    | _ => none

def fieldOf? : (fuel : Nat) → Text → Option ((Text × Json) × Text)
  | 0, _ => none
  | fuel + 1, text =>
    match skipSpace text with
    | '"' :: rest => do
      let (name, rest) ← readString? rest
      match skipSpace rest with
      | ':' :: rest => do
        let (value, rest) ← value? fuel rest
        some ((name, value), rest)
      | _ => none
    | _ => none

/-- The fields after the first, up to and including the brace that ends the object. -/
def moreFields? : (fuel : Nat) → Text → Option (List (Text × Json) × Text)
  | 0, _ => none
  | fuel + 1, text =>
    match skipSpace text with
    | '\x7d' :: rest => some ([], rest)
    | ',' :: rest => do
      let (field, rest) ← fieldOf? fuel rest
      let (fields, rest) ← moreFields? fuel rest
      some (field :: fields, rest)
    | _ => none

end

/-- The value that a text spells, blanks around it allowed. -/
def read? (text : Text) : Option Json := do
  let (value, rest) ← value? (text.length + 1) text
  if skipSpace rest = [] then some value else none

end QueryNav.Json
