import QueryNav.Text.Hex

/-! Sets of characters as ranges of code points. A table is written as rows of text: an entry is a code
point in hexadecimal digits, or the two ends of a range with a hyphen between them, and entries have a
blank between them. -/

namespace QueryNav.Domain

open Text

/-- A closed range of code points. -/
structure Span where
  first : Nat
  last : Nat
  deriving DecidableEq, Repr

/-- The number that hexadecimal digits spell. -/
def codePoint (digits : Text) : Nat :=
  digits.foldl (fun value c => value * 16 + (hexValue? c).getD 0) 0

def charOf (digits : Text) : Char := Char.ofNat (codePoint digits)

def entries (row : String) : List Text := pieces ' ' row.toList

def Span.ofEntry (entry : Text) : Span :=
  match pieces '-' entry with
  | [first, last] => ⟨codePoint first, codePoint last⟩
  | _ => ⟨codePoint entry, codePoint entry⟩

def Span.holds (span : Span) (c : Char) : Bool := span.first ≤ c.toNat && c.toNat ≤ span.last

def spans (rows : List String) : List Span := rows.flatMap fun row => (entries row).map Span.ofEntry

/-- Whether one of the ranges holds a character. -/
def within (spans : List Span) (c : Char) : Bool := spans.any fun span => span.holds c

def isAscii (c : Char) : Bool := c.toNat < 0x80

end QueryNav.Domain
