import QueryNav.Domain.Folding.Table

/-! The folding of a name, which brings the ways to write it together: letters become small, forms that
only look different become the usual ones, and what nobody sees is left out. A name that holds any
other character than the known ones has no folding. -/

namespace QueryNav.Domain

open Text Folding

/-- The text that a character beyond ASCII is written as, if it does not stand for itself. -/
def respelled? (c : Char) : Option Text :=
  let code := c.toNat
  if within dropped c then some []
  else
    match shifted.find? fun shift => shift.source.holds c with
    | some shift => some [Char.ofNat (shift.target + (code - shift.source.first))]
    | none =>
      if paired.any fun shift => shift.source.holds c && (code - shift.source.first) % 2 = 0 then
        some [Char.ofNat (code + 1)]
      else
        spelled.findSome? fun row => if row.first ≤ code then row.texts[code - row.first]? else none

def foldChar? (c : Char) : Option Text :=
  if isAscii c then some [lowerAscii c]
  else
    match respelled? c with
    | some text => some text
    | none => if within known c then some [c] else none

def fold? : Text → Option Text
  | [] => some []
  | c :: rest => do
    let front ← foldChar? c
    let back ← fold? rest
    some (front ++ back)

def isFolded (c : Char) : Bool := foldChar? c = some [c]

end QueryNav.Domain
