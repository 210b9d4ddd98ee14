import QueryNav.Domain.Composition
import QueryNav.Domain.Direction
import QueryNav.Domain.Folding
import QueryNav.Domain.Joining
import QueryNav.Domain.Punycode

/-! Domain names. A name may be written in any script; its spelling in ASCII is what it is known by. The
name is folded and composed, and then each label between its dots is looked at by itself: one that is
marked as Punycode is read, and has to be a label that writing would give, and one beyond ASCII is
written in Punycode behind the mark. -/

namespace QueryNav.Domain

open Text

/-- The mark in front of a label in Punycode. -/
def punycodeMark : Text := "xn--".toList

/-- The length up to which a spelling in Punycode is read. -/
def maxSpelling : Nat := 2000

/-- The length up to which a label is written in Punycode. -/
def maxLabel : Nat := 1000

/-- Whether a label beyond ASCII is well formed. -/
def isLabel (label : Text) : Bool :=
  label.length ≤ maxLabel && !(label.head?.any isMark) && joinersFit [] label

/-- The label that a spelling in Punycode stands for. -/
def labelOf? (spelling : Text) : Option Text := do
  let label ← if spelling.length ≤ maxSpelling then Punycode.decode? spelling else none
  if label.all isAscii || !label.all isFolded || compose label ≠ label || !isLabel label then none
  else some label

/-- The label that a written one stands for. -/
def readLabel? (written : Text) : Option Text :=
  match after? punycodeMark written with
  | some spelling => labelOf? spelling
  | none => if written.all isAscii || isLabel written then some written else none

def writeLabel (label : Text) : Text :=
  if label.all isAscii then label else punycodeMark ++ Punycode.encode label

/-- The characters that no domain name holds. -/
def isForbidden (c : Char) : Bool :=
  c.toNat ≤ 0x20 || c.toNat = 0x7F ||
    ['#', '%', '/', ':', '<', '>', '?', '@', '[', '\\', ']', '^', '|'].contains c

/-- The spelling of a domain name in ASCII. -/
def toAscii? (written : Text) : Option Text := do
  let name := compose (← fold? written)
  let labels ← (pieces '.' name).mapM readLabel?
  if name.any isForbidden || (labels.any (·.any turnsName) && !labels.all isReadable) then none
  else some (glue '.' (labels.map writeLabel))

end QueryNav.Domain
