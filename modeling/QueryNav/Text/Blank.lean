import QueryNav.Text.Basic

/-! White space. A blank is a character with the Unicode property White_Space: it separates the words
of an import clause and is ignored at both ends of a header line. -/

namespace QueryNav.Text

/-- The code points of the property White_Space, as closed ranges in increasing order. -/
def blankRanges : List (Nat × Nat) :=
  [(0x09, 0x0D), (0x20, 0x20), (0x85, 0x85), (0xA0, 0xA0), (0x1680, 0x1680), (0x2000, 0x200A),
   (0x2028, 0x2029), (0x202F, 0x202F), (0x205F, 0x205F), (0x3000, 0x3000)]

def isBlank (c : Char) : Bool :=
  blankRanges.any fun range => range.1 ≤ c.toNat && c.toNat ≤ range.2

def trimStart (text : Text) : Text := text.dropWhile isBlank

def trimEnd (text : Text) : Text := trimEndWhile isBlank text

def trim (text : Text) : Text := trimEnd (trimStart text)

end QueryNav.Text
