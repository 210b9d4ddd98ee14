import QueryNav.Text.Basic

/-! Widths. An editor counts columns in UTF-16 units and an import clause is located by UTF-8 bytes,
while the library itself counts scalar values. `fitting` cuts a text at a width measured in either
unit, always between two characters, and `column16` turns the second measure into the first. -/

namespace QueryNav.Text

/-- The number of UTF-16 units of a character: two beyond the basic multilingual plane. -/
def units16 (c : Char) : Nat := if c.toNat < 0x10000 then 1 else 2

/-- The total of `measure` over the characters of a text. -/
def width (measure : Char → Nat) : Text → Nat
  | [] => 0
  | c :: rest => measure c + width measure rest

/-- The length of a text in UTF-16 units. -/
def width16 (text : Text) : Nat := width units16 text

/-- The length of a text in UTF-8 bytes. -/
def width8 (text : Text) : Nat := width Char.utf8Size text

/-- The longest run of characters from the front whose width stays within `room`. -/
def fitting (measure : Char → Nat) : (room : Nat) → Text → Text
  | _, [] => []
  | room, c :: rest =>
    if measure c ≤ room then c :: fitting measure (room - measure c) rest else []

/-- The number of values of a column in the editor's protocol. -/
def columnLimit : Nat := 4294967296

/-- The UTF-16 column of a byte offset in a line. An offset inside a character counts as the start of
that character, one past the end as the end, and the column wraps at `columnLimit`. -/
def column16 (line : Text) (byte : Nat) : Nat :=
  width16 (fitting Char.utf8Size byte line) % columnLimit

theorem width_append (measure : Char → Nat) (front back : Text) :
    width measure (front ++ back) = width measure front + width measure back := by
  induction front with
  | nil => simp [width]
  | cons c front ih => simp only [List.cons_append, width, ih, Nat.add_assoc]

theorem width8_append (front back : Text) : width8 (front ++ back) = width8 front + width8 back :=
  width_append Char.utf8Size front back

end QueryNav.Text
