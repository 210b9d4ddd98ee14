import Mathlib.Order.Bounds.Defs
import QueryNav.Buffer

/-! What a column means. Of all numbers of characters that a column leaves room for, the place of the column in a
row is the greatest, and the shortcut for rows of ASCII characters finds the same one. Everything else about
columns follows from this: a greater column is no earlier place, a front of the row is found under its width, and
a column inside a character is in front of it. -/

namespace QueryNav.Text

theorem units16_pos (c : Char) : 0 < units16 c := by
  unfold units16
  split <;> omega

theorem width16_append (front back : Text) : width16 (front ++ back) = width16 front + width16 back :=
  width_append units16 front back

theorem width16_pos {text : Text} (nonempty : text ≠ []) : 0 < width16 text := by
  obtain ⟨c, text, rfl⟩ := List.exists_cons_of_ne_nil nonempty
  exact Nat.lt_of_lt_of_le (units16_pos c) (Nat.le_add_right _ _)

/-- A number of characters at the front of a text that stay within a width. -/
def Fits (measure : Char → Nat) (room : Nat) (text : Text) (count : Nat) : Prop :=
  count ≤ text.length ∧ width measure (text.take count) ≤ room

theorem fits_iff {measure : Char → Nat} {room : Nat} {text : Text} {count : Nat} :
    Fits measure room text count ↔ count ≤ (fitting measure room text).length := by
  unfold Fits
  fun_induction fitting measure room text generalizing count with
  | case1 room =>
    rw [List.take_nil]
    exact and_iff_left (Nat.zero_le room)
  | case2 room c rest narrow ih =>
    cases count with
    | zero => simp [width]
    | succ count =>
      rw [List.take_succ_cons, width, List.length_cons, List.length_cons, Nat.add_le_add_iff_right,
        Nat.add_le_add_iff_right, ← ih, Nat.le_sub_iff_add_le' narrow]
  | case3 room c rest wide =>
    cases count with
    | zero => simp [width]
    | succ count =>
      simp only [List.take_succ_cons, width, List.length_nil]
      omega

end QueryNav.Text

namespace QueryNav.Buffer

open Text

theorem isAscii_cons {c : Char} {row : Text} : isAscii (c :: row) = true ↔ c.toNat < 0x80 ∧ isAscii row = true := by
  simp [isAscii]

theorem charsWithin_eq (room : Nat) (row : Text) : charsWithin room row = (fitting units16 room row).length := by
  fun_induction charsWithin room row with
  | case1 => rfl
  | case2 room c rest narrow ih => rw [fitting, if_pos narrow, List.length_cons, ih]
  | case3 room c rest wide => rw [fitting, if_neg wide, List.length_nil]

theorem charsWithin_of_ascii {row : Text} (ascii : isAscii row = true) (room : Nat) :
    charsWithin room row = min room row.length := by
  induction row generalizing room with
  | nil => simp [charsWithin]
  | cons c row ih =>
    obtain ⟨first, others⟩ := isAscii_cons.mp ascii
    have narrow : units16 c = 1 := if_pos (by omega)
    rw [charsWithin, narrow, ih others, List.length_cons]
    split <;> omega

theorem charsBefore_eq (row : Text) (column : Nat) : charsBefore row column = charsWithin column row := by
  unfold charsBefore
  split
  next ascii => exact (charsWithin_of_ascii ascii column).symm
  next => rfl

theorem fits_iff_le_charsBefore {row : Text} {column count : Nat} :
    Fits units16 column row count ↔ count ≤ charsBefore row column := by
  rw [charsBefore_eq, charsWithin_eq, fits_iff]

theorem isGreatest_charsBefore (row : Text) (column : Nat) :
    IsGreatest {count | Fits units16 column row count} (charsBefore row column) :=
  ⟨fits_iff_le_charsBefore.mpr (Nat.le_refl _), fun _ fits => fits_iff_le_charsBefore.mp fits⟩

theorem charsBefore_le (row : Text) (column : Nat) : charsBefore row column ≤ row.length :=
  (isGreatest_charsBefore row column).1.1

theorem charsBefore_mono (row : Text) {low high : Nat} (ordered : low ≤ high) :
    charsBefore row low ≤ charsBefore row high := by
  obtain ⟨inside, within⟩ := (isGreatest_charsBefore row low).1
  exact fits_iff_le_charsBefore.mp ⟨inside, Nat.le_trans within ordered⟩

theorem length_le_charsBefore_iff (front back : Text) (column : Nat) :
    front.length ≤ charsBefore (front ++ back) column ↔ width16 front ≤ column := by
  rw [← fits_iff_le_charsBefore, Fits, List.take_left, List.length_append, width16]
  exact and_iff_right (Nat.le_add_right _ _)

theorem charsBefore_of_between {front back : Text} {c : Char} {column : Nat} (reaches : width16 front ≤ column)
    (short : column < width16 (front ++ [c])) : charsBefore (front ++ c :: back) column = front.length := by
  have before := (length_le_charsBefore_iff front (c :: back) column).mpr reaches
  have behind := mt (length_le_charsBefore_iff (front ++ [c]) back column).mp (Nat.not_le_of_lt short)
  rw [List.append_assoc, List.singleton_append, List.length_append, List.length_singleton] at behind
  omega

theorem charsBefore_width16 (row : Text) (count : Nat) (inside : count ≤ row.length) :
    charsBefore row (width16 (row.take count)) = count := by
  apply Nat.le_antisymm
  · apply Nat.le_of_not_lt
    intro more
    obtain ⟨short, within⟩ := fits_iff_le_charsBefore.mpr more
    have next : row.take (count + 1) = row.take count ++ [row[count]] := List.take_succ_eq_append_getElem short
    rw [next, width_append] at within
    exact Nat.not_lt_of_le within (Nat.lt_add_of_pos_right (width16_pos (List.cons_ne_nil _ [])))
  · exact fits_iff_le_charsBefore.mp ⟨inside, Nat.le_refl _⟩

end QueryNav.Buffer
