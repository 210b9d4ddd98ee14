import QueryNav.Proofs.LineEnds
import QueryNav.Proofs.Storage

/-! The text in front of the cursor. It is cut out of the row of the cursor, whose break may be cut in half or left
whole by this, and what is left of the break is stripped afterwards. Cutting first and stripping then comes to the
same as stripping first: the result is the longest front of the line for which the column has room, and nothing in
it comes from the break. -/

namespace QueryNav.Text

/-- The longest front of a text that stays within a width: every other one that does is a front of it. -/
structure LongestFront (measure : Char → Nat) (room : Nat) (text front : Text) : Prop where
  starts : front <+: text
  within : width measure front ≤ room
  longest : ∀ other, other <+: text → width measure other ≤ room → other <+: front

section Fitting

variable {measure : Char → Nat} {room : Nat} {text front other : Text}

theorem fitting_starts (measure : Char → Nat) (room : Nat) (text : Text) : fitting measure room text <+: text := by
  fun_induction fitting measure room text with
  | case1 => exact List.nil_prefix
  | case2 room c rest narrow ih => exact List.cons_prefix_cons.mpr ⟨rfl, ih⟩
  | case3 => exact List.nil_prefix

theorem longestFront_fitting (measure : Char → Nat) (room : Nat) (text : Text) :
    LongestFront measure room text (fitting measure room text) := by
  have starts := fitting_starts measure room text
  refine ⟨starts, ?_, ?_⟩
  · have fits := (fits_iff.mpr (Nat.le_refl (fitting measure room text).length)).2
    rwa [← List.prefix_iff_eq_take.mp starts] at fits
  · intro other begins narrow
    rw [List.prefix_iff_eq_take.mp begins] at narrow
    exact List.prefix_of_prefix_length_le begins starts (fits_iff.mp ⟨begins.length_le, narrow⟩)

theorem LongestFront.eq (found : LongestFront measure room text front) (also : LongestFront measure room text other) :
    other = front :=
  (found.longest other also.starts also.within).eq_of_length_le
    (also.longest front found.starts found.within).length_le

theorem LongestFront.eq_self_iff (found : LongestFront measure room text front) :
    front = text ↔ width measure text ≤ room := by
  constructor
  · intro whole
    exact whole ▸ found.within
  · intro enough
    exact found.starts.eq_of_length_le (found.longest text (List.prefix_refl text) enough).length_le

theorem LongestFront.mono {more : Nat} (found : LongestFront measure room text front) (ordered : room ≤ more)
    (also : LongestFront measure more text other) : front <+: other :=
  also.longest front found.starts (Nat.le_trans found.within ordered)

end Fitting

theorem Unbroken.of_starts {line front : Text} (unbroken : Unbroken line) (starts : front <+: line) : Unbroken front :=
  fun c member => unbroken c (starts.subset member)

theorem LongestFront.content {measure : Char → Nat} {room : Nat} {line mark front : Text} (unbroken : Unbroken line)
    (broken : ∀ c ∈ mark, isBreak c = true) (found : LongestFront measure room (line ++ mark) front) :
    LongestFront measure room line (content front) := by
  have reaches : line <+: line ++ mark := List.prefix_append line mark
  have longest : ∀ other, other <+: line → width measure other ≤ room → other <+: front :=
    fun other begins narrow => found.longest other (begins.trans reaches) narrow
  rcases List.prefix_or_prefix_of_prefix found.starts reaches with inside | past
  · rw [content_of_unbroken (unbroken.of_starts inside)]
    exact ⟨inside, found.within, longest⟩
  · obtain ⟨part, rfl⟩ := past
    have taken : part <+: mark := (List.prefix_append_right_inj line).mp found.starts
    rw [content_append_breaks unbroken fun c member => broken c (taken.subset member)]
    have fits := found.within
    rw [width_append] at fits
    exact ⟨List.prefix_refl line, Nat.le_trans (Nat.le_add_right _ _) fits, fun other begins _ => begins⟩

end QueryNav.Text

namespace QueryNav.Buffer

open Text

theorem take_charsBefore (row : Text) (column : Nat) :
    row.take (charsBefore row column) = fitting units16 column row := by
  rw [charsBefore_eq, charsWithin_eq]
  exact (List.prefix_iff_eq_take.mp (fitting_starts units16 column row)).symm

theorem before_of_missing {text : Text} {number : Nat} (missing : (Buffer.lines text)[number]? = none)
    (column : Nat) : before text ⟨number, column⟩ = [] := by
  rw [Buffer.lines, List.getElem?_map, Option.map_eq_none_iff] at missing
  simp only [before, missing]

theorem exists_breaks_of_line {text line : Text} {number : Nat} (found : (Buffer.lines text)[number]? = some line) :
    ∃ breaks, (rows text)[number]? = some (line ++ breaks) ∧ Unbroken line ∧ ∀ c ∈ breaks, isBreak c = true := by
  rw [Buffer.lines, List.getElem?_map, Option.map_eq_some_iff] at found
  obtain ⟨row, listed, rfl⟩ := found
  obtain ⟨mark, whole, unbroken, broken, _⟩ := exists_mark_of_row listed
  exact ⟨mark, whole ▸ listed, unbroken, broken⟩

theorem longestFront_before {text line : Text} {number : Nat} (found : (Buffer.lines text)[number]? = some line)
    (column : Nat) : LongestFront units16 column line (before text ⟨number, column⟩) := by
  obtain ⟨breaks, listed, unbroken, broken⟩ := exists_breaks_of_line found
  simp only [before, listed, take_charsBefore]
  exact (longestFront_fitting units16 column (line ++ breaks)).content unbroken broken

/-- The text in front of the cursor, as it is found in a text that is stored in chunks: the index of the cursor is
counted from the start of the text, and then from the start of the row. -/
def Rope.before (rope : Rope) (cursor : Position) : Text :=
  match (rows rope.text)[cursor.line]? with
  | some row => content (row.take (min (rope.offset cursor - lineStart rope.text cursor.line) row.length))
  | none => []

theorem Rope.before_eq (rope : Rope) (cursor : Position) : rope.before cursor = Buffer.before rope.text cursor := by
  cases found : (rows rope.text)[cursor.line]? with
  | none => simp only [Rope.before, Buffer.before, found]
  | some row =>
    have index : rope.offset cursor - lineStart rope.text cursor.line = Buffer.charsBefore row cursor.column := by
      rw [rope.offset_eq, offset_of_row found, Nat.add_sub_cancel_left]
    simp only [Rope.before, Buffer.before, found, index, Nat.min_eq_left (charsBefore_le row cursor.column)]

/-- The text in front of the cursor is the longest front of the cursor's line for which the column has room, and
empty if there is no such line. It has no part of a break, grows with the column and is the whole line exactly if
the column is not in front of its end; how the text is stored makes no difference. -/
theorem before_is_longest_front (text : Text) (cursor : Position) :
    ((Buffer.lines text).length ≤ cursor.line → before text cursor = []) ∧
      (∀ line, (Buffer.lines text)[cursor.line]? = some line →
        LongestFront units16 cursor.column line (before text cursor) ∧
          (∀ front, LongestFront units16 cursor.column line front → front = before text cursor) ∧
          (before text cursor = line ↔ width16 line ≤ cursor.column)) ∧
      Unbroken (before text cursor) ∧
      (∀ column, column ≤ cursor.column → before text ⟨cursor.line, column⟩ <+: before text cursor) ∧
      ∀ rope : Rope, rope.text = text → rope.before cursor = before text cursor := by
  refine ⟨?_, ?_, ?_, ?_, ?_⟩
  · intro past
    exact before_of_missing (List.getElem?_eq_none_iff.mpr past) cursor.column
  · intro line found
    have longest := longestFront_before found cursor.column
    exact ⟨longest, fun _ also => longest.eq also, longest.eq_self_iff⟩
  · cases found : (Buffer.lines text)[cursor.line]? with
    | none =>
      rw [before_of_missing found cursor.column]
      exact unbroken_nil
    | some line =>
      obtain ⟨_, _, unbroken, _⟩ := exists_breaks_of_line found
      exact unbroken.of_starts (longestFront_before found cursor.column).starts
  · intro column ordered
    cases found : (Buffer.lines text)[cursor.line]? with
    | none =>
      rw [before_of_missing found column]
      exact List.nil_prefix
    | some line =>
      exact (longestFront_before found column).mono ordered (longestFront_before found cursor.column)
  · intro rope same
    rw [rope.before_eq, same]

/-- The cursor is between the two characters of the break of the second line, and then inside a character of two
units of this line. -/
theorem before_is_longest_front_inside_break :
    let text : Text := "x\r😀@\r\n".toList
    let rope : Rope := ⟨["x\r😀".toList, "@\r".toList, "\n".toList]⟩
    (Buffer.lines text)[1]? = some "😀@".toList ∧ before text ⟨1, 4⟩ = "😀@".toList ∧
      before text ⟨1, 1⟩ <+: before text ⟨1, 4⟩ ∧ LongestFront units16 1 "😀@".toList (before text ⟨1, 1⟩) ∧
      before text ⟨3, 0⟩ = [] ∧ rope.before ⟨1, 4⟩ = before text ⟨1, 4⟩ := by
  intro text rope
  have found : (Buffer.lines text)[1]? = some "😀@".toList := by decide
  obtain ⟨_, inside, _, grows, stored⟩ := before_is_longest_front text ⟨1, 4⟩
  obtain ⟨_, _, whole⟩ := inside _ found
  obtain ⟨short, _⟩ := (before_is_longest_front text ⟨1, 1⟩).2.1 _ found
  exact ⟨found, whole.mpr (by decide), grows 1 (by decide), short,
    (before_is_longest_front text ⟨3, 0⟩).1 (by decide), stored rope (by decide)⟩

end QueryNav.Buffer
