import QueryNav.Proofs.Locality

/-! Texts in chunks. An edited text need not lie in one piece, and a row may lie in one chunk or across several.
The characters of a row are then counted in a loop, except that a row of ASCII characters in a single chunk needs
no counting. Neither the chunks nor the way of counting can be told from the place that is found. -/

namespace QueryNav.Buffer

open Text

/-- The loop over the characters of a row, of which `seen` units and `count` characters are behind it. It ends
in front of a character that would pass the column, and behind one that reaches it. -/
def countFrom (column : Nat) : (seen count : Nat) → Text → Nat
  | _, count, [] => count
  | seen, count, c :: rest =>
    if column < seen + units16 c then count
    else if seen + units16 c = column then count + 1
    else countFrom column (seen + units16 c) (count + 1) rest

private theorem charsWithin_zero (row : Text) : charsWithin 0 row = 0 := by
  cases row with
  | nil => rfl
  | cons c row => exact if_neg (Nat.not_le_of_lt (units16_pos c))

theorem countFrom_eq (column seen count : Nat) (row : Text) :
    countFrom column seen count row = count + charsWithin (column - seen) row := by
  fun_induction countFrom column seen count row with
  | case1 => rfl
  | case2 seen count c rest passes =>
    have positive := units16_pos c
    rw [charsWithin, if_neg (by omega), Nat.add_zero]
  | case3 seen count c rest within reaches =>
    have nothing : column - seen - units16 c = 0 := by omega
    rw [charsWithin, if_pos (by omega), nothing, charsWithin_zero]
  | case4 seen count c rest within short ih =>
    rw [ih, charsWithin, if_pos (by omega), Nat.sub_sub]
    omega

/-- A text as it is stored, in chunks. Where one ends and the next begins is left over from earlier edits. -/
structure Rope where
  chunks : List Text

namespace Rope

def text (rope : Rope) : Text := rope.chunks.flatten

/-- The `size` characters from `start` on, if a single chunk holds them all. -/
def slice? (start size : Nat) : List Text → Option Text
  | [] => none
  | chunk :: chunks =>
    if start + size ≤ chunk.length then some ((chunk.drop start).take size)
    else if chunk.length ≤ start then slice? (start - chunk.length) size chunks
    else none

/-- The number of characters before a column of the row that begins at `start`. The characters are only counted
if the row is scattered or not in ASCII. -/
def charsBefore (rope : Rope) (start : Nat) (row : Text) (column : Nat) : Nat :=
  match slice? start row.length rope.chunks with
  | some slice => if isAscii slice then min column (width8 slice) else countFrom column 0 0 row
  | none => countFrom column 0 0 row

def offset (rope : Rope) (position : Position) : Nat :=
  match (rows rope.text)[position.line]? with
  | some row =>
    let start := lineStart rope.text position.line
    start + rope.charsBefore start row position.column
  | none => rope.text.length

theorem eq_of_slice? {start size : Nat} {chunks : List Text} {slice : Text}
    (found : slice? start size chunks = some slice) : slice = (chunks.flatten.drop start).take size := by
  fun_induction slice? start size chunks with
  | case1 => cases found
  | case2 start chunk chunks inside =>
    cases found
    rw [List.flatten_cons, List.drop_append_of_le_length (by omega),
      List.take_append_of_le_length (by rw [List.length_drop]; omega)]
  | case3 start chunk chunks crossing behind ih =>
    rw [ih found, List.flatten_cons, List.drop_append, List.drop_of_length_le behind, List.nil_append]
  | case4 => cases found

end Rope

private theorem width8_of_ascii {row : Text} (ascii : isAscii row = true) : width8 row = row.length := by
  induction row with
  | nil => rfl
  | cons c row ih =>
    obtain ⟨first, others⟩ := isAscii_cons.mp ascii
    have single : c.utf8Size = 1 := by
      rw [Char.utf8Size_eq_one_iff, UInt32.le_iff_toNat_le]
      exact Nat.le_of_lt_succ first
    rw [width8, width, single, ← width8, ih others, List.length_cons, Nat.add_comm]

theorem min_width8_eq {row : Text} (ascii : isAscii row = true) (column : Nat) :
    min column (width8 row) = charsWithin column row := by
  rw [width8_of_ascii ascii, charsWithin_of_ascii ascii]

theorem countFrom_zero (column : Nat) (row : Text) : countFrom column 0 0 row = charsWithin column row := by
  rw [countFrom_eq, Nat.sub_zero, Nat.zero_add]

namespace Rope

theorem charsBefore_eq {rope : Rope} {row : Text} {line : Nat} (found : (rows rope.text)[line]? = some row)
    (column : Nat) : rope.charsBefore (lineStart rope.text line) row column = Buffer.charsBefore row column := by
  rw [Buffer.charsBefore_eq, charsBefore, countFrom_zero]
  split
  next slice held =>
    obtain rfl : slice = row := (eq_of_slice? held).trans (take_row found)
    split
    next ascii => exact min_width8_eq ascii column
    next => rfl
  next => rfl

theorem offset_eq (rope : Rope) (position : Position) : rope.offset position = Buffer.offset rope.text position := by
  cases found : (rows rope.text)[position.line]? with
  | none => simp only [offset, Buffer.offset, found]
  | some row => simp only [offset, Buffer.offset, found, charsBefore_eq found]

/-- A place is at the greatest number of characters of its row that its column leaves room for, however the text
is stored and whichever way the characters are counted. A column inside a character is in front of it, and a
line that is not there is the end of the text. -/
theorem offset_is_greatest_fit (rope : Rope) (position : Position) :
    ((rows rope.text).length ≤ position.line → rope.offset position = rope.text.length) ∧
      (∀ row, (rows rope.text)[position.line]? = some row →
        ∃ count, IsGreatest {count | Fits units16 position.column row count} count ∧
          rope.offset position = lineStart rope.text position.line + count ∧
          countFrom position.column 0 0 row = count ∧
          (isAscii row = true → min position.column (width8 row) = count) ∧
          ∀ front c back, row = front ++ c :: back → width16 front ≤ position.column →
            position.column < width16 (front ++ [c]) → count = front.length) ∧
      rope.offset position = Buffer.offset rope.text position ∧
      ∀ other : Rope, other.text = rope.text → other.offset position = rope.offset position := by
  refine ⟨?_, ?_, rope.offset_eq position, ?_⟩
  · intro past
    simp only [offset, List.getElem?_eq_none_iff.mpr past]
  · intro row found
    refine ⟨Buffer.charsBefore row position.column, isGreatest_charsBefore row position.column, ?_, ?_, ?_, ?_⟩
    · simp only [offset, found, charsBefore_eq found]
    · rw [countFrom_zero, Buffer.charsBefore_eq]
    · intro ascii
      rw [min_width8_eq ascii, Buffer.charsBefore_eq]
    · intro front c back whole reaches short
      rw [whole]
      exact charsBefore_of_between reaches short
  · intro other same
    rw [offset_eq, offset_eq, same]

/-- The column is inside a character of two units, in a row that two chunks share. -/
theorem offset_is_greatest_fit_inside_pair :
    let rope : Rope := ⟨["é\na😀".toList, "b\r\n".toList]⟩
    let whole : Rope := ⟨["é\na😀b\r\n".toList]⟩
    (rows rope.text)[1]? = some "a😀b\r\n".toList ∧ rope.offset ⟨1, 2⟩ = 3 ∧ rope.offset ⟨9, 0⟩ = 7 ∧
      whole.offset ⟨1, 2⟩ = rope.offset ⟨1, 2⟩ := by
  intro rope whole
  have found : (rows rope.text)[1]? = some "a😀b\r\n".toList := by decide
  obtain ⟨_, inside, _, stored⟩ := rope.offset_is_greatest_fit ⟨1, 2⟩
  obtain ⟨count, _, place, _, _, between⟩ := inside _ found
  have one : count = 1 := between ['a'] '😀' "b\r\n".toList (by decide) (by decide) (by decide)
  have start : lineStart rope.text 1 = 2 := by decide
  refine ⟨found, ?_, (rope.offset_is_greatest_fit ⟨9, 0⟩).1 (by decide), stored whole (by decide)⟩
  rw [place, one, start]

end Rope

end QueryNav.Buffer
