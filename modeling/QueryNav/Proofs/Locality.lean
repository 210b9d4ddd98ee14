import QueryNav.Proofs.Columns
import QueryNav.Proofs.Concatenation
import QueryNav.Proofs.Views

/-! What an edit leaves alone. A place on a line is never in front of the line and never behind its row, so the
text in front of the first line that an edit names, and the text behind the last one, are still there
afterwards. Their lines are the same except where they meet the edit: a break at the edge may become part of
another one, which costs the line behind the last one its place but never changes a line in front. -/

namespace QueryNav.Buffer

open Text

theorem lineStart_mono (text : Text) {low high : Nat} (ordered : low ≤ high) :
    lineStart text low ≤ lineStart text high := by
  have front : (rows text).take low = ((rows text).take high).take low := by
    rw [List.take_take, Nat.min_eq_left ordered]
  have whole := congrArg (fun found => found.flatten.length) (List.take_append_drop low ((rows text).take high))
  simp only [List.flatten_append, List.length_append, ← front] at whole
  unfold lineStart
  omega

theorem lineStart_succ {text row : Text} {line : Nat} (found : (rows text)[line]? = some row) :
    lineStart text (line + 1) = lineStart text line + row.length := by
  simp [lineStart, List.take_add_one, found]

theorem lineStart_of_length_le {text : Text} {line : Nat} (past : (rows text).length ≤ line) :
    lineStart text line = text.length := by
  rw [lineStart, List.take_of_length_le past, flatten_rows]

theorem lineStart_le_length (text : Text) (line : Nat) : lineStart text line ≤ text.length := by
  have total := lineStart_of_length_le (Nat.le_max_right line (rows text).length)
  rw [← total]
  exact lineStart_mono text (Nat.le_max_left _ _)

theorem lineStart_le_offset {text : Text} {position : Position} {line : Nat} (ordered : line ≤ position.line) :
    lineStart text line ≤ offset text position := by
  unfold offset
  split
  · exact Nat.le_trans (lineStart_mono text ordered) (Nat.le_add_right _ _)
  · exact lineStart_le_length text line

theorem offset_le_lineStart {text : Text} {position : Position} {line : Nat} (ordered : position.line < line) :
    offset text position ≤ lineStart text line := by
  unfold offset
  split
  next row found =>
    have inside := charsBefore_le row position.column
    have next := lineStart_succ found
    have later : lineStart text (position.line + 1) ≤ lineStart text line := lineStart_mono text ordered
    omega
  next missing =>
    have past := List.getElem?_eq_none_iff.mp missing
    exact Nat.le_of_eq (lineStart_of_length_le (by omega)).symm

theorem take_lineStart (text : Text) (line : Nat) :
    text.take (lineStart text line) = ((rows text).take line).flatten := by
  conv => lhs; arg 2; rw [← flatten_rows text, ← List.take_append_drop line (rows text), List.flatten_append]
  exact List.take_left

theorem drop_lineStart (text : Text) (line : Nat) :
    text.drop (lineStart text line) = ((rows text).drop line).flatten := by
  conv => lhs; arg 2; rw [← flatten_rows text, ← List.take_append_drop line (rows text), List.flatten_append]
  exact List.drop_left

theorem take_row {text row : Text} {line : Nat} (found : (rows text)[line]? = some row) :
    (text.drop (lineStart text line)).take row.length = row := by
  obtain ⟨inside, rfl⟩ := List.getElem?_eq_some_iff.mp found
  rw [drop_lineStart, ← List.getElem_cons_drop inside, List.flatten_cons, List.take_left]

theorem offset_of_row {text row : Text} {number : Nat} (found : (rows text)[number]? = some row) (column : Nat) :
    offset text ⟨number, column⟩ = lineStart text number + charsBefore row column := by
  simp only [offset, found]

theorem drop_take_row {text row : Text} {number low high : Nat} (found : (rows text)[number]? = some row)
    (inside : high ≤ row.length) :
    (text.take (lineStart text number + high)).drop (lineStart text number + low) = (row.take high).drop low := by
  rw [← take_row found, List.take_take, Nat.min_eq_left inside, ← List.drop_drop, List.drop_take,
    Nat.add_sub_cancel_left]

theorem lines_splice_front {text : Text} {line low : Nat} (inside : line < text.lines.length)
    (begins : lineStart text line ≤ low) (high : Nat) (new : Text) :
    ∃ later, later ≠ [] ∧ (splice text low high new).lines = text.lines.take line ++ later := by
  rw [← length_rows] at inside
  -- The seam is at the start of the line and not where the splice begins, so that whole rows are in front of it.
  have front : text.take low = ((rows text).take line).flatten ++ (text.take low).drop (lineStart text line) := by
    rw [← take_lineStart]
    conv => rhs; arg 1; rw [← Nat.min_eq_left begins, ← List.take_take]
    exact (List.take_append_drop _ _).symm
  obtain ⟨later, more, kept⟩ := lines_append_front ((rows text).take line).flatten
    ((text.take low).drop (lineStart text line) ++ (new ++ text.drop high))
  rw [lines_flatten_take inside, List.dropLast_concat, ← List.append_assoc, ← front] at kept
  exact ⟨later, more, by rw [splice, List.append_assoc, kept]⟩

/-- The line in front of which a splice ends may lose its place to a break at its edge; those behind it stay. -/
theorem lines_splice_back {text : Text} {line high : Nat} (inside : line < text.lines.length)
    (ends : high ≤ lineStart text line) (low : Nat) (new : Text) :
    text.lines.drop (line + 1) <:+ (splice text low high new).lines := by
  rw [← length_rows] at inside
  have back : text.drop high =
      (text.drop high).take (lineStart text line - high) ++ ((rows text).drop line).flatten := by
    rw [← drop_lineStart]
    conv => rhs; arg 2; rw [← Nat.add_sub_of_le ends, ← List.drop_drop]
    exact (List.take_append_drop _ _).symm
  have kept := tail_lines_suffix (text.take low ++ new ++ (text.drop high).take (lineStart text line - high))
    ((rows text).drop line).flatten
  rw [lines_flatten_drop inside, List.tail_drop, List.append_assoc, ← back] at kept
  exact kept

section Change

variable {text : Text} {first last : Position} {line : Nat}

theorem lines_apply_front (inside : line < text.lines.length) (front : line ≤ first.line)
    (back : line ≤ last.line) (new : Text) :
    ∃ later, later ≠ [] ∧ (apply text ⟨some (first, last), new⟩).lines = text.lines.take line ++ later := by
  apply lines_splice_front inside
  exact Nat.le_min.mpr ⟨lineStart_le_offset front, lineStart_le_offset back⟩

theorem lines_apply_back (inside : line < text.lines.length) (front : first.line < line)
    (back : last.line < line) (new : Text) :
    text.lines.drop (line + 1) <:+ (apply text ⟨some (first, last), new⟩).lines := by
  apply lines_splice_back inside
  exact Nat.max_le.mpr ⟨offset_le_lineStart front, offset_le_lineStart back⟩

end Change

/-- An edit is local to the lines it names. Every line in front of them stays in its place, the last line of the
text apart, and the lines that are at least two lines behind them stay at the end of the text. -/
theorem lines_outside_edit (text : Text) (first last : Position) (new : Text) :
    (∀ number, number < min (min first.line last.line) ((Buffer.lines text).length - 1) →
        (Buffer.lines (apply text ⟨some (first, last), new⟩))[number]? = (Buffer.lines text)[number]?) ∧
      ∀ number, max first.line last.line + 2 ≤ number → number < (Buffer.lines text).length →
        (Buffer.lines text).drop number <:+ Buffer.lines (apply text ⟨some (first, last), new⟩) := by
  simp only [Buffer.lines_eq]
  constructor
  · intro number early
    have inside : number + 1 < text.lines.length := by omega
    obtain ⟨later, _, kept⟩ : ∃ later, later ≠ [] ∧
        (apply text ⟨some (first, last), new⟩).lines = text.lines.take (number + 1) ++ later :=
      lines_apply_front inside (by omega) (by omega) new
    rw [kept, List.getElem?_append_left (by simp; omega), List.getElem?_take_of_lt (by omega)]
  · intro number late inside
    obtain ⟨line, rfl⟩ : ∃ line, number = line + 1 := ⟨number - 1, by omega⟩
    exact lines_apply_back (by omega) (by omega) (by omega) new

/-- The ends of the range are given in the wrong order, and the new text makes one break out of the carriage
return in front of it and the line feed that it starts with. -/
theorem lines_outside_edit_at_joined_break :
    let text : Text := "a\rb\nc\rd".toList
    let changed := apply text ⟨some (⟨1, 9⟩, ⟨1, 0⟩), ['\n']⟩
    0 < min (min 1 1) ((Buffer.lines text).length - 1) ∧ 3 < (Buffer.lines text).length ∧
      Buffer.lines changed = [['a'], ['c'], ['d']] ∧ (Buffer.lines changed)[0]? = (Buffer.lines text)[0]? ∧
      (Buffer.lines text).drop 3 <:+ Buffer.lines changed := by
  intro text changed
  have early : 0 < min (min 1 1) ((Buffer.lines text).length - 1) := by decide
  have inside : 3 < (Buffer.lines text).length := by decide
  obtain ⟨before, behind⟩ := lines_outside_edit text ⟨1, 9⟩ ⟨1, 0⟩ ['\n']
  exact ⟨early, inside, by decide, before 0 early, behind 3 (by decide) inside⟩

end QueryNav.Buffer
