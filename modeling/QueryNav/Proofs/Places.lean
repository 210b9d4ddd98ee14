import QueryNav.Proofs.Columns
import QueryNav.Proofs.Lines

/-! The two names of a place in a text. An editor that holds the text knows a place by its index and
names it by the line it is on and the UTF-16 column in that line; the buffer goes back from the name to
the index. The editor's side is written down here from the characters alone, without rows, so that the
round trip compares two readings of the same text. -/

namespace QueryNav.Buffer

open Text

/-- Whether a line starts at an index: at the front of the text, behind a line feed, and behind a carriage
return that no line feed follows. -/
def startsLine (text : Text) : (index : Nat) → Bool
  | 0 => true
  | index + 1 => text[index]? = some '\n' || (text[index]? = some '\r' && text[index + 1]? ≠ some '\n')

def lineStarts (text : Text) : List Nat := (List.range (text.length + 1)).filter (startsLine text)

def startsUpTo (text : Text) (index : Nat) : List Nat := (lineStarts text).filter fun start => start ≤ index

/-- The editor's name of an index: the number of line starts up to it, the first of which counts as line
zero, and the UTF-16 units from the last of them to the index. -/
def locate (text : Text) (index : Nat) : Position where
  line := (startsUpTo text index).length - 1
  column := width16 ((text.take index).drop ((startsUpTo text index).getLastD 0))

private theorem startsLine_of_plain {text : Text} {index : Nat}
    (plain : ∀ c, text[index]? = some c → isBreak c = false) : startsLine text (index + 1) = false := by
  cases found : text[index]? with
  | none => simp [startsLine, found]
  | some c =>
    have unlike := plain c found
    simp only [isBreak, Bool.or_eq_false_iff, decide_eq_false_iff_not] at unlike
    simp [startsLine, found, unlike.1, unlike.2]

private theorem plain_of_lt {line : Text} (unbroken : Unbroken line) (rest : Text) {index : Nat}
    (inside : index < line.length) : ∀ c, (line ++ rest)[index]? = some c → isBreak c = false := by
  intro c found
  rw [List.getElem?_append_left inside] at found
  exact unbroken c (List.mem_of_getElem? found)

section Row

variable {line mark rest : Text} (unbroken : Unbroken line) (ends : Ends mark rest)

include unbroken ends

/-- No line starts inside a row. Only a break of two characters makes this more than the absence of breaks
in a line. -/
private theorem startsLine_inside {index : Nat} (positive : 0 < index) (inside : index < (line ++ mark).length) :
    startsLine (line ++ (mark ++ rest)) index = false := by
  obtain ⟨before, rfl⟩ := Nat.exists_eq_succ_of_ne_zero (Nat.ne_of_gt positive)
  by_cases early : before < line.length
  · exact startsLine_of_plain (plain_of_lt unbroken _ early)
  · cases ends with
    | feed => simp at inside; omega
    | carriage alone => simp at inside; omega
    | pair =>
      have last : before = line.length := by simp at inside; omega
      subst last
      simp [startsLine]

omit unbroken in
private theorem startsLine_behind (index : Nat) :
    startsLine (line ++ (mark ++ rest)) ((line ++ mark).length + index) = startsLine rest index := by
  cases index with
  | zero =>
    cases ends with
    | feed => simp [startsLine]
    | pair => simp [startsLine]
    | carriage alone =>
      have other : (line ++ (['\r'] ++ rest))[line.length + 1]? ≠ some '\n' := by
        simpa [List.getElem?_append_right, ← List.head?_eq_getElem?] using alone
      simpa [startsLine] using other
  | succ index =>
    have shift : ∀ k, (line ++ (mark ++ rest))[(line ++ mark).length + k]? = rest[k]? := by
      intro k
      rw [← List.append_assoc, List.getElem?_append_right (Nat.le_add_right _ _), Nat.add_sub_cancel_left]
    have here := shift index
    have next := shift (index + 1)
    rw [← Nat.add_assoc] at next ⊢
    simp only [startsLine, here, next]

private theorem lineStarts_append :
    lineStarts (line ++ (mark ++ rest)) = 0 :: (lineStarts rest).map ((line ++ mark).length + ·) := by
  obtain ⟨more, size⟩ : ∃ more, (line ++ mark).length = more + 1 := by
    have positive := List.length_pos_iff.mpr ends.ne_nil
    exact ⟨line.length + mark.length - 1, by simp; omega⟩
  have inner : (List.range (line ++ mark).length).filter (startsLine (line ++ (mark ++ rest))) = [0] := by
    rw [size, List.range_succ_eq_map, List.filter_cons_of_pos rfl, List.filter_eq_nil_iff.mpr]
    intro index member
    obtain ⟨before, within, rfl⟩ := List.mem_map.mp member
    have inside : before + 1 < (line ++ mark).length := by
      have := List.mem_range.mp within
      omega
    simp [startsLine_inside unbroken ends (Nat.succ_pos before) inside]
  have total : (line ++ (mark ++ rest)).length + 1 = (line ++ mark).length + (rest.length + 1) := by
    simp only [List.length_append]
    omega
  rw [lineStarts, total, List.range_add, List.filter_append, inner, List.filter_map, List.singleton_append,
    lineStarts]
  congr 2
  apply List.filter_congr
  intro index _
  exact startsLine_behind ends index

private theorem startsUpTo_inside {index : Nat} (inside : index < (line ++ mark).length) :
    startsUpTo (line ++ (mark ++ rest)) index = [0] := by
  rw [startsUpTo, lineStarts_append unbroken ends, List.filter_cons_of_pos (by simp), List.filter_eq_nil_iff.mpr]
  intro start member
  obtain ⟨k, _, rfl⟩ := List.mem_map.mp member
  simp only [decide_eq_true_eq]
  omega

private theorem startsUpTo_behind (index : Nat) :
    startsUpTo (line ++ (mark ++ rest)) ((line ++ mark).length + index) =
      0 :: (startsUpTo rest index).map ((line ++ mark).length + ·) := by
  rw [startsUpTo, lineStarts_append unbroken ends, List.filter_cons_of_pos (by simp), List.filter_map, startsUpTo]
  congr 2
  apply List.filter_congr
  intro start _
  simp

theorem locate_inside {index : Nat} (inside : index < (line ++ mark).length) :
    locate (line ++ (mark ++ rest)) index = ⟨0, width16 ((line ++ mark).take index)⟩ := by
  rw [locate, startsUpTo_inside unbroken ends inside, ← List.append_assoc,
    List.take_append_of_le_length (Nat.le_of_lt inside)]
  simp

theorem locate_behind (index : Nat) :
    locate (line ++ (mark ++ rest)) ((line ++ mark).length + index) =
      ⟨(locate rest index).line + 1, (locate rest index).column⟩ := by
  have first : 0 ∈ startsUpTo rest index := by simp [startsUpTo, lineStarts, startsLine]
  obtain ⟨front, last, starts⟩ : ∃ front last, startsUpTo rest index = front ++ [last] :=
    ⟨_, _, (List.dropLast_concat_getLast (List.ne_nil_of_mem first)).symm⟩
  have latest : (0 :: (front ++ [last]).map ((line ++ mark).length + ·)).getLastD 0 = (line ++ mark).length + last := by
    rw [List.map_append, ← List.cons_append, List.map_singleton, List.getLastD_concat]
  rw [locate, startsUpTo_behind unbroken ends, starts, latest, locate, starts, ← List.append_assoc,
    List.take_length_add_append, List.drop_length_add_append]
  simp

end Row

theorem locate_unbroken {line : Text} (unbroken : Unbroken line) (index : Nat) :
    locate line index = ⟨0, width16 (line.take index)⟩ := by
  have starts : lineStarts line = [0] := by
    rw [lineStarts, List.range_succ_eq_map, List.filter_cons_of_pos rfl, List.filter_eq_nil_iff.mpr]
    intro start member
    obtain ⟨before, _, rfl⟩ := List.mem_map.mp member
    rw [startsLine_of_plain]
    · simp
    · intro c found
      exact unbroken c (List.mem_of_getElem? found)
  simp [locate, startsUpTo, starts]

theorem offset_first {text row : Text} {others : List Text} (shape : rows text = row :: others) (column : Nat) :
    offset text ⟨0, column⟩ = charsBefore row column := by
  simp [offset, lineStart, shape]

theorem offset_later {row rest : Text} (shape : rows (row ++ rest) = row :: rows rest) (position : Position) :
    offset (row ++ rest) ⟨position.line + 1, position.column⟩ = row.length + offset rest position := by
  simp only [offset, lineStart, shape, List.getElem?_cons_succ, List.take_succ_cons, List.flatten_cons,
    List.length_append]
  split <;> omega

/-- The buffer finds every index again under the editor's name for it: inside a line, between the two
characters of a break, at the start of a line and at the end of the text. -/
theorem offset_locate (text : Text) (index : Nat) (inside : index ≤ text.length) :
    offset text (locate text index) = index := by
  induction text using lineInduction generalizing index with
  | last line unbroken =>
    rw [locate_unbroken unbroken, offset_first (rows_of_unbroken unbroken), charsBefore_width16 line index inside]
  | more line mark rest unbroken ends ih =>
    have shape := rows_append unbroken ends
    by_cases early : index < (line ++ mark).length
    · rw [locate_inside unbroken ends early, offset_first shape,
        charsBefore_width16 (line ++ mark) index (Nat.le_of_lt early)]
    · obtain ⟨further, rfl⟩ := Nat.exists_eq_add_of_le (Nat.le_of_not_lt early)
      have within : further ≤ rest.length := by
        simp only [List.length_append] at inside
        omega
      rw [← List.append_assoc] at shape
      rw [locate_behind unbroken ends, ← List.append_assoc, offset_later shape, ih further within]

end QueryNav.Buffer
