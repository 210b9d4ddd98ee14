import QueryNav.Proofs.Locality

/-! Columns past the end of a line. A row is a line and the mark behind it, and a place may be anywhere in the
row. As long as its column is one of the line, it is in front of the mark; a column past the line leads into the
mark or behind it, except on the last line, where there is none. A change whose ends are both on one line takes the
mark away, in part or as a whole, exactly if it takes something away and one of its columns is past the line. -/

namespace QueryNav.Buffer

open Text

theorem exists_mark_of_row {text row : Text} {number : Nat} (found : (rows text)[number]? = some row) :
    ∃ mark, row = content row ++ mark ∧ Unbroken (content row) ∧ (∀ c ∈ mark, isBreak c = true) ∧
      (mark = [] ↔ number + 1 = (rows text).length) := by
  induction text using lineInduction generalizing number with
  | last line unbroken =>
    rw [rows_of_unbroken unbroken] at found ⊢
    obtain ⟨rfl, rfl⟩ : number = 0 ∧ line = row := by simpa [List.getElem?_singleton] using found
    rw [content_of_unbroken unbroken]
    exact ⟨[], by simp, unbroken, by simp, by simp⟩
  | more line mark rest unbroken ends ih =>
    have shape := rows_append unbroken ends
    rw [shape] at found ⊢
    cases number with
    | zero =>
      cases found
      have others : (rows rest).length ≠ 0 := by simpa [length_rows] using lines_ne_nil rest
      rw [content_append_mark unbroken ends]
      refine ⟨mark, rfl, unbroken, ends.isBreak, ?_⟩
      simp [ends.ne_nil, others]
    | succ number =>
      obtain ⟨behind, parts⟩ := ih found
      exact ⟨behind, by simpa using parts⟩

private theorem units16_of_isBreak {c : Char} (breaks : isBreak c = true) : units16 c = 1 := by
  obtain rfl | rfl : c = '\n' ∨ c = '\r' := by simpa [isBreak] using breaks
  · rfl
  · rfl

theorem charsBefore_le_length_iff (line : Text) {mark : Text} (broken : ∀ c ∈ mark, isBreak c = true)
    (column : Nat) :
    charsBefore (line ++ mark) column ≤ line.length ↔ column ≤ width16 line ∨ mark = [] := by
  cases mark with
  | nil => simpa using charsBefore_le line column
  | cons c mark =>
    -- A mark begins with a character of one unit, so the first column past the line is already behind that one.
    have wide : width16 (line ++ [c]) = width16 line + 1 := by
      rw [width16, width_append, width, units16_of_isBreak (broken c (by simp))]
      rfl
    have behind := length_le_charsBefore_iff (line ++ [c]) mark column
    rw [List.append_assoc, List.singleton_append, List.length_append, List.length_singleton, wide] at behind
    simp only [reduceCtorEq, or_false]
    omega

theorem unbroken_drop_take_iff {line mark : Text} (unbroken : Unbroken line) (broken : ∀ c ∈ mark, isBreak c = true)
    {low high : Nat} (ordered : low ≤ high) (inside : high ≤ (line ++ mark).length) :
    Unbroken (((line ++ mark).take high).drop low) ↔ high ≤ line.length ∨ low = high := by
  constructor
  · intro kept
    rcases Nat.lt_or_ge line.length high with past | short
    · rcases Nat.lt_or_ge low high with less | same
      · -- The last of the characters belongs to the mark.
        have last : high - 1 - line.length < mark.length := by
          rw [List.length_append] at inside
          omega
        have taken : (((line ++ mark).take high).drop low)[high - 1 - low]? = some mark[high - 1 - line.length] := by
          rw [List.getElem?_drop, List.getElem?_take_of_lt (by omega), Nat.add_sub_of_le (by omega),
            List.getElem?_append_right (by omega), List.getElem?_eq_getElem last]
        have plain := kept _ (List.mem_of_getElem? taken)
        rw [broken _ (List.getElem_mem last)] at plain
        cases plain
      · exact .inr (Nat.le_antisymm ordered same)
    · exact .inl short
  · intro harmless
    rcases harmless with short | same
    · intro c member
      rw [List.take_append_of_le_length short] at member
      exact unbroken c (List.mem_of_mem_take (List.mem_of_mem_drop member))
    · rw [same, List.drop_eq_nil_of_le (List.length_take_le _ _)]
      exact unbroken_nil

private theorem take_drop_take_drop (text : Text) {low high : Nat} (ordered : low ≤ high) :
    text.take low ++ ((text.take high).drop low ++ text.drop high) = text := by
  rw [← List.append_assoc]
  conv => lhs; arg 1; arg 1; rw [← Nat.min_eq_left ordered, ← List.take_take]
  rw [List.take_append_drop, List.take_append_drop]

def between (row : Text) (first last : Nat) : Text :=
  (row.take (max (charsBefore row first) (charsBefore row last))).drop
    (min (charsBefore row first) (charsBefore row last))

theorem unbroken_between_iff {line mark : Text} (unbroken : Unbroken line) (broken : ∀ c ∈ mark, isBreak c = true)
    (first last : Nat) :
    Unbroken (between (line ++ mark) first last) ↔ max first last ≤ width16 line ∨ mark = [] ∨
      charsBefore (line ++ mark) first = charsBefore (line ++ mark) last := by
  have inside := charsBefore_le (line ++ mark) first
  have also := charsBefore_le (line ++ mark) last
  have short : max (charsBefore (line ++ mark) first) (charsBefore (line ++ mark) last) ≤ line.length ↔
      max first last ≤ width16 line ∨ mark = [] := by
    rw [Nat.max_le, Nat.max_le, charsBefore_le_length_iff line broken, charsBefore_le_length_iff line broken,
      and_or_right]
  have nothing : min (charsBefore (line ++ mark) first) (charsBefore (line ++ mark) last) =
      max (charsBefore (line ++ mark) first) (charsBefore (line ++ mark) last) ↔
      charsBefore (line ++ mark) first = charsBefore (line ++ mark) last := by omega
  rw [between, unbroken_drop_take_iff unbroken broken (by omega) (by omega), short, nothing, or_assoc]

theorem apply_on_row {text row : Text} {number : Nat} (found : (rows text)[number]? = some row) (first last : Nat) :
    ∃ before behind, text = before ++ (between row first last ++ behind) ∧
      ∀ new, apply text ⟨some (⟨number, first⟩, ⟨number, last⟩), new⟩ = before ++ (new ++ behind) := by
  have inside := charsBefore_le row first
  have also := charsBefore_le row last
  refine ⟨text.take (lineStart text number + min (charsBefore row first) (charsBefore row last)),
    text.drop (lineStart text number + max (charsBefore row first) (charsBefore row last)), ?_, ?_⟩
  · rw [between, ← drop_take_row found (by omega), take_drop_take_drop text (by omega)]
  · intro new
    simp only [apply, splice, offset_of_row found, Nat.add_min_add_left, Nat.add_max_add_left, List.append_assoc]

/-- A place on a line is in front of the break of the line exactly if its column is one of the line or no break
follows. A change between two columns of a line leaves its break alone exactly if both are such columns, or no
characters are between them. -/
theorem place_on_line_iff (text row : Text) (number : Nat) (found : (rows text)[number]? = some row) :
    (∀ column, lineStart text number ≤ offset text ⟨number, column⟩ ∧
        (offset text ⟨number, column⟩ ≤ lineStart text number + (content row).length ↔
          column ≤ width16 (content row) ∨ number + 1 = (rows text).length)) ∧
      ∀ first last, ∃ before removed behind, text = before ++ (removed ++ behind) ∧
        (∀ new, apply text ⟨some (⟨number, first⟩, ⟨number, last⟩), new⟩ = before ++ (new ++ behind)) ∧
        (Unbroken removed ↔ max first last ≤ width16 (content row) ∨ number + 1 = (rows text).length ∨
          offset text ⟨number, first⟩ = offset text ⟨number, last⟩) := by
  obtain ⟨mark, whole, unbroken, broken, final⟩ := exists_mark_of_row found
  constructor
  · intro column
    have clamped := charsBefore_le_length_iff (content row) broken column
    rw [← whole, final] at clamped
    rw [offset_of_row found, Nat.add_le_add_iff_left]
    exact ⟨Nat.le_add_right _ _, clamped⟩
  · intro first last
    obtain ⟨before, behind, divided, changed⟩ := apply_on_row found first last
    have kept := unbroken_between_iff unbroken broken first last
    rw [← whole, final] at kept
    refine ⟨before, between row first last, behind, divided, changed, ?_⟩
    rw [offset_of_row found, offset_of_row found, Nat.add_left_cancel_iff]
    exact kept

/-- The second line ends with a carriage return and a line feed, and a change reaches between them. -/
theorem place_on_line_iff_between_halves_of_break :
    let text : Text := "a\n😀\r\nb".toList
    (rows text)[1]? = some "😀\r\n".toList ∧ ¬ offset text ⟨1, 3⟩ ≤ lineStart text 1 + 1 ∧
      ∃ before removed behind, text = before ++ (removed ++ behind) ∧
        apply text ⟨some (⟨1, 3⟩, ⟨1, 0⟩), []⟩ = before ++ behind ∧ ¬ Unbroken removed := by
  intro text
  have found : (rows text)[1]? = some "😀\r\n".toList := by decide
  obtain ⟨places, changes⟩ := place_on_line_iff text _ 1 found
  have past : ¬ offset text ⟨1, 3⟩ ≤ lineStart text 1 + 1 := mt (places 3).2.mp (by decide)
  obtain ⟨before, removed, behind, divided, changed, kept⟩ := changes 3 0
  exact ⟨found, past, before, removed, behind, divided, changed [], mt kept.mp (by decide)⟩

/-- A column past the end of a line is a place behind its break, and a change of the whole line up to such a column
joins the line to the next one. -/
theorem column_past_line_removes_break :
    let text : Text := "ab\ncd".toList
    (rows text)[0]? = some "ab\n".toList ∧ content "ab\n".toList = "ab".toList ∧ lineStart text 0 = 0 ∧
      offset text ⟨0, 9⟩ = 3 ∧ apply text ⟨some (⟨0, 0⟩, ⟨0, 9⟩), "x".toList⟩ = "xcd".toList ∧
      ¬ ∀ (text row : Text) (position : Position), (rows text)[position.line]? = some row →
        offset text position ≤ lineStart text position.line + (content row).length := by
  intro text
  refine ⟨by decide, by decide, by decide, by decide, by decide, ?_⟩
  intro within
  exact absurd (within text "ab\n".toList ⟨0, 9⟩ (by decide)) (by decide)

end QueryNav.Buffer
