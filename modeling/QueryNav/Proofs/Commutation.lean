import QueryNav.Proofs.LineEnds

/-! Edits on different lines. A change between two columns of a line puts another line in front of the break of its
row. The other rows stay as they are if their breaks do, and a break can only become part of another one where a
carriage return stands alone. In a text without such a return two changes on different lines replace two rows of one
list, so it does not matter which of them is made first. -/

namespace QueryNav.Buffer

open Text

/-- Every carriage return is the first half of a break. -/
def Paired (text : Text) : Prop :=
  ∀ index, index < text.length → text[index]? = some '\r' → text[index + 1]? = some '\n'

instance (text : Text) : Decidable (Paired text) :=
  inferInstanceAs (Decidable (∀ index, index < text.length → _ → _))

/-- No row ends with a carriage return, which a line feed behind it could make into another break. -/
def Sealed (found : List Text) : Prop := ∀ row ∈ found, row.getLast? ≠ some '\r'

theorem Paired.behind {front back : Text} (paired : Paired (front ++ back)) : Paired back := by
  intro index inside found
  have shift : ∀ k, (front ++ back)[front.length + k]? = back[k]? := by
    intro k
    rw [List.getElem?_append_right (Nat.le_add_right _ _), Nat.add_sub_cancel_left]
  have next := paired (front.length + index) (by rw [List.length_append]; omega) ((shift index).trans found)
  rwa [Nat.add_assoc, shift] at next

theorem getLast?_ne_return {line : Text} (unbroken : Unbroken line) : line.getLast? ≠ some '\r' := by
  intro last
  have plain := unbroken '\r' (List.mem_of_getLast? last)
  cases plain

theorem sealed_rows {text : Text} (paired : Paired text) : Sealed (rows text) := by
  induction text using lineInduction with
  | last line unbroken =>
    rw [rows_of_unbroken unbroken]
    intro row member
    rw [List.mem_singleton.mp member]
    exact getLast?_ne_return unbroken
  | more line mark rest unbroken ends ih =>
    rw [rows_append unbroken ends]
    intro row member
    rcases List.mem_cons.mp member with rfl | later
    · cases ends with
      | feed => simp
      | pair => simp
      | carriage alone =>
        have followed := paired.behind 0 (by simp) (by simp)
        exact absurd (by simpa [← List.head?_eq_getElem?] using followed) alone
    · exact ih paired.behind.behind row later

/-- The break at the end of a row. -/
def markOf (row : Text) : Text := row.drop (content row).length

theorem markOf_append {line mark : Text} (stripped : content (line ++ mark) = line) : markOf (line ++ mark) = mark := by
  rw [markOf, stripped, List.drop_left]

section Row

variable {text row : Text} {number : Nat} (found : (rows text)[number]? = some row)

include found

theorem row_eq : row = content row ++ markOf row ∧ Unbroken (content row) ∧ ∀ c ∈ markOf row, isBreak c = true := by
  obtain ⟨mark, whole, unbroken, broken, _⟩ := exists_mark_of_row found
  have same : markOf row = mark := by
    rw [whole]
    exact markOf_append (by rw [← whole])
  rw [same]
  exact ⟨whole, unbroken, broken⟩

variable {line : Text} (unbroken : Unbroken line)

include unbroken

/-- Another line in front of the break of a row leaves the other rows alone. -/
theorem rows_flatten_set (closed : Sealed (rows text)) :
    rows ((rows text).set number (line ++ markOf row)).flatten = (rows text).set number (line ++ markOf row) := by
  induction text using lineInduction generalizing number with
  | last other plain =>
    rw [rows_of_unbroken plain] at found ⊢
    obtain ⟨rfl, rfl⟩ : number = 0 ∧ other = row := by simpa [List.getElem?_singleton] using found
    simp [markOf, content_of_unbroken plain, rows_of_unbroken unbroken]
  | more other mark rest plain ends ih =>
    rw [rows_append plain ends] at closed found ⊢
    cases number with
    | zero =>
      cases found
      rw [markOf_append (content_append_mark plain ends), List.set_cons_zero, List.flatten_cons, flatten_rows,
        List.append_assoc, rows_append unbroken ends]
    | succ number =>
      have others : Sealed (rows rest) := fun later member => closed later (List.mem_cons_of_mem _ member)
      have still : Ends mark ((rows rest).set number (line ++ markOf row)).flatten := by
        cases ends with
        | feed => exact .feed
        | pair => exact .pair
        | carriage alone => exact absurd (by simp) (closed _ List.mem_cons_self)
      rw [List.set_cons_succ, List.flatten_cons, List.append_assoc, rows_append plain still, ih found others]

theorem Sealed.set (closed : Sealed (rows text)) : Sealed ((rows text).set number (line ++ markOf row)) := by
  intro other member
  rcases List.mem_or_eq_of_mem_set member with kept | rfl
  · exact closed other kept
  · have last := closed row (List.mem_of_getElem? found)
    rw [(row_eq found).1, List.getLast?_append] at last
    rw [List.getLast?_append]
    cases ending : (markOf row).getLast? with
    | none => simpa [ending] using getLast?_ne_return unbroken
    | some c => simpa [ending] using last

end Row

theorem splice_length_add (front rest : Text) (low high : Nat) (new : Text) :
    splice (front ++ rest) (front.length + low) (front.length + high) new = front ++ splice rest low high new := by
  simp only [splice, List.take_length_add_append, List.drop_length_add_append, List.append_assoc]

theorem splice_append {front : Text} {low high : Nat} (begins : low ≤ front.length) (ends : high ≤ front.length)
    (rest new : Text) : splice (front ++ rest) low high new = splice front low high new ++ rest := by
  simp only [splice, List.take_append_of_le_length begins, List.drop_append_of_le_length ends, List.append_assoc]

theorem unbroken_splice {line new : Text} (unbroken : Unbroken line) (plain : Unbroken new) (low high : Nat) :
    Unbroken (splice line low high new) := by
  have front : Unbroken (line.take low) := fun c member => unbroken c (List.mem_of_mem_take member)
  have back : Unbroken (line.drop high) := fun c member => unbroken c (List.mem_of_mem_drop member)
  exact (front.append plain).append back

/-- What a change between two columns of a row leaves of its line. -/
def lineAfter (row : Text) (first last : Nat) (new : Text) : Text :=
  splice (content row) (min (charsBefore row first) (charsBefore row last))
    (max (charsBefore row first) (charsBefore row last)) new

theorem apply_eq_flatten_set {text row : Text} {number : Nat} (found : (rows text)[number]? = some row)
    {first last : Nat} (low : first ≤ width16 (content row)) (high : last ≤ width16 (content row)) (new : Text) :
    apply text ⟨some (⟨number, first⟩, ⟨number, last⟩), new⟩ =
      ((rows text).set number (lineAfter row first last new ++ markOf row)).flatten := by
  obtain ⟨whole, _, broken⟩ := row_eq found
  have begins := (charsBefore_le_length_iff (content row) broken first).mpr (.inl low)
  have ends := (charsBefore_le_length_iff (content row) broken last).mpr (.inl high)
  rw [← whole] at begins ends
  obtain ⟨inside, present⟩ := List.getElem?_eq_some_iff.mp found
  have cut : text = ((rows text).take number).flatten ++
      (content row ++ (markOf row ++ ((rows text).drop (number + 1)).flatten)) := by
    rw [← List.append_assoc (content row), ← whole, ← List.flatten_cons, ← present, List.getElem_cons_drop,
      ← List.flatten_append, List.take_append_drop, flatten_rows]
  simp only [apply, offset_of_row found, Nat.add_min_add_left, Nat.add_max_add_left]
  conv => lhs; arg 1; rw [cut]
  rw [lineStart, splice_length_add, splice_append (by omega) (by omega), List.set_eq_take_append_cons_drop,
    if_pos inside, List.flatten_append, List.flatten_cons, List.append_assoc, lineAfter]

/-- A change within line `number` of a text: both its ends are at columns of the line, and it puts no break there. -/
inductive Within (text : Text) (number : Nat) : Change → Prop where
  | intro (line new : Text) (first last : Nat) (present : (Buffer.lines text)[number]? = some line)
      (low : first ≤ width16 line) (high : last ≤ width16 line) (plain : Unbroken new) :
      Within text number ⟨some (⟨number, first⟩, ⟨number, last⟩), new⟩

/-- A change within a line replaces its row. The new row depends on nothing but the old one. -/
theorem Within.rows_apply {text : Text} {number : Nat} {change : Change} (within : Within text number change) :
    ∃ row changed, (rows text)[number]? = some row ∧
      ∀ other, (rows other)[number]? = some row → Sealed (rows other) →
        rows (apply other change) = (rows other).set number changed ∧ Sealed (rows (apply other change)) := by
  obtain ⟨line, new, first, last, present, low, high, plain⟩ := within
  rw [Buffer.lines, List.getElem?_map] at present
  obtain ⟨row, found, rfl⟩ := Option.map_eq_some_iff.mp present
  refine ⟨row, lineAfter row first last new ++ markOf row, found, ?_⟩
  intro other same closed
  have unbroken : Unbroken (lineAfter row first last new) := unbroken_splice (row_eq found).2.1 plain _ _
  have replaced := rows_flatten_set same unbroken closed
  rw [apply_eq_flatten_set same low high, replaced]
  exact ⟨rfl, closed.set same unbroken⟩

theorem eq_of_rows_eq {text other : Text} (same : rows text = rows other) : text = other := by
  rw [← flatten_rows text, same, flatten_rows]

/-- Changes within different lines can be made in either order. They leave the number of lines as it is and every
other line too, and each of the two lines is as its own change alone leaves it. -/
theorem edits_of_different_lines_commute (text : Text) (paired : Paired text) (i j : Nat) (different : i ≠ j)
    (here there : Change) (within : Within text i here) (also : Within text j there) :
    apply (apply text here) there = apply (apply text there) here ∧
      (Buffer.lines (apply (apply text here) there)).length = (Buffer.lines text).length ∧
      (∀ number, number ≠ i → number ≠ j →
        (Buffer.lines (apply (apply text here) there))[number]? = (Buffer.lines text)[number]?) ∧
      (Buffer.lines (apply (apply text here) there))[i]? = (Buffer.lines (apply text here))[i]? ∧
      (Buffer.lines (apply (apply text here) there))[j]? = (Buffer.lines (apply text there))[j]? := by
  have closed := sealed_rows paired
  obtain ⟨row, changed, found, replaces⟩ := within.rows_apply
  obtain ⟨row', changed', found', replaces'⟩ := also.rows_apply
  obtain ⟨first, closedFirst⟩ := replaces text found closed
  obtain ⟨second, closedSecond⟩ := replaces' text found' closed
  have both : rows (apply (apply text here) there) = ((rows text).set i changed).set j changed' := by
    rw [(replaces' _ (by rw [first, List.getElem?_set_ne different, found']) closedFirst).1, first]
  have swapped : rows (apply (apply text there) here) = ((rows text).set i changed).set j changed' := by
    rw [(replaces _ (by rw [second, List.getElem?_set_ne different.symm, found]) closedSecond).1, second,
      List.set_comm _ _ different.symm]
  refine ⟨eq_of_rows_eq (both.trans swapped.symm), ?_, ?_, ?_, ?_⟩
  · simp only [Buffer.lines, both, List.length_map, List.length_set]
  · intro number away off
    simp only [Buffer.lines, both, List.getElem?_map, List.getElem?_set_ne (Ne.symm away),
      List.getElem?_set_ne (Ne.symm off)]
  · simp only [Buffer.lines, both, first, List.getElem?_map, List.getElem?_set_ne different.symm]
  · simp only [Buffer.lines, both, second, List.getElem?_map, List.set_comm _ _ different,
      List.getElem?_set_ne different]

/-- One change runs backwards from the end of its line to the middle of a character of two units; the other empties
its line. -/
theorem edits_of_different_lines_commute_at_emptied_line :
    let text : Text := "a😀b\r\n日c\n".toList
    let here : Change := ⟨some (⟨0, 4⟩, ⟨0, 2⟩), "x".toList⟩
    let there : Change := ⟨some (⟨1, 0⟩, ⟨1, 2⟩), []⟩
    Paired text ∧ Within text 0 here ∧ Within text 1 there ∧
      apply (apply text here) there = apply (apply text there) here ∧
      apply (apply text here) there = "ax\r\n\n".toList := by
  intro text here there
  have paired : Paired text := by decide
  have plain : Unbroken "x".toList := by simp [Unbroken, isBreak]
  have within : Within text 0 here := .intro "a😀b".toList _ _ _ (by decide) (by decide) (by decide) plain
  have also : Within text 1 there := .intro "日c".toList _ _ _ (by decide) (by decide) (by decide) unbroken_nil
  obtain ⟨commute, _⟩ := edits_of_different_lines_commute text paired 0 1 (by decide) here there within also
  exact ⟨paired, within, also, commute, by decide⟩

end QueryNav.Buffer
