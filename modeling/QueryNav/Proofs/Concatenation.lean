import QueryNav.Proofs.Lines

/-! Lines across a seam. Two texts that are put together keep all their lines but the two that meet: these
become one line, unless a carriage return meets a line feed, which makes one break of two and leaves nothing
of either. Whatever meets at a seam, the lines in front of it and behind it stay. A cut between two rows is a
seam at which nothing is joined: it divides the lines as it divides the rows. -/

namespace QueryNav.Text

/-- The two halves of one break meet at the seam of two texts. -/
def Joins (front back : Text) : Prop := front.getLast? = some '\r' ∧ back.head? = some '\n'

theorem content_of_unbroken {line : Text} (unbroken : Unbroken line) : content line = line := by
  obtain ⟨tail, whole, broken⟩ := trimEndWhile_append isBreak line
  cases tail with
  | nil => simpa [content] using whole.symm
  | cons c tail =>
    have member : c ∈ line := by rw [whole]; simp
    exact absurd (broken c (by simp)) (by simp [unbroken c member])

theorem Ends.isBreak {mark rest : Text} (ends : Ends mark rest) : ∀ c ∈ mark, isBreak c = true := by
  cases ends <;> simp [Text.isBreak]

theorem content_append_breaks {line breaks : Text} (unbroken : Unbroken line)
    (broken : ∀ c ∈ breaks, isBreak c = true) : content (line ++ breaks) = line := by
  have marked : ∀ c ∈ breaks.reverse, isBreak c = true := fun c member => broken c (List.mem_reverse.mp member)
  rw [content, trimEndWhile, List.reverse_append, List.dropWhile_append_of_pos marked]
  exact content_of_unbroken unbroken

theorem content_append_mark {line mark rest : Text} (unbroken : Unbroken line) (ends : Ends mark rest) :
    content (line ++ mark) = line := content_append_breaks unbroken ends.isBreak

theorem lines_of_unbroken {line : Text} (unbroken : Unbroken line) : lines line = [line] := by
  rw [← map_content_rows, rows_of_unbroken unbroken, List.map_singleton, content_of_unbroken unbroken]

theorem lines_append_mark {line mark rest : Text} (unbroken : Unbroken line) (ends : Ends mark rest) :
    lines (line ++ (mark ++ rest)) = line :: lines rest := by
  rw [← map_content_rows, rows_append unbroken ends, List.map_cons, content_append_mark unbroken ends,
    map_content_rows]

theorem lines_ne_nil (text : Text) : lines text ≠ [] := by
  induction text using lineInduction with
  | last line unbroken => simp [lines_of_unbroken unbroken]
  | more line mark rest unbroken ends _ => simp [lines_append_mark unbroken ends]

theorem Unbroken.append {line other : Text} (unbroken : Unbroken line) (plain : Unbroken other) :
    Unbroken (line ++ other) := by
  intro c member
  rcases List.mem_append.mp member with early | late
  · exact unbroken c early
  · exact plain c late

theorem lines_unbroken_append {line : Text} (unbroken : Unbroken line) (back : Text) :
    lines (line ++ back) = (line ++ (lines back).headD []) :: (lines back).tail := by
  induction back using lineInduction with
  | last other plain =>
    simp [lines_of_unbroken (unbroken.append plain), lines_of_unbroken plain]
  | more other mark rest plain ends _ =>
    rw [← List.append_assoc, lines_append_mark (unbroken.append plain) ends, lines_append_mark plain ends]
    rfl

private theorem Ends.before {mark rest other : Text} (ends : Ends mark rest)
    (alone : mark = ['\r'] → rest.head? ≠ some '\n' → other.head? ≠ some '\n') : Ends mark other := by
  cases ends with
  | feed => exact .feed
  | pair => exact .pair
  | carriage lone => exact .carriage (alone rfl lone)

/-- Texts that do not share a break keep all lines but the two that meet at the seam, which become one. -/
theorem lines_append_of_apart {front back : Text} (apart : ¬ Joins front back) :
    lines (front ++ back) =
      (lines front).dropLast ++ ((lines front).getLastD [] ++ (lines back).headD []) :: (lines back).tail := by
  induction front using lineInduction with
  | last line unbroken => simp [lines_of_unbroken unbroken, lines_unbroken_append unbroken]
  | more line mark rest unbroken ends ih =>
    have later : ¬ Joins rest back := by
      rintro ⟨last, first⟩
      exact apart ⟨by simp [last], first⟩
    have marked : Ends mark (rest ++ back) := by
      apply ends.before
      rintro rfl alone
      cases rest with
      | nil =>
        intro feed
        exact apart ⟨by simp, by simpa using feed⟩
      | cons c rest => simpa using alone
    obtain ⟨next, others, cut⟩ := List.exists_cons_of_ne_nil (lines_ne_nil rest)
    rw [List.append_assoc, List.append_assoc, lines_append_mark unbroken marked, ih later,
      lines_append_mark unbroken ends, cut]
    simp

theorem getLastD_lines (text : Text) : (lines text).getLastD [] = (lines text).getLast (lines_ne_nil text) := by
  rw [List.getLastD_eq_getLast?, List.getLast?_eq_some_getLast (lines_ne_nil text), Option.getD_some]

theorem headD_lines (text : Text) : (lines text).headD [] = (lines text).head (lines_ne_nil text) := by
  rw [List.headD_eq_head?_getD, List.head?_eq_some_head (lines_ne_nil text), Option.getD_some]

private theorem dropLast_lines_concat (text : Text) :
    (lines text).dropLast ++ [(lines text).getLastD []] = lines text := by
  rw [getLastD_lines, List.dropLast_concat_getLast]

private theorem lines_append_return (front : Text) {behind : Text} (back : Text)
    (begins : lines ('\r' :: behind) = [] :: lines back) :
    lines (front ++ '\r' :: behind) = lines front ++ lines back := by
  have apart : ¬ Joins front ('\r' :: behind) := by simp [Joins]
  have whole := dropLast_lines_concat front
  rw [lines_append_of_apart apart, begins]
  simpa using congrArg (· ++ lines back) whole

/-- Texts that share a break lose the empty line between its two halves. -/
theorem lines_append_of_joins {front back : Text} (joins : Joins front back) :
    lines (front ++ back) = (lines front).dropLast ++ (lines back).tail := by
  obtain ⟨first, rfl⟩ := List.getLast?_eq_some_iff.mp joins.1
  obtain ⟨rest, rfl⟩ := List.head?_eq_some_iff.mp joins.2
  have alone : lines (first ++ ['\r']) = lines first ++ [[]] :=
    lines_append_return first [] (by simp [lines, isBreak])
  have paired : lines (first ++ '\r' :: '\n' :: rest) = lines first ++ lines rest :=
    lines_append_return first rest (by simp [lines])
  have feed : lines ('\n' :: rest) = [] :: lines rest := by simp [lines, isBreak]
  rw [List.append_assoc, List.singleton_append, paired, alone, feed, List.dropLast_concat, List.tail_cons]

/-- Two texts put together have the lines of both without the two that meet, and in place of these one line, unless
the halves of one break meet, which leaves nothing of either. -/
theorem lines_append_eq (front back : Text) :
    lines (front ++ back) =
      if front.getLast? = some '\r' ∧ back.head? = some '\n' then
        (lines front).dropLast ++ (lines back).tail
      else
        (lines front).dropLast ++
          [(lines front).getLast (lines_ne_nil front) ++ (lines back).head (lines_ne_nil back)] ++
          (lines back).tail := by
  split
  next joins => exact lines_append_of_joins joins
  next apart =>
    rw [lines_append_of_apart apart, getLastD_lines, headD_lines, List.append_assoc, List.singleton_append]

theorem lines_append_front (front back : Text) :
    ∃ later, later ≠ [] ∧ lines (front ++ back) = (lines front).dropLast ++ later := by
  by_cases joins : Joins front back
  · obtain ⟨rest, rfl⟩ := List.head?_eq_some_iff.mp joins.2
    refine ⟨lines rest, lines_ne_nil rest, ?_⟩
    rw [lines_append_of_joins joins]
    simp [lines, isBreak]
  · exact ⟨_, List.cons_ne_nil _ _, lines_append_of_apart joins⟩

theorem tail_lines_suffix (front back : Text) : (lines back).tail <:+ lines (front ++ back) := by
  by_cases joins : Joins front back
  · rw [lines_append_of_joins joins]
    exact List.suffix_append _ _
  · rw [lines_append_of_apart joins, List.append_cons]
    exact List.suffix_append _ _

theorem flatten_rows (text : Text) : (rows text).flatten = text := by
  induction text using lineInduction with
  | last line unbroken => simp [rows_of_unbroken unbroken]
  | more line mark rest unbroken ends ih => simp [rows_append unbroken ends, ih]

theorem length_rows (text : Text) : (rows text).length = (lines text).length := by
  rw [← map_content_rows, List.length_map]

theorem lines_flatten_take {text : Text} {count : Nat} (inside : count < (rows text).length) :
    lines ((rows text).take count).flatten = (lines text).take count ++ [[]] := by
  induction text using lineInduction generalizing count with
  | last line unbroken =>
    rw [rows_of_unbroken unbroken] at inside
    obtain rfl : count = 0 := by simpa using inside
    simp [lines]
  | more line mark rest unbroken ends ih =>
    rw [rows_append unbroken ends, lines_append_mark unbroken ends] at *
    cases count with
    | zero => simp [lines]
    | succ count =>
      have whole : ((rows rest).take count).flatten ++ ((rows rest).drop count).flatten = rest := by
        rw [← List.flatten_append, List.take_append_drop, flatten_rows]
      have marked : Ends mark ((rows rest).take count).flatten := by
        apply ends.before
        intro _ alone
        rw [← whole] at alone
        cases front : ((rows rest).take count).flatten with
        | nil => simp
        | cons c front => simpa [front] using alone
      rw [List.take_succ_cons, List.flatten_cons, List.append_assoc, lines_append_mark unbroken marked,
        ih (by simpa using inside), List.take_succ_cons, List.cons_append]

theorem lines_flatten_drop {text : Text} {count : Nat} (inside : count < (rows text).length) :
    lines ((rows text).drop count).flatten = (lines text).drop count := by
  induction text using lineInduction generalizing count with
  | last line unbroken =>
    rw [rows_of_unbroken unbroken] at inside
    obtain rfl : count = 0 := by simpa using inside
    simp [flatten_rows]
  | more line mark rest unbroken ends ih =>
    cases count with
    | zero => simp [flatten_rows]
    | succ count =>
      rw [rows_append unbroken ends] at inside ⊢
      rw [lines_append_mark unbroken ends, List.drop_succ_cons, List.drop_succ_cons, ih (by simpa using inside)]

end QueryNav.Text
