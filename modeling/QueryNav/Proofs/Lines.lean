import QueryNav.Text.Line

/-! The shape of a text as lines. A text without a break is one line; any other text is a line, the mark
that ends it, and the rows of what follows. An induction along this shape takes one line at a time, so that
no later argument looks at single characters of a break. The lines of a text are its rows without their
marks. -/

namespace QueryNav.Text

/-- No character of the text takes part in a break. -/
def Unbroken (line : Text) : Prop := ∀ c ∈ line, isBreak c = false

/-- The mark that ends a line in front of `rest`. A carriage return in front of a line feed is not a mark
of its own, which is why the mark has to know what follows. -/
inductive Ends : (mark rest : Text) → Prop where
  | feed {rest : Text} : Ends ['\n'] rest
  | pair {rest : Text} : Ends ['\r', '\n'] rest
  | carriage {rest : Text} (alone : rest.head? ≠ some '\n') : Ends ['\r'] rest

theorem Ends.ne_nil {mark rest : Text} (ends : Ends mark rest) : mark ≠ [] := by
  cases ends <;> simp

theorem unbroken_nil : Unbroken [] := by simp [Unbroken]

theorem unbroken_cons {c : Char} {line : Text} :
    Unbroken (c :: line) ↔ isBreak c = false ∧ Unbroken line := by
  simp [Unbroken]

private theorem ne_return {c : Char} (plain : isBreak c = false) : c ≠ '\r' := by
  rintro rfl
  simp [isBreak] at plain

theorem rows_cons {c : Char} (plain : isBreak c = false) (rest : Text) :
    rows (c :: rest) = consFirst c (rows rest) := by
  rw [rows]
  · simp [plain]
  · intro behind same
    exact absurd same (ne_return plain)

theorem rows_of_unbroken {line : Text} (unbroken : Unbroken line) : rows line = [line] := by
  induction line with
  | nil => rfl
  | cons c line ih =>
    obtain ⟨plain, others⟩ := unbroken_cons.mp unbroken
    rw [rows_cons plain, ih others, consFirst]

private theorem rows_mark {mark rest : Text} (ends : Ends mark rest) : rows (mark ++ rest) = mark :: rows rest := by
  cases ends with
  | feed => simp [rows, isBreak]
  | pair => simp [rows]
  | carriage alone =>
    cases rest with
    | nil => simp [rows, isBreak]
    | cons c rest =>
      have other : c ≠ '\n' := by simpa using alone
      simp [rows, isBreak, other]

theorem rows_append {line mark rest : Text} (unbroken : Unbroken line) (ends : Ends mark rest) :
    rows (line ++ (mark ++ rest)) = (line ++ mark) :: rows rest := by
  induction line with
  | nil => exact rows_mark ends
  | cons c line ih =>
    obtain ⟨plain, others⟩ := unbroken_cons.mp unbroken
    rw [List.cons_append, rows_cons plain, ih others, consFirst, List.cons_append]

private theorem exists_mark {c : Char} (breaks : isBreak c = true) (rest : Text) :
    ∃ mark behind, c :: rest = mark ++ behind ∧ Ends mark behind := by
  obtain rfl | rfl : c = '\n' ∨ c = '\r' := by simpa [isBreak] using breaks
  · exact ⟨['\n'], rest, rfl, .feed⟩
  · by_cases paired : rest.head? = some '\n'
    · obtain ⟨behind, rfl⟩ := List.head?_eq_some_iff.mp paired
      exact ⟨['\r', '\n'], behind, rfl, .pair⟩
    · exact ⟨['\r'], rest, rfl, .carriage paired⟩

theorem unbroken_or_ends (text : Text) :
    Unbroken text ∨ ∃ line mark rest, text = line ++ (mark ++ rest) ∧ Unbroken line ∧ Ends mark rest := by
  induction text with
  | nil => exact .inl unbroken_nil
  | cons c text ih =>
    cases breaks : isBreak c with
    | true =>
      obtain ⟨mark, rest, same, ends⟩ := exists_mark breaks text
      exact .inr ⟨[], mark, rest, same, unbroken_nil, ends⟩
    | false =>
      rcases ih with unbroken | ⟨line, mark, rest, rfl, unbroken, ends⟩
      · exact .inl (unbroken_cons.mpr ⟨breaks, unbroken⟩)
      · exact .inr ⟨c :: line, mark, rest, rfl, unbroken_cons.mpr ⟨breaks, unbroken⟩, ends⟩

/-- Induction along the lines of a text: a last line without a break, or a line in front of a text for
which the statement holds already. -/
@[elab_as_elim]
theorem lineInduction {motive : Text → Prop} (last : ∀ line, Unbroken line → motive line)
    (more : ∀ line mark rest, Unbroken line → Ends mark rest → motive rest → motive (line ++ (mark ++ rest)))
    (text : Text) : motive text := by
  rcases unbroken_or_ends text with unbroken | ⟨line, mark, rest, same, unbroken, ends⟩
  · exact last text unbroken
  · have shorter : rest.length < text.length := by
      have positive := List.length_pos_iff.mpr ends.ne_nil
      simp only [same, List.length_append]
      omega
    rw [same]
    exact more line mark rest unbroken ends (lineInduction last more rest)
termination_by text.length

private theorem trimEndWhile_cons {α : Type} {drop : α → Bool} {item : α} (kept : drop item = false)
    (items : List α) : trimEndWhile drop (item :: items) = item :: trimEndWhile drop items := by
  rw [trimEndWhile, List.reverse_cons, List.dropWhile_append, trimEndWhile]
  split
  next nothing => simp [List.isEmpty_iff.mp nothing, kept]
  next => simp

private theorem map_content_consFirst {c : Char} (plain : isBreak c = false) (found : List Text) :
    (consFirst c found).map content = consFirst c (found.map content) := by
  cases found with
  | nil => simp [consFirst, content, trimEndWhile, plain]
  | cons row others => simp [consFirst, content, trimEndWhile_cons plain]

/-- Stripping the rows of a text gives its lines. A row has no break but the one at its end, so that nothing
else is stripped, however many breaks follow each other. -/
theorem map_content_rows (text : Text) : (rows text).map content = lines text := by
  fun_induction rows text with
  | case1 => rfl
  | case2 rest ih => simp [lines, ih, content, trimEndWhile, isBreak]
  | case3 c rest unpaired breaks ih =>
    rw [lines, if_pos breaks, List.map_cons, ih]
    · simp [content, trimEndWhile, breaks]
    · exact unpaired
  | case4 c rest unpaired plain ih =>
    rw [lines, if_neg plain, map_content_consFirst (Bool.eq_false_iff.mpr plain), ih]
    exact unpaired

end QueryNav.Text
