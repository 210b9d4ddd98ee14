import QueryNav.Proofs.Concatenation

/-! The lines of a text and the breaks between them. Put together in turns they give the text, and there is only
one way to do so with lines that hold no character of a break and breaks of which none is the first half of a
longer one. The text therefore has as many lines as breaks and one more, and every other character, whatever it
separates elsewhere, stands inside a line. -/

namespace QueryNav.Text

/-- Lines and the breaks between them in turns, beginning with a line. -/
def interleave : (lines breaks : List Text) → Text
  | [], _ => []
  | line :: _, [] => line
  | line :: lines, mark :: breaks => line ++ (mark ++ interleave lines breaks)

def IsMark (mark : Text) : Prop := mark = ['\r', '\n'] ∨ mark = ['\n'] ∨ mark = ['\r']

/-- The text is made of these lines with these breaks between them. -/
structure Divides (text : Text) (lines breaks : List Text) : Prop where
  whole : text = interleave lines breaks
  count : lines.length = breaks.length + 1
  unbroken : ∀ line ∈ lines, '\r' ∉ line ∧ '\n' ∉ line
  marks : ∀ mark ∈ breaks, IsMark mark
  /-- A carriage return is no break of its own in front of a line feed. -/
  complete : ∀ number, breaks[number]? = some ['\r'] →
    (interleave (lines.drop (number + 1)) (breaks.drop (number + 1))).head? ≠ some '\n'

theorem unbroken_iff {line : Text} : Unbroken line ↔ '\r' ∉ line ∧ '\n' ∉ line := by
  constructor
  · intro unbroken
    exact ⟨fun member => absurd (unbroken _ member) (by simp [isBreak]),
      fun member => absurd (unbroken _ member) (by simp [isBreak])⟩
  · intro absent c member
    simp only [isBreak, Bool.or_eq_false_iff, decide_eq_false_iff_not]
    exact ⟨fun same => absent.2 (same ▸ member), fun same => absent.1 (same ▸ member)⟩

theorem ends_iff {mark rest : Text} : Ends mark rest ↔ IsMark mark ∧ (mark = ['\r'] → rest.head? ≠ some '\n') := by
  constructor
  · intro ends
    cases ends with
    | feed => exact ⟨.inr (.inl rfl), by simp⟩
    | pair => exact ⟨.inl rfl, by simp⟩
    | carriage alone => exact ⟨.inr (.inr rfl), fun _ => alone⟩
  · intro described
    obtain ⟨rfl | rfl | rfl, alone⟩ := described
    · exact .pair
    · exact .feed
    · exact .carriage (alone rfl)

theorem divides_singleton {text line : Text} : Divides text [line] [] ↔ text = line ∧ Unbroken line := by
  constructor
  · intro divides
    exact ⟨divides.whole, unbroken_iff.mpr (divides.unbroken line (by simp))⟩
  · intro described
    obtain ⟨rfl, unbroken⟩ := described
    exact ⟨rfl, rfl, by simpa using unbroken_iff.mp unbroken, by simp, by simp⟩

theorem divides_cons {text line mark : Text} {lines breaks : List Text} :
    Divides text (line :: lines) (mark :: breaks) ↔
      ∃ rest, text = line ++ (mark ++ rest) ∧ Unbroken line ∧ Ends mark rest ∧ Divides rest lines breaks := by
  constructor
  · intro divides
    have count : lines.length = breaks.length + 1 := by simpa using divides.count
    refine ⟨interleave lines breaks, divides.whole, unbroken_iff.mpr (divides.unbroken line (by simp)), ?_, ?_⟩
    · refine ends_iff.mpr ⟨divides.marks mark (by simp), ?_⟩
      intro carriage
      simpa using divides.complete 0 (by simp [carriage])
    · refine ⟨rfl, count, fun other member => divides.unbroken other (by simp [member]),
        fun other member => divides.marks other (by simp [member]), ?_⟩
      intro number carriage
      simpa using divides.complete (number + 1) (by simpa using carriage)
  · intro described
    obtain ⟨rest, rfl, unbroken, ends, divides⟩ := described
    obtain ⟨isMark, alone⟩ := ends_iff.mp ends
    refine ⟨by rw [interleave, ← divides.whole], by simp [divides.count], ?_, ?_, ?_⟩
    · simpa using ⟨unbroken_iff.mp unbroken, divides.unbroken⟩
    · simpa using ⟨isMark, divides.marks⟩
    · intro number carriage
      cases number with
      | zero => simpa [← divides.whole] using alone (by simpa using carriage)
      | succ number => simpa using divides.complete number (by simpa using carriage)

theorem Ends.unique {mark rest sign behind : Text} (ends : Ends mark rest) (stops : Ends sign behind)
    (same : mark ++ rest = sign ++ behind) : mark = sign ∧ rest = behind := by
  have rowed : mark :: rows rest = sign :: rows behind := by
    calc mark :: rows rest
      _ = rows (mark ++ rest) := (rows_append unbroken_nil ends).symm
      _ = rows (sign ++ behind) := congrArg rows same
      _ = sign :: rows behind := rows_append unbroken_nil stops
  obtain ⟨rfl, _⟩ := List.cons.inj rowed
  exact ⟨rfl, List.append_cancel_left same⟩

theorem lines_of_divides {text : Text} {found breaks : List Text} (divides : Divides text found breaks) :
    found = lines text := by
  induction found generalizing text breaks with
  | nil => cases divides.count
  | cons line others ih =>
    cases breaks with
    | nil =>
      obtain rfl : others = [] := by simpa using divides.count
      obtain ⟨rfl, unbroken⟩ := divides_singleton.mp divides
      exact (lines_of_unbroken unbroken).symm
    | cons mark breaks =>
      obtain ⟨rest, rfl, unbroken, ends, later⟩ := divides_cons.mp divides
      rw [lines_append_mark unbroken ends, ← ih later]

theorem breaks_of_divides {text : Text} {found breaks others : List Text} (divides : Divides text found breaks)
    (also : Divides text found others) : breaks = others := by
  induction found generalizing text breaks others with
  | nil => cases divides.count
  | cons line behind ih =>
    cases breaks with
    | nil =>
      obtain rfl : behind = [] := by simpa using divides.count
      exact (List.eq_nil_of_length_eq_zero (by simpa using also.count.symm)).symm
    | cons mark breaks =>
      cases others with
      | nil =>
        obtain rfl : behind = [] := by simpa using also.count
        cases divides.count
      | cons sign others =>
        obtain ⟨rest, rfl, _, ends, later⟩ := divides_cons.mp divides
        obtain ⟨follows, same, _, stops, further⟩ := divides_cons.mp also
        obtain ⟨rfl, rfl⟩ := ends.unique stops (List.append_cancel_left same)
        rw [ih later further]

theorem exists_breaks (text : Text) : ∃ breaks, Divides text (lines text) breaks := by
  induction text using lineInduction with
  | last line unbroken =>
    refine ⟨[], ?_⟩
    rw [lines_of_unbroken unbroken]
    exact divides_singleton.mpr ⟨rfl, unbroken⟩
  | more line mark rest unbroken ends ih =>
    obtain ⟨breaks, divides⟩ := ih
    refine ⟨mark :: breaks, ?_⟩
    rw [lines_append_mark unbroken ends]
    exact divides_cons.mpr ⟨rest, rfl, unbroken, ends, divides⟩

theorem getLast?_lines_append {mark : Text} (isMark : IsMark mark) (text : Text) :
    (lines (text ++ mark)).getLast? = some [] := by
  have alone : lines mark = [[], []] := by
    have ends : Ends mark [] := ends_iff.mpr ⟨isMark, by simp⟩
    simpa [lines] using lines_append_mark unbroken_nil ends
  by_cases joins : Joins text mark
  · simp [lines_append_of_joins joins, alone]
  · simp [lines_append_of_apart joins, alone]

theorem lines_append_cons {c : Char} (plain : Unbroken [c]) (text rest : Text) :
    lines (text ++ c :: rest) = (lines text).dropLast ++
      ((lines text).getLast (lines_ne_nil text) ++ c :: (lines rest).head (lines_ne_nil rest)) ::
        (lines rest).tail := by
  have apart : ¬ Joins text (c :: rest) := by
    intro joins
    have feed : c = '\n' := by simpa using joins.2
    exact (unbroken_iff.mp plain).2 (by simp [feed])
  have begins : lines (c :: rest) = (c :: (lines rest).headD []) :: (lines rest).tail :=
    lines_unbroken_append plain rest
  rw [lines_append_of_apart apart, begins, headD_lines, getLastD_lines]
  rfl

/-- A text is its lines with breaks between them, in one way only. There is one line more than there are breaks, a
break at the end is in front of an empty line, and no other character ends a line. -/
theorem lines_divide_text (text : Text) :
    (∃ breaks, Divides text (lines text) breaks ∧ (lines text).length = breaks.length + 1 ∧
      ∀ found others, Divides text found others → found = lines text ∧ others = breaks) ∧
      lines [] = [[]] ∧ (∀ mark, IsMark mark → (lines (text ++ mark)).getLast? = some []) ∧
      ∀ c rest, c ≠ '\r' → c ≠ '\n' → lines (text ++ c :: rest) = (lines text).dropLast ++
        ((lines text).getLast (lines_ne_nil text) ++ c :: (lines rest).head (lines_ne_nil rest)) ::
          (lines rest).tail := by
  refine ⟨?_, rfl, fun mark isMark => getLast?_lines_append isMark text, ?_⟩
  · obtain ⟨breaks, divides⟩ := exists_breaks text
    refine ⟨breaks, divides, divides.count, ?_⟩
    intro found others also
    obtain rfl := lines_of_divides also
    exact ⟨rfl, breaks_of_divides also divides⟩
  · intro c rest notReturn notFeed
    apply lines_append_cons
    rw [unbroken_iff]
    simpa using ⟨notReturn.symm, notFeed.symm⟩

/-- Two carriage returns of which only the second belongs to a longer break, an empty line between them, and a
separator of another kind inside a line. -/
theorem lines_divide_text_with_separator :
    let text : Text := "a\r\r\nb\u2028c".toList
    let found : List Text := ["a".toList, [], "b\u2028c".toList]
    Divides text found [['\r'], ['\r', '\n']] ∧ found = lines text ∧
      (lines (text ++ ['\r'])).getLast? = some [] ∧
      lines (text ++ '\x0c' :: "\n".toList) = ["a".toList, [], "b\u2028c\x0c".toList, []] := by
  intro text found
  have divides : Divides text found [['\r'], ['\r', '\n']] := by
    refine divides_cons.mpr ⟨"\r\nb\u2028c".toList, rfl, unbroken_iff.mpr (by decide), .carriage (by decide), ?_⟩
    refine divides_cons.mpr ⟨"b\u2028c".toList, rfl, unbroken_nil, .pair, ?_⟩
    exact divides_singleton.mpr ⟨rfl, unbroken_iff.mpr (by decide)⟩
  obtain ⟨⟨breaks, _, _, unique⟩, _, trailing, plain⟩ := lines_divide_text text
  exact ⟨divides, (unique _ _ divides).1, trailing _ (.inr (.inr rfl)),
    (plain '\x0c' "\n".toList (by decide) (by decide)).trans (by decide)⟩

end QueryNav.Text
