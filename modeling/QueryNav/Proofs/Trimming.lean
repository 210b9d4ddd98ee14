import QueryNav.Proofs.Grammar

/-! Blanks around a line. A header line is read without the blanks at its ends, other lines are read as they
are. Neither a word nor a name holds a blank, so blanks in front of a line only move its clause, and blanks
behind it are part of no clause: they could only follow a name that is complete without them. A line and its
trimmed form therefore have the same clause, at places that differ by the blanks in front. -/

namespace QueryNav.Text

def AllBlank (text : Text) : Prop := ∀ c ∈ text, isBlank c = true

theorem exists_trim_append (line : Text) :
    ∃ back, line = line.takeWhile isBlank ++ (trim line ++ back) ∧ AllBlank back := by
  obtain ⟨back, whole, blank⟩ := trimEndWhile_append isBlank (trimStart line)
  refine ⟨back, ?_, blank⟩
  rw [trim, trimEnd, ← whole, trimStart, List.takeWhile_append_dropWhile]

private theorem trimEnd_append {text back : Text} (blank : AllBlank back)
    (last : ∀ c, text.getLast? = some c → isBlank c = false) : trimEnd (text ++ back) = text := by
  have reversed : ∀ c ∈ back.reverse, isBlank c = true := fun c member => blank c (List.mem_reverse.mp member)
  have kept : text.reverse.dropWhile isBlank = text.reverse := by
    cases front : text.reverse with
    | nil => rfl
    | cons c rest =>
      have solid : isBlank c = false := last c (by rw [← List.head?_reverse, front, List.head?_cons])
      simp [solid]
  rw [trimEnd, trimEndWhile, List.reverse_append, List.dropWhile_append_of_pos reversed, kept, List.reverse_reverse]

theorem trim_append {front text back : Text} (before : AllBlank front) (behind : AllBlank back) (nonempty : text ≠ [])
    (first : ∀ c, text.head? = some c → isBlank c = false)
    (last : ∀ c, text.getLast? = some c → isBlank c = false) : trim (front ++ (text ++ back)) = text := by
  have start : trimStart (front ++ (text ++ back)) = text ++ back := by
    obtain ⟨c, others, rfl⟩ := List.exists_cons_of_ne_nil nonempty
    rw [trimStart, List.dropWhile_append_of_pos before]
    simp [first c rfl]
  rw [trim, start, trimEnd_append behind last]

theorem exists_append_of_blanks {text blanks front rest : Text} (blank : AllBlank blanks)
    (last : ∀ c, front.getLast? = some c → isBlank c = false) (whole : text ++ blanks = front ++ rest) :
    ∃ between, text = front ++ between ∧ rest = between ++ blanks := by
  rcases List.append_eq_append_iff.mp whole with ⟨reached, longer, cut⟩ | ⟨between, shorter, cut⟩
  · -- A front that reaches into the blanks would end with one.
    cases ending : reached.getLast? with
    | none =>
      obtain rfl := List.getLast?_eq_none_iff.mp ending
      exact ⟨[], by simpa using longer.symm, by simpa using cut.symm⟩
    | some c =>
      have inside : c ∈ blanks := cut ▸ List.mem_append_left _ (List.mem_of_getLast? ending)
      have outside := last c (by rw [longer, List.getLast?_append, ending, Option.some_or])
      exact absurd (blank c inside) (by simp [outside])
  · exact ⟨between, shorter, cut⟩

end QueryNav.Text

namespace QueryNav.Header

open Text

theorem Run.append_blanks_iff {within : Char → Bool} (solid : ∀ c, within c = true → isBlank c = false)
    {run rest blanks : Text} (blank : AllBlank blanks) : Run within run (rest ++ blanks) ↔ Run within run rest := by
  have stops : (∀ c, (rest ++ blanks).head? = some c → within c = false) ↔
      ∀ c, rest.head? = some c → within c = false := by
    cases rest with
    | nil =>
      simp only [List.nil_append, List.head?_nil, reduceCtorEq, false_imp_iff, implies_true, iff_true]
      intro c first
      rw [Bool.eq_false_iff]
      intro taken
      exact absurd (blank c (List.mem_of_head? first)) (by simp [solid c taken])
    | cons c rest => simp
  constructor
  · intro found
    exact ⟨found.nonempty, found.inside, stops.mp found.maximal⟩
  · intro found
    exact ⟨found.nonempty, found.inside, stops.mpr found.maximal⟩

private theorem isBlank_of_isNameChar {c : Char} (named : isNameChar c = true) : isBlank c = false :=
  isBlank_eq_false (isPathChar_of_isNameChar named)

private theorem Run.last {within : Char → Bool} (solid : ∀ c, within c = true → isBlank c = false)
    {run rest : Text} (found : Run within run rest) (front : Text) (c : Char)
    (ending : (front ++ run).getLast? = some c) : isBlank c = false := by
  rw [List.getLast?_append, List.getLast?_eq_some_getLast found.nonempty, Option.some_or] at ending
  exact solid c (found.inside c (Option.some.inj ending ▸ List.getLast_mem found.nonempty))

theorem startsAlias_append_blanks_iff {text blanks name : Text} (blank : AllBlank blanks) :
    StartsAlias (text ++ blanks) name ↔ StartsAlias text name := by
  constructor
  · intro starts
    obtain ⟨gap, between, rest, whole, isGap, isBetween, run⟩ := starts
    have cut : text ++ blanks = (gap ++ (asWord ++ between)) ++ name ++ rest := by simp [whole]
    obtain ⟨later, rfl, rfl⟩ := exists_append_of_blanks blank (run.last (fun _ => isBlank_of_isNameChar) _) cut
    exact ⟨gap, between, later, by simp, isGap, isBetween,
      (Run.append_blanks_iff (fun _ => isBlank_of_isNameChar) blank).mp run⟩
  · intro starts
    obtain ⟨gap, between, rest, rfl, isGap, isBetween, run⟩ := starts
    exact ⟨gap, between, rest ++ blanks, by simp, isGap, isBetween,
      (Run.append_blanks_iff (fun _ => isBlank_of_isNameChar) blank).mpr run⟩

theorem aliasAt?_append_blanks {blanks : Text} (blank : AllBlank blanks) (text : Text) :
    aliasAt? (text ++ blanks) = aliasAt? text := by
  apply Option.ext
  intro name
  rw [aliasAt?_eq_some_iff, aliasAt?_eq_some_iff, startsAlias_append_blanks_iff blank]

theorem clauseAt?_append_blanks {blanks : Text} (blank : AllBlank blanks) (offset : Nat) (text : Text) :
    clauseAt? offset (text ++ blanks) = clauseAt? offset text := by
  have solid : ∀ c, isPathChar c = true → isBlank c = false := fun _ => isBlank_eq_false
  apply Option.ext
  intro clause
  rw [clauseAt?_eq_some_iff, clauseAt?_eq_some_iff]
  constructor
  · intro stands
    obtain ⟨gap, rest, whole, isGap, run, start, naming⟩ := stands
    have cut : text ++ blanks = (importWord ++ gap) ++ clause.path ++ rest := by simp [whole]
    obtain ⟨later, rfl, rfl⟩ := exists_append_of_blanks blank (run.last solid _) cut
    exact ⟨gap, later, by simp, isGap, (Run.append_blanks_iff solid blank).mp run, start,
      naming.trans (aliasAt?_append_blanks blank later)⟩
  · intro stands
    obtain ⟨gap, rest, rfl, isGap, run, start, naming⟩ := stands
    exact ⟨gap, rest ++ blanks, by simp, isGap, (Run.append_blanks_iff solid blank).mpr run, start,
      naming.trans (aliasAt?_append_blanks blank rest).symm⟩

theorem clauseFrom?_blanks_append {blanks : Text} (blank : AllBlank blanks) (offset : Nat) (text : Text) :
    clauseFrom? offset (blanks ++ text) = clauseFrom? (offset + width8 blanks) text := by
  induction blanks generalizing offset with
  | nil => rfl
  | cons c blanks ih =>
    have other : 'i' ≠ c := by
      rintro rfl
      exact absurd (blank 'i' (by simp)) (by decide)
    have missing : clauseAt? offset (c :: (blanks ++ text)) = none := by
      simp [clauseAt?, importWord, after?, other]
    have rest := ih (fun d member => blank d (List.mem_cons_of_mem _ member)) (offset + c.utf8Size)
    rw [List.cons_append, clauseFrom?, missing]
    exact rest.trans (by rw [width8, width8, width, Nat.add_assoc])

theorem clauseFrom?_append_blanks {blanks : Text} (blank : AllBlank blanks) (offset : Nat) (text : Text) :
    clauseFrom? offset (text ++ blanks) = clauseFrom? offset text := by
  induction text generalizing offset with
  | nil => simpa [clauseFrom?] using clauseFrom?_blanks_append blank offset []
  | cons c text ih =>
    have here := clauseAt?_append_blanks blank offset (c :: text)
    rw [List.cons_append] at here ⊢
    rw [clauseFrom?, here, ih, clauseFrom?]

/-- The same clause, `amount` bytes further to the right. -/
def Clause.shift (amount : Nat) (clause : Clause) : Clause := { clause with start := clause.start + amount }

theorem Clause.stop_shift (amount : Nat) (clause : Clause) : (clause.shift amount).stop = clause.stop + amount := by
  simp only [stop, shift]
  omega

private theorem clauseAt?_shift (offset amount : Nat) (text : Text) :
    clauseAt? (offset + amount) text = (clauseAt? offset text).map (Clause.shift amount) := by
  simp only [clauseAt?, Option.bind_eq_bind]
  cases after? importWord text with
  | none => rfl
  | some rest =>
    rw [Option.bind_some, Option.bind_some]
    cases afterBlanks? rest with
    | none => rfl
    | some body =>
      rw [Option.bind_some, Option.bind_some]
      split
      · rfl
      · simp only [Option.map_some, Clause.shift, Nat.add_right_comm _ amount]

theorem clauseFrom?_shift (offset amount : Nat) (text : Text) :
    clauseFrom? (offset + amount) text = (clauseFrom? offset text).map (Clause.shift amount) := by
  induction text generalizing offset with
  | nil => rfl
  | cons c text ih =>
    rw [clauseFrom?, clauseAt?_shift, clauseFrom?]
    cases clauseAt? offset (c :: text) with
    | some clause => rfl
    | none =>
      rw [Nat.add_right_comm]
      exact ih _

/-- A line has the clause of its trimmed form, moved by the blanks in front of it. -/
theorem clause?_eq_shift_trim (line : Text) :
    clause? line = (clause? (trim line)).map (Clause.shift (width8 (line.takeWhile isBlank))) := by
  obtain ⟨back, whole, blank⟩ := exists_trim_append line
  have front : AllBlank (line.takeWhile isBlank) := fun _ member => List.all_eq_true.mp List.all_takeWhile _ member
  calc clause? line
    _ = clauseFrom? 0 (line.takeWhile isBlank ++ (trim line ++ back)) := by rw [clause?, ← whole]
    _ = clauseFrom? (0 + width8 (line.takeWhile isBlank)) (trim line ++ back) := clauseFrom?_blanks_append front _ _
    _ = clauseFrom? (0 + width8 (line.takeWhile isBlank)) (trim line) := clauseFrom?_append_blanks blank _ _
    _ = (clause? (trim line)).map (Clause.shift (width8 (line.takeWhile isBlank))) := clauseFrom?_shift _ _ _

end QueryNav.Header
