import QueryNav.Json.Printer
import QueryNav.Proofs.JsonGrammar

/-! Printed values. The printer writes a text of the grammar for every value, in any style whose line breaks are blanks:
a character that may not stand for itself is escaped, a number has no superfluous zeros, and the blanks in front of the
end of a container belong to its last part. What is printed is therefore read as the value that it was printed for. -/

namespace QueryNav.Json

open Text

/-- The style writes nothing but blanks between the parts of a value. -/
structure Style.Blank (style : Style) : Prop where
  lineBreak : ∀ depth, AllSpace (style.lineBreak depth)
  colon : ∃ gap, style.colon = ':' :: gap ∧ AllSpace gap

/-- Numbers that are kept as they were spelled are spelled as numbers. -/
inductive Proper : Json → Prop where
  | null : Proper .null
  | bool (value : Bool) : Proper (.bool value)
  | int (value : Int) : Proper (.int value)
  | real {literal : Text} (spells : Spells literal (.real literal)) : Proper (.real literal)
  | str (text : Text) : Proper (.str text)
  | arr {items : List Json} (each : ∀ item ∈ items, Proper item) : Proper (.arr items)
  | obj {fields : List (Text × Json)} (each : ∀ field ∈ fields, Proper field.2) : Proper (.obj fields)

theorem allSpace_nil : AllSpace [] := by simp [AllSpace]

theorem blank_pretty : Style.pretty.Blank := by
  refine ⟨?_, [' '], rfl, by simp [AllSpace]⟩
  intro depth c member
  rcases List.mem_cons.mp member with rfl | inside
  · exact .inr (.inl rfl)
  · exact .inl (List.eq_of_mem_replicate inside)

private theorem hexValue?_hexLower : ∀ value < 16, hexValue? (hexLower value) = some value := by decide

private theorem mem_letters_of_escapeLetter? {c letter : Char} (found : escapeLetter? c = some letter) :
    (letter, c) ∈ letters := by
  simp only [letters, List.mem_cons, Prod.mk.injEq]
  grind [escapeLetter?]

theorem spelling_escape (c : Char) : Spelling (escape c) c := by
  unfold escape
  split
  next letter found => exact .letter (mem_letters_of_escapeLetter? found)
  next unescaped =>
    split
    next control =>
      refine .code ?_
      have high := hexValue?_hexLower (c.toNat / 16) (by omega)
      have low := hexValue?_hexLower (c.toNat % 16) (by omega)
      have zero : hexValue? '0' = some 0 := by decide
      simp only [hex4?, zero, high, low, Option.bind_eq_bind, Option.bind_some, Option.some.injEq]
      omega
    next visible =>
      refine .plain (by omega) ?_ ?_
      · rintro rfl
        simp [escapeLetter?] at unescaped
      · rintro rfl
        simp [escapeLetter?] at unescaped

theorem quoted_escape (text : Text) : Quoted (text.flatMap escape) text := by
  induction text with
  | nil => exact .nil
  | cons c text ih => exact .cons (spelling_escape c) ih

private theorem head?_toDigits {number : Nat} (positive : 0 < number) :
    (Nat.toDigits 10 number).head? ≠ some '0' := by
  induction number using Nat.strongRecOn with
  | ind number ih =>
    rcases Nat.lt_or_ge number 10 with small | large
    · have nonzero : ∀ digit < 10, 0 < digit → Nat.digitChar digit ≠ '0' := by decide
      simpa [Nat.toDigits_of_lt_base small] using nonzero number small positive
    · obtain ⟨c, rest, front⟩ := List.exists_cons_of_ne_nil (@Nat.toDigits_ne_nil (number / 10) 10)
      have shorter := ih (number / 10) (by omega) (by omega)
      rw [front] at shorter
      rw [Nat.toDigits_of_base_le (by decide) large, front]
      exact shorter

theorem natural_toDigits (number : Nat) : Natural (Nat.toDigits 10 number) := by
  refine ⟨⟨Nat.toDigits_ne_nil, fun c => Nat.isDigit_of_mem_toDigits (by decide) (by decide)⟩, ?_⟩
  rcases Nat.eq_zero_or_pos number with rfl | positive
  · exact .inl rfl
  · exact .inr (head?_toDigits positive)

theorem spells_decimal (value : Int) : Spells (decimal value) (.int value) := by
  have digits : (Nat.ofDigitChars 10 (Nat.toDigits 10 value.natAbs) 0 : Int) = value.natAbs := by
    rw [Nat.ofDigitChars_ten_toDigits]
  unfold decimal
  split
  next negative =>
    have nonzero : Nat.toDigits 10 value.natAbs ≠ ['0'] := by
      intro zero
      exact head?_toDigits (show 0 < value.natAbs by omega) (by rw [zero]; rfl)
    have spells := Spells.negative (natural_toDigits value.natAbs) nonzero
    rwa [digits, show -(value.natAbs : Int) = value by omega] at spells
  next positive =>
    have spells := Spells.natural (natural_toDigits value.natAbs)
    rwa [digits, show (value.natAbs : Int) = value by omega] at spells

section Containers

variable {style : Style} (blank : style.Blank)

include blank

theorem exists_slots {depth : Nat} {item : Json} {items : List Json}
    (each : ∀ other ∈ item :: items, Spells (printAt style depth other) other) {ending : Text} (space : AllSpace ending) :
    ∃ first others, first.text ++ behindCommas Slot.text others =
        style.lineBreak depth ++ (printAt style depth item ++ (printItems style depth items ++ ending)) ∧
      first.value = item ∧ others.map Slot.value = items ∧ ∀ slot ∈ first :: others, Spells slot.body slot.value := by
  -- The blanks in front of the closing bracket are handed down to the last item; the others have none behind them.
  induction items generalizing item with
  | nil =>
    refine ⟨⟨_, _, ending, item, blank.lineBreak depth, space⟩, [], ?_, rfl, rfl, by simpa using each⟩
    simp [Slot.text, behindCommas, printItems]
  | cons next items ih =>
    obtain ⟨spells, later⟩ := List.forall_mem_cons.mp each
    obtain ⟨first, others, text, value, values, spelled⟩ := ih later
    refine ⟨⟨_, _, [], item, blank.lineBreak depth, allSpace_nil⟩, first :: others, ?_, rfl, by simp [value, values],
      List.forall_mem_cons.mpr ⟨spells, spelled⟩⟩
    have joined := behindCommas_cons Slot.text first others []
    rw [List.append_nil, List.append_nil, text] at joined
    simp [Slot.text, joined, printItems]

theorem exists_fields {depth : Nat} {field : Text × Json} {fields : List (Text × Json)}
    (each : ∀ other ∈ field :: fields, Spells (printAt style depth other.2) other.2) {ending : Text}
    (space : AllSpace ending) :
    ∃ first others, first.text ++ behindCommas Field.text others =
        style.lineBreak depth ++ (quote field.1 ++ (style.colon ++ (printAt style depth field.2 ++
          (printFields style depth fields ++ ending)))) ∧
      first.value = field ∧ others.map Field.value = fields ∧
      ∀ field ∈ first :: others, Spells field.slot.body field.slot.value := by
  obtain ⟨gap, colon, isGap⟩ := blank.colon
  induction fields generalizing field with
  | nil =>
    refine ⟨⟨_, _, [], field.1, ⟨gap, _, ending, field.2, isGap, space⟩, blank.lineBreak depth, allSpace_nil,
      quoted_escape field.1⟩, [], ?_, rfl, rfl, by simpa using each⟩
    simp [Field.text, Slot.text, behindCommas, printFields, quote, colon]
  | cons next fields ih =>
    obtain ⟨spells, later⟩ := List.forall_mem_cons.mp each
    obtain ⟨first, others, text, value, values, spelled⟩ := ih later
    refine ⟨⟨_, _, [], field.1, ⟨gap, _, [], field.2, isGap, allSpace_nil⟩, blank.lineBreak depth, allSpace_nil,
      quoted_escape field.1⟩, first :: others, ?_, rfl, by simp [value, values],
      List.forall_mem_cons.mpr ⟨spells, spelled⟩⟩
    have joined := behindCommas_cons Field.text first others []
    rw [List.append_nil, List.append_nil, text] at joined
    simp [Field.text, Slot.text, joined, printFields, quote, colon]

theorem Proper.spells {json : Json} (proper : Proper json) (depth : Nat) : Spells (printAt style depth json) json := by
  induction proper generalizing depth with
  | null => exact .null
  | bool value =>
    cases value with
    | true => exact .yes
    | false => exact .no
  | int value => exact spells_decimal value
  | real spells => exact spells
  | str text => exact .str (quoted_escape text)
  | @arr items _ ih =>
    cases items with
    | nil => exact .noItems allSpace_nil
    | cons item items =>
      obtain ⟨first, others, text, rfl, rfl, spelled⟩ :=
        exists_slots blank (fun other member => ih other member (depth + 1)) (blank.lineBreak depth)
      have spells := Spells.items first others spelled
      rw [← List.append_assoc, text] at spells
      simpa [printAt] using spells
  | @obj fields _ ih =>
    cases fields with
    | nil => exact .noFields allSpace_nil
    | cons field fields =>
      obtain ⟨first, others, text, rfl, rfl, spelled⟩ :=
        exists_fields blank (fun other member => ih other member (depth + 1)) (blank.lineBreak depth)
      have spells := Spells.fields first others spelled
      rw [← List.append_assoc, text] at spells
      simpa [printAt, Field.value] using spells

end Containers

theorem Spells.document {text : Text} {json : Json} (spells : Spells text json) {behind : Text}
    (space : AllSpace behind) : Document (text ++ behind) json :=
  ⟨⟨[], text, behind, json, allSpace_nil, space⟩, rfl, rfl, spells⟩

end QueryNav.Json
