import Mathlib.Order.Monotone.Basic
import QueryNav.Proofs.Fronts
import QueryNav.Proofs.Grammar

/-! From byte offsets to columns. A byte offset need not be between two characters. From one that is not, the search
for a boundary goes back byte by byte, and it always finds one, since the first byte of a line starts a character.
The bytes up to there spell the longest front of the line that the offset has room for, so that the column of an
offset is the UTF-16 width of this front: offsets in order have columns in order, and two different boundaries have
different columns. -/

namespace QueryNav.Text

open Header (bytes OnBoundary bytes_cons bytes_append length_bytes fromUTF8?_bytes)

/-- Whether the byte at an offset is the first one of a character. The end of the line counts, too. -/
def isBoundary (line : Text) (index : Nat) : Bool :=
  match (bytes line)[index]? with
  | some byte => byte.IsUTF8FirstByte
  | none => index = width8 line

/-- The search back from an offset for a boundary. It fails if it would have to go on in front of the first byte. -/
def boundaryFrom? (line : Text) : (index : Nat) → Option Nat
  | 0 => if isBoundary line 0 then some 0 else none
  | index + 1 => if isBoundary line (index + 1) then some (index + 1) else boundaryFrom? line index

/-- The text that the first `count` bytes of a line spell, if there are so many and they spell one. -/
def frontOfBytes? (line : Text) (count : Nat) : Option Text :=
  if count ≤ width8 line then (String.fromUTF8? ⟨((bytes line).take count).toArray⟩).map String.toList else none

/-- The column of a byte offset, found by a search in the bytes of the line. -/
def columnOfByte? (line : Text) (byte : Nat) : Option Nat := do
  let stop ← boundaryFrom? line (min byte (width8 line))
  let front ← frontOfBytes? line stop
  some (width16 front % columnLimit)

theorem isBoundary_of_inside {c : Char} {index : Nat} (inside : index < c.utf8Size) (rest : Text) :
    isBoundary (c :: rest) index = true ↔ index = 0 := by
  have within : index < (String.utf8EncodeChar c).length := by rwa [String.length_utf8EncodeChar]
  rw [isBoundary, bytes_cons, List.getElem?_append_left within, List.getElem?_eq_getElem within, decide_eq_true_iff]
  exact UInt8.isUTF8FirstByte_getElem_utf8EncodeChar

theorem isBoundary_add (c : Char) (rest : Text) (index : Nat) :
    isBoundary (c :: rest) (c.utf8Size + index) = isBoundary rest index := by
  have shifted : (bytes (c :: rest))[c.utf8Size + index]? = (bytes rest)[index]? := by
    rw [bytes_cons, ← String.length_utf8EncodeChar c, List.getElem?_append_right (Nat.le_add_right _ _),
      Nat.add_sub_cancel_left]
  have wider : width8 (c :: rest) = c.utf8Size + width8 rest := rfl
  simp only [isBoundary, shifted, wider, Nat.add_left_cancel_iff]

theorem onBoundary_nil {index : Nat} : OnBoundary [] index ↔ index = 0 := by
  simp [OnBoundary, width8, width]

theorem onBoundary_cons {c : Char} {rest : Text} {index : Nat} :
    OnBoundary (c :: rest) index ↔ index = 0 ∨ ∃ later, index = c.utf8Size + later ∧ OnBoundary rest later := by
  constructor
  · intro boundary
    obtain ⟨front, back, whole, rfl⟩ := boundary
    cases front with
    | nil => exact .inl rfl
    | cons first front =>
      obtain ⟨rfl, rfl⟩ := List.cons.inj whole
      exact .inr ⟨width8 front, rfl, front, back, rfl, rfl⟩
  · intro boundary
    obtain rfl | ⟨later, rfl, front, back, rfl, rfl⟩ := boundary
    · exact ⟨[], c :: rest, rfl, rfl⟩
    · exact ⟨c :: front, back, rfl, rfl⟩

theorem onBoundary_of_inside {c : Char} {index : Nat} (inside : index < c.utf8Size) (rest : Text) :
    OnBoundary (c :: rest) index ↔ index = 0 := by
  rw [onBoundary_cons]
  apply or_iff_left
  intro boundary
  obtain ⟨later, past, _⟩ := boundary
  omega

theorem onBoundary_add {c : Char} {rest : Text} {index : Nat} :
    OnBoundary (c :: rest) (c.utf8Size + index) ↔ OnBoundary rest index := by
  have positive := c.utf8Size_pos
  rw [onBoundary_cons, or_iff_right (by omega)]
  simp only [Nat.add_left_cancel_iff, exists_eq_left']

/-- The bytes alone tell where the characters of a line begin and end. -/
theorem isBoundary_iff {line : Text} {index : Nat} : isBoundary line index = true ↔ OnBoundary line index := by
  induction line generalizing index with
  | nil =>
    rw [onBoundary_nil]
    exact decide_eq_true_iff
  | cons c rest ih =>
    rcases Nat.lt_or_ge index c.utf8Size with inside | behind
    · rw [isBoundary_of_inside inside, onBoundary_of_inside inside]
    · obtain ⟨later, rfl⟩ := Nat.exists_eq_add_of_le behind
      rw [isBoundary_add, onBoundary_add, ih]

theorem width_le_of_starts {front text : Text} (starts : front <+: text) (measure : Char → Nat) :
    width measure front ≤ width measure text := by
  obtain ⟨back, rfl⟩ := starts
  rw [width_append]
  exact Nat.le_add_right _ _

theorem onBoundary_iff {line : Text} {index : Nat} :
    OnBoundary line index ↔ ∃ front, front <+: line ∧ index = width8 front := by
  constructor
  · intro boundary
    obtain ⟨front, back, rfl, place⟩ := boundary
    exact ⟨front, List.prefix_append front back, place⟩
  · intro boundary
    obtain ⟨front, ⟨back, rfl⟩, place⟩ := boundary
    exact ⟨front, back, rfl, place⟩

theorem LongestFront.isGreatest {line front : Text} {byte : Nat} (found : LongestFront Char.utf8Size byte line front) :
    IsGreatest {index | index ≤ byte ∧ OnBoundary line index} (width8 front) := by
  refine ⟨⟨found.within, onBoundary_iff.mpr ⟨front, found.starts, rfl⟩⟩, ?_⟩
  intro index earlier
  obtain ⟨narrow, boundary⟩ := earlier
  obtain ⟨other, starts, rfl⟩ := onBoundary_iff.mp boundary
  exact width_le_of_starts (found.longest other starts narrow) Char.utf8Size

theorem boundaryFrom?_of_isGreatest {line : Text} {index stop : Nat}
    (greatest : IsGreatest {place | place ≤ index ∧ OnBoundary line place} stop) :
    boundaryFrom? line index = some stop := by
  obtain ⟨⟨reached, boundary⟩, last⟩ := greatest
  induction index with
  | zero =>
    obtain rfl := Nat.le_zero.mp reached
    rw [boundaryFrom?, if_pos (isBoundary_iff.mpr boundary)]
  | succ index ih =>
    rw [boundaryFrom?]
    split
    next here =>
      have top := last ⟨Nat.le_refl _, isBoundary_iff.mp here⟩
      rw [Nat.le_antisymm top reached]
    next inside =>
      have other : stop ≠ index + 1 := by
        intro same
        exact inside (isBoundary_iff.mpr (same ▸ boundary))
      apply ih
      · intro place earlier
        exact last ⟨Nat.le_succ_of_le earlier.1, earlier.2⟩
      · omega

theorem frontOfBytes?_width8 {line front : Text} (starts : front <+: line) :
    frontOfBytes? line (width8 front) = some front := by
  have enough : width8 front ≤ width8 line := width_le_of_starts starts Char.utf8Size
  obtain ⟨back, rfl⟩ := starts
  rw [frontOfBytes?, if_pos enough, bytes_append, ← length_bytes, List.take_left, fromUTF8?_bytes, Option.map_some,
    String.toList_ofList]

theorem LongestFront.clamp {measure : Char → Nat} {room : Nat} {text front : Text}
    (found : LongestFront measure room text front) :
    LongestFront measure (min room (width measure text)) text front := by
  refine ⟨found.starts, ?_, ?_⟩
  · exact Nat.le_min.mpr ⟨found.within, width_le_of_starts found.starts measure⟩
  · intro other starts narrow
    exact found.longest other starts (Nat.le_trans narrow (Nat.min_le_left _ _))

theorem boundaryFrom?_clamped {line front : Text} {byte : Nat} (found : LongestFront Char.utf8Size byte line front) :
    boundaryFrom? line (min byte (width8 line)) = some (width8 front) :=
  boundaryFrom?_of_isGreatest found.clamp.isGreatest

theorem columnOfByte?_eq (line : Text) (byte : Nat) : columnOfByte? line byte = some (column16 line byte) := by
  have found := longestFront_fitting Char.utf8Size byte line
  rw [columnOfByte?, boundaryFrom?_clamped found, Option.bind_eq_bind, Option.bind_some,
    frontOfBytes?_width8 found.starts, Option.bind_eq_bind, Option.bind_some]
  rfl

theorem fitting_width {measure : Char → Nat} (positive : ∀ c, 0 < measure c) (front back : Text) :
    fitting measure (width measure front) (front ++ back) = front := by
  induction front with
  | nil =>
    cases back with
    | nil => rfl
    | cons c back => simp [fitting, width, Nat.ne_of_gt (positive c)]
  | cons c front ih => simp [fitting, width, ih]

section Small

variable {line : Text} (small : width16 line < columnLimit)

include small

theorem width16_lt_columnLimit {front : Text} (starts : front <+: line) : width16 front < columnLimit :=
  Nat.lt_of_le_of_lt (width_le_of_starts starts units16) small

theorem column16_eq {byte : Nat} {front : Text} (found : LongestFront Char.utf8Size byte line front) :
    column16 line byte = width16 front := by
  rw [column16, found.eq (longestFront_fitting Char.utf8Size byte line),
    Nat.mod_eq_of_lt (width16_lt_columnLimit small found.starts)]

theorem column16_width8 {front : Text} (starts : front <+: line) : column16 line (width8 front) = width16 front := by
  have narrow := width16_lt_columnLimit small starts
  obtain ⟨back, rfl⟩ := starts
  rw [column16, width8, fitting_width Char.utf8Size_pos, Nat.mod_eq_of_lt narrow]

theorem monotone_column16 : Monotone (column16 line) := by
  intro low high ordered
  have first := longestFront_fitting Char.utf8Size low line
  have last := longestFront_fitting Char.utf8Size high line
  rw [column16_eq small first, column16_eq small last]
  exact width_le_of_starts (first.mono ordered last) units16

theorem strictMonoOn_column16 : StrictMonoOn (column16 line) {index | OnBoundary line index} := by
  intro low first high last ordered
  obtain ⟨front, starts, rfl⟩ := onBoundary_iff.mp first
  obtain ⟨other, begins, rfl⟩ := onBoundary_iff.mp last
  rw [column16_width8 small starts, column16_width8 small begins]
  rcases List.prefix_or_prefix_of_prefix starts begins with shorter | longer
  · obtain ⟨more, rfl⟩ := shorter
    have nonempty : more ≠ [] := by
      intro nothing
      rw [nothing, List.append_nil] at ordered
      exact Nat.lt_irrefl _ ordered
    rw [width16_append]
    exact Nat.lt_add_of_pos_right (width16_pos nonempty)
  · exact absurd ordered (Nat.not_lt_of_le (width_le_of_starts longer Char.utf8Size))

end Small

/-- The search for a boundary always ends, and it does so at the last one that is not past the offset; what is in
front of it is the longest front of the line for which the offset has room. The column is the width of this front,
as long as the line has fewer units than there are columns. Then it grows with the offset, differs from boundary to
boundary, and is the width of the line for all offsets from its end on. -/
theorem byte_column_rounds_down (line : Text) :
    (∀ index, isBoundary line index = true ↔ OnBoundary line index) ∧
      (∀ byte, columnOfByte? line byte = some (column16 line byte) ∧
        ∃ stop front, boundaryFrom? line (min byte (width8 line)) = some stop ∧
          IsGreatest {index | index ≤ byte ∧ OnBoundary line index} stop ∧
          frontOfBytes? line stop = some front ∧ LongestFront Char.utf8Size byte line front) ∧
      (width16 line < columnLimit →
        (∀ byte front, LongestFront Char.utf8Size byte line front → column16 line byte = width16 front) ∧
          Monotone (column16 line) ∧ (∀ byte, width8 line ≤ byte → column16 line byte = width16 line) ∧
          StrictMonoOn (column16 line) {index | OnBoundary line index}) := by
  refine ⟨fun _ => isBoundary_iff, ?_, ?_⟩
  · intro byte
    have found := longestFront_fitting Char.utf8Size byte line
    exact ⟨columnOfByte?_eq line byte, _, _, boundaryFrom?_clamped found, found.isGreatest,
      frontOfBytes?_width8 found.starts, found⟩
  · intro small
    refine ⟨fun _ _ => column16_eq small, monotone_column16 small, ?_, strictMonoOn_column16 small⟩
    intro byte past
    have found := longestFront_fitting Char.utf8Size byte line
    rw [column16_eq small found, found.eq_self_iff.mpr past]

/-- The offset 5 is inside a character of four bytes and two units, between the boundaries 3 and 7, and the offset 99
is past the end. -/
theorem byte_column_rounds_down_inside_character :
    let line : Text := "aé😀b".toList
    width16 line < columnLimit ∧ boundaryFrom? line 5 = some 3 ∧ columnOfByte? line 5 = some 2 ∧
      column16 line 99 = 5 ∧ column16 line 5 ≤ column16 line 6 ∧ column16 line 3 < column16 line 7 := by
  intro line
  have small : width16 line < columnLimit := by decide
  have before : OnBoundary line 3 := ⟨"aé".toList, "😀b".toList, by decide, by decide⟩
  have behind : OnBoundary line 7 := ⟨"aé😀".toList, "b".toList, by decide, by decide⟩
  obtain ⟨_, search, columns⟩ := byte_column_rounds_down line
  obtain ⟨rounds, grows, ends, strict⟩ := columns small
  have rounded : column16 line 5 = 2 := (rounds 5 _ (longestFront_fitting Char.utf8Size 5 line)).trans (by decide)
  exact ⟨small, by decide, rounded ▸ (search 5).1, ends 99 (by decide), grows (by decide),
    strict before behind (by decide)⟩

end QueryNav.Text
