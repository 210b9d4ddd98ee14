import QueryNav.Proofs.JsonScalars

/-! The texts of JSON values. A grammar says which texts spell a value: a scalar, or an array or object whose parts
stand between blanks. The reader takes every text that spells a value off the front of its input, if nothing follows
that would make a number longer. A text therefore spells one value at most. -/

namespace QueryNav.Json

open Text

def AllSpace (text : Text) : Prop := ∀ c ∈ text, c = ' ' ∨ c = '\n' ∨ c = '\r' ∨ c = '\t'

/-- A value between blanks. -/
structure Slot where
  before : Text
  body : Text
  behind : Text
  value : Json
  spaceBefore : AllSpace before
  spaceBehind : AllSpace behind

def Slot.text (slot : Slot) : Text := slot.before ++ (slot.body ++ slot.behind)

/-- A quoted name between blanks, and the value behind its colon. -/
structure Field where
  before : Text
  spelling : Text
  behind : Text
  name : Text
  slot : Slot
  spaceBefore : AllSpace before
  spaceBehind : AllSpace behind
  quoted : Quoted spelling name

def Field.text (field : Field) : Text :=
  field.before ++ '"' :: (field.spelling ++ '"' :: (field.behind ++ ':' :: field.slot.text))

def Field.value (field : Field) : Text × Json := (field.name, field.slot.value)

/-- The parts of a container after the first, each behind a comma. -/
def behindCommas {α : Type} (text : α → Text) (others : List α) : Text := others.flatMap fun other => ',' :: text other

inductive Spells : (text : Text) → Json → Prop where
  | null : Spells ['n', 'u', 'l', 'l'] .null
  | yes : Spells ['t', 'r', 'u', 'e'] (.bool true)
  | no : Spells ['f', 'a', 'l', 's', 'e'] (.bool false)
  | natural {digits : Text} (natural : Natural digits) : Spells digits (.int (Nat.ofDigitChars 10 digits 0))
  | negative {digits : Text} (natural : Natural digits) (nonzero : digits ≠ ['0']) :
      Spells ('-' :: digits) (.int (-(Nat.ofDigitChars 10 digits 0 : Int)))
  | real {sign whole fraction exponent : Text} (signed : sign = [] ∨ sign = ['-']) (natural : Natural whole)
      (isFraction : Fraction fraction) (isExponent : Exponent exponent)
      (special : fraction ++ exponent ≠ [] ∨ sign = ['-'] ∧ whole ++ (fraction ++ exponent) = ['0']) :
      Spells (sign ++ (whole ++ (fraction ++ exponent))) (.real (sign ++ (whole ++ (fraction ++ exponent))))
  | str {spelling text : Text} (quoted : Quoted spelling text) : Spells ('"' :: (spelling ++ ['"'])) (.str text)
  | noItems {gap : Text} (space : AllSpace gap) : Spells ('[' :: (gap ++ [']'])) (.arr [])
  | items (first : Slot) (others : List Slot) (each : ∀ slot ∈ first :: others, Spells slot.body slot.value) :
      Spells ('[' :: (first.text ++ (behindCommas Slot.text others ++ [']'])))
        (.arr (first.value :: others.map Slot.value))
  | noFields {gap : Text} (space : AllSpace gap) : Spells ('\x7b' :: (gap ++ ['\x7d'])) (.obj [])
  | fields (first : Field) (others : List Field)
      (each : ∀ field ∈ first :: others, Spells field.slot.body field.slot.value) :
      Spells ('\x7b' :: (first.text ++ (behindCommas Field.text others ++ ['\x7d'])))
        (.obj (first.value :: others.map Field.value))

/-- The text spells the value, with blanks around it. -/
def Document (text : Text) (json : Json) : Prop :=
  ∃ slot : Slot, slot.text = text ∧ slot.value = json ∧ Spells slot.body slot.value

/-- Nothing that would make a number longer comes first. -/
def Stops (rest : Text) : Prop := ∀ c, rest.head? = some c → isNumberChar c = false

/-- The reader takes the text for the value, whatever stops behind it. -/
def Reads (text : Text) (json : Json) : Prop :=
  ∀ fuel rest, text.length ≤ fuel → Stops rest → value? fuel (text ++ rest) = some (json, rest)

theorem isSpace_iff {c : Char} : isSpace c = true ↔ c = ' ' ∨ c = '\n' ∨ c = '\r' ∨ c = '\t' := by
  simp [isSpace, or_assoc]

theorem skipSpace_append {gap : Text} (space : AllSpace gap) (text : Text) :
    skipSpace (gap ++ text) = skipSpace text :=
  List.dropWhile_append_of_pos fun c member => isSpace_iff.mpr (space c member)

theorem skipSpace_cons {c : Char} (solid : isSpace c = false) (text : Text) : skipSpace (c :: text) = c :: text := by
  simp [skipSpace, solid]

theorem stops_cons {c : Char} (other : isNumberChar c = false) (text : Text) : Stops (c :: text) := by
  intro first same
  obtain rfl : c = first := by simpa using same
  exact other

theorem AllSpace.stops {gap : Text} (space : AllSpace gap) {rest : Text} (stops : Stops rest) : Stops (gap ++ rest) := by
  cases gap with
  | nil => exact stops
  | cons c gap =>
    apply stops_cons
    rcases space c (by simp) with rfl | rfl | rfl | rfl <;> decide

section Blanks

variable {gap : Text} (space : AllSpace gap) (fuel : Nat) (text : Text)

include space

theorem value?_append : value? fuel (gap ++ text) = value? fuel text := by
  cases fuel with
  | zero => simp [value?]
  | succ fuel => rw [value?, value?, skipSpace_append space]

theorem moreItems?_append : moreItems? fuel (gap ++ text) = moreItems? fuel text := by
  cases fuel with
  | zero => simp [moreItems?]
  | succ fuel => rw [moreItems?, moreItems?, skipSpace_append space]

theorem fieldOf?_append : fieldOf? fuel (gap ++ text) = fieldOf? fuel text := by
  cases fuel with
  | zero => simp [fieldOf?]
  | succ fuel => rw [fieldOf?, fieldOf?, skipSpace_append space]

theorem moreFields?_append : moreFields? fuel (gap ++ text) = moreFields? fuel text := by
  cases fuel with
  | zero => simp [moreFields?]
  | succ fuel => rw [moreFields?, moreFields?, skipSpace_append space]

end Blanks

theorem exists_gap (text : Text) : ∃ gap, AllSpace gap ∧ text = gap ++ skipSpace text :=
  ⟨text.takeWhile isSpace, fun _ member => isSpace_iff.mp (List.all_eq_true.mp List.all_takeWhile _ member),
    List.takeWhile_append_dropWhile.symm⟩

theorem value?_skipSpace (fuel : Nat) (text : Text) : value? fuel (skipSpace text) = value? fuel text := by
  obtain ⟨gap, space, whole⟩ := exists_gap text
  conv => rhs; rw [whole, value?_append space]

theorem fieldOf?_skipSpace (fuel : Nat) (text : Text) : fieldOf? fuel (skipSpace text) = fieldOf? fuel text := by
  obtain ⟨gap, space, whole⟩ := exists_gap text
  conv => rhs; rw [whole, fieldOf?_append space]

theorem value?_number {c : Char} (first : c.isDigit = true ∨ c = '-') (fuel : Nat) (text : Text) :
    value? (fuel + 1) (c :: text) =
      (number? ((c :: text).takeWhile isNumberChar)).map fun number => (number, (c :: text).dropWhile isNumberChar) := by
  have begins : ∀ other, other.isDigit = false → other ≠ '-' → c ≠ other := by
    rintro _ digit minus rfl
    rcases first with isDigit | rfl
    · rw [digit] at isDigit
      cases isDigit
    · exact minus rfl
  have solid : isSpace c = false := by
    simp [isSpace, begins]
  rw [value?, skipSpace_cons solid]
  split
  case h_7 => cases number? ((c :: text).takeWhile isNumberChar) <;> rfl
  all_goals
    next same => exact absurd (List.cons.inj same).1 (begins _ (by decide) (by decide))

theorem value?_string (fuel : Nat) (text : Text) :
    value? (fuel + 1) ('"' :: text) = (readString? text).map fun found => (.str found.1, found.2) := by
  rw [value?, skipSpace_cons (by decide)]
  simp only
  cases readString? text <;> rfl

theorem value?_items {text : Text} (inhabited : (skipSpace text).head? ≠ some ']') (fuel : Nat) :
    value? (fuel + 1) ('[' :: text) = (do
      let (item, rest) ← value? fuel text
      let (items, rest) ← moreItems? fuel rest
      some (.arr (item :: items), rest)) := by
  rw [value?, skipSpace_cons (by decide)]
  simp only
  split
  next found => simp [found] at inhabited
  next => rw [value?_skipSpace]

theorem value?_fields {text : Text} (inhabited : (skipSpace text).head? ≠ some '\x7d') (fuel : Nat) :
    value? (fuel + 1) ('\x7b' :: text) = (do
      let (field, rest) ← fieldOf? fuel text
      let (fields, rest) ← moreFields? fuel rest
      some (.obj (field :: fields), rest)) := by
  rw [value?, skipSpace_cons (by decide)]
  simp only
  split
  next found => simp [found] at inhabited
  next => rw [fieldOf?_skipSpace]

theorem Spells.exists_cons {text : Text} {json : Json} (spells : Spells text json) :
    ∃ c rest, text = c :: rest ∧ isSpace c = false ∧ c ≠ ']' := by
  have begins : ∀ {whole : Text}, Natural whole → ∃ c rest, whole = c :: rest ∧ isSpace c = false ∧ c ≠ ']' := by
    intro whole natural
    obtain ⟨c, rest, rfl, _⟩ := natural.exists_cons
    have other : ∀ {d : Char}, d.isDigit = false → c ≠ d := natural.1.ne (by simp)
    exact ⟨c, rest, rfl, by simp [isSpace, other], other (by decide)⟩
  cases spells with
  | natural natural => exact begins natural
  | @real sign whole fraction exponent signed natural _ _ _ =>
    rcases signed with rfl | rfl
    · obtain ⟨c, rest, rfl, solid⟩ := begins natural
      exact ⟨c, _, rfl, solid⟩
    · exact ⟨'-', _, rfl, by decide, by decide⟩
  | _ => exact ⟨_, _, rfl, by decide, by decide⟩

theorem reads_cons {c : Char} {text : Text} {json : Json}
    (step : ∀ fuel rest, text.length ≤ fuel → Stops rest → value? (fuel + 1) (c :: (text ++ rest)) = some (json, rest)) :
    Reads (c :: text) json := by
  intro fuel rest room stops
  cases fuel with
  | zero => cases room
  | succ fuel => exact step fuel rest (Nat.le_of_succ_le_succ room) stops

theorem reads_number {literal : Text} {json : Json} (first : ∃ c rest, literal = c :: rest ∧ (c.isDigit = true ∨ c = '-'))
    (inside : ∀ c ∈ literal, isNumberChar c = true) (number : number? literal = some json) : Reads literal json := by
  obtain ⟨c, others, rfl, begins⟩ := first
  apply reads_cons
  intro fuel rest _ stops
  obtain ⟨taken, left⟩ := takeWhile_append_of_stop inside stops
  rw [value?_number begins, ← List.cons_append, taken, left, number, Option.map_some]

theorem Slot.value?_text {slot : Slot} (reads : Reads slot.body slot.value) {fuel : Nat}
    (room : slot.text.length ≤ fuel) {rest : Text} (stops : Stops rest) :
    value? fuel (slot.text ++ rest) = some (slot.value, slot.behind ++ rest) := by
  have inside : slot.body.length ≤ fuel := by
    simp only [Slot.text, List.length_append] at room
    omega
  rw [Slot.text, List.append_assoc, List.append_assoc, value?_append slot.spaceBefore]
  exact reads fuel _ inside (slot.spaceBehind.stops stops)

theorem behindCommas_cons {α : Type} (text : α → Text) (other : α) (others : List α) (rest : Text) :
    behindCommas text (other :: others) ++ rest = ',' :: (text other ++ (behindCommas text others ++ rest)) := by
  simp [behindCommas]

theorem length_behindCommas_cons {α : Type} (text : α → Text) (other : α) (others : List α) :
    (behindCommas text (other :: others)).length = 1 + (text other).length + (behindCommas text others).length := by
  simp [behindCommas]
  omega

theorem stops_behindCommas {α : Type} (text : α → Text) (others : List α) {close : Char}
    (closes : isNumberChar close = false) (rest : Text) : Stops (behindCommas text others ++ close :: rest) := by
  cases others with
  | nil => exact stops_cons closes rest
  | cons other others => exact stops_cons (by decide) _

theorem moreItems?_of_slots {others : List Slot} (each : ∀ slot ∈ others, Reads slot.body slot.value) {fuel : Nat}
    (room : (behindCommas Slot.text others).length < fuel) (rest : Text) :
    moreItems? fuel (behindCommas Slot.text others ++ ']' :: rest) = some (others.map Slot.value, rest) := by
  induction others generalizing fuel with
  | nil =>
    obtain ⟨fuel, rfl⟩ := Nat.exists_eq_add_one.mpr (Nat.zero_lt_of_lt room)
    rw [behindCommas, List.flatMap_nil, List.nil_append, moreItems?, skipSpace_cons (by decide)]
    rfl
  | cons slot others ih =>
    obtain ⟨fuel, rfl⟩ := Nat.exists_eq_add_one.mpr (Nat.zero_lt_of_lt room)
    obtain ⟨reads, later⟩ := List.forall_mem_cons.mp each
    rw [length_behindCommas_cons] at room
    have stops := stops_behindCommas Slot.text others (show isNumberChar ']' = false by decide) rest
    have item := slot.value?_text reads (show slot.text.length ≤ fuel by omega) stops
    have items := ih later (show _ < fuel by omega)
    rw [behindCommas_cons, moreItems?, skipSpace_cons (by decide)]
    simp only [item, moreItems?_append slot.spaceBehind, items, Option.bind_eq_bind, Option.bind_some, List.map_cons]

theorem Field.fieldOf?_text {field : Field} (reads : Reads field.slot.body field.slot.value) {fuel : Nat}
    (room : field.text.length ≤ fuel) {rest : Text} (stops : Stops rest) :
    fieldOf? fuel (field.text ++ rest) = some (field.value, field.slot.behind ++ rest) := by
  simp only [Field.text, List.length_append, List.length_cons] at room
  obtain ⟨fuel, rfl⟩ : ∃ less, fuel = less + 1 := Nat.exists_eq_add_one.mpr (by omega)
  have name := readString?_of_quoted field.quoted (field.behind ++ ':' :: (field.slot.text ++ rest))
  have value := field.slot.value?_text reads (show field.slot.text.length ≤ fuel by omega) stops
  simp only [Field.text, List.append_assoc, List.cons_append]
  rw [fieldOf?_append field.spaceBefore, fieldOf?, skipSpace_cons (by decide)]
  simp only [name, skipSpace_append field.spaceBehind, Option.bind_eq_bind, Option.bind_some]
  rw [skipSpace_cons (by decide)]
  simp only [value, Option.bind_some]
  rfl

theorem moreFields?_of_fields {others : List Field}
    (each : ∀ field ∈ others, Reads field.slot.body field.slot.value) {fuel : Nat}
    (room : (behindCommas Field.text others).length < fuel) (rest : Text) :
    moreFields? fuel (behindCommas Field.text others ++ '\x7d' :: rest) = some (others.map Field.value, rest) := by
  induction others generalizing fuel with
  | nil =>
    obtain ⟨fuel, rfl⟩ := Nat.exists_eq_add_one.mpr (Nat.zero_lt_of_lt room)
    rw [behindCommas, List.flatMap_nil, List.nil_append, moreFields?, skipSpace_cons (by decide)]
    rfl
  | cons field others ih =>
    obtain ⟨fuel, rfl⟩ := Nat.exists_eq_add_one.mpr (Nat.zero_lt_of_lt room)
    obtain ⟨reads, later⟩ := List.forall_mem_cons.mp each
    rw [length_behindCommas_cons] at room
    have stops := stops_behindCommas Field.text others (show isNumberChar '\x7d' = false by decide) rest
    have first := field.fieldOf?_text reads (show field.text.length ≤ fuel by omega) stops
    have fields := ih later (show _ < fuel by omega)
    rw [behindCommas_cons, moreFields?, skipSpace_cons (by decide)]
    simp only [first, moreFields?_append field.slot.spaceBehind, fields, Option.bind_eq_bind, Option.bind_some,
      List.map_cons]

theorem reads_real {sign whole fraction exponent : Text} (signed : sign = [] ∨ sign = ['-']) (natural : Natural whole)
    (isFraction : Fraction fraction) (isExponent : Exponent exponent)
    (special : fraction ++ exponent ≠ [] ∨ sign = ['-'] ∧ whole ++ (fraction ++ exponent) = ['0']) :
    Reads (sign ++ (whole ++ (fraction ++ exponent))) (.real (sign ++ (whole ++ (fraction ++ exponent)))) := by
  apply reads_number
  · rcases signed with rfl | rfl
    · obtain ⟨c, rest, rfl, digit⟩ := natural.exists_cons
      exact ⟨c, _, rfl, .inl digit⟩
    · exact ⟨'-', _, rfl, .inr rfl⟩
  · exact fun _ => isNumberChar_of_parts signed natural isFraction isExponent
  · exact number?_of_real signed natural isFraction isExponent special

theorem reads_items {first : Slot} {others : List Slot}
    (starts : ∃ c rest, first.body = c :: rest ∧ isSpace c = false ∧ c ≠ ']')
    (each : ∀ slot ∈ first :: others, Reads slot.body slot.value) :
    Reads ('[' :: (first.text ++ (behindCommas Slot.text others ++ [']'])))
      (.arr (first.value :: others.map Slot.value)) := by
  apply reads_cons
  intro fuel rest room _
  simp only [List.length_append, List.length_singleton] at room
  simp only [List.append_assoc, List.singleton_append]
  have stops := stops_behindCommas Slot.text others (show isNumberChar ']' = false by decide) rest
  obtain ⟨reads, later⟩ := List.forall_mem_cons.mp each
  have item := first.value?_text reads (show first.text.length ≤ fuel by omega) stops
  have items := moreItems?_of_slots later (show _ < fuel by omega) rest
  have inhabited : (skipSpace (first.text ++ (behindCommas Slot.text others ++ ']' :: rest))).head? ≠ some ']' := by
    obtain ⟨c, behind, body, solid, other⟩ := starts
    rw [Slot.text, List.append_assoc, skipSpace_append first.spaceBefore, body, List.cons_append, List.cons_append,
      skipSpace_cons solid]
    simpa using other
  rw [value?_items inhabited]
  simp only [item, moreItems?_append first.spaceBehind, items, Option.bind_eq_bind, Option.bind_some]

theorem reads_fields {first : Field} {others : List Field}
    (each : ∀ field ∈ first :: others, Reads field.slot.body field.slot.value) :
    Reads ('\x7b' :: (first.text ++ (behindCommas Field.text others ++ ['\x7d'])))
      (.obj (first.value :: others.map Field.value)) := by
  apply reads_cons
  intro fuel rest room _
  simp only [List.length_append, List.length_singleton] at room
  simp only [List.append_assoc, List.singleton_append]
  have stops := stops_behindCommas Field.text others (show isNumberChar '\x7d' = false by decide) rest
  obtain ⟨reads, later⟩ := List.forall_mem_cons.mp each
  have field := first.fieldOf?_text reads (show first.text.length ≤ fuel by omega) stops
  have fields := moreFields?_of_fields later (show _ < fuel by omega) rest
  have inhabited :
      (skipSpace (first.text ++ (behindCommas Field.text others ++ '\x7d' :: rest))).head? ≠ some '\x7d' := by
    rw [Field.text, List.append_assoc, skipSpace_append first.spaceBefore, List.cons_append, skipSpace_cons (by decide)]
    simp
  rw [value?_fields inhabited]
  simp only [field, moreFields?_append first.slot.spaceBehind, fields, Option.bind_eq_bind, Option.bind_some]

/-- The reader takes every text of the grammar. -/
theorem Spells.reads {text : Text} {json : Json} (spells : Spells text json) : Reads text json := by
  induction spells with
  | null | yes | no =>
    apply reads_cons
    intro fuel rest _ _
    rw [value?, skipSpace_cons (by decide)]
    rfl
  | natural natural =>
    obtain ⟨c, rest, same, digit⟩ := natural.exists_cons
    exact reads_number ⟨c, rest, same, .inl digit⟩ (fun _ => natural.1.isNumberChar) (number?_of_natural natural)
  | negative natural nonzero =>
    refine reads_number ⟨'-', _, rfl, .inr rfl⟩ ?_ (number?_of_negative natural nonzero)
    intro c member
    rcases List.mem_cons.mp member with rfl | digit
    · decide
    · exact natural.1.isNumberChar digit
  | real signed natural isFraction isExponent special => exact reads_real signed natural isFraction isExponent special
  | str quoted =>
    apply reads_cons
    intro fuel rest _ _
    rw [List.append_assoc, List.singleton_append, value?_string, readString?_of_quoted quoted, Option.map_some]
  | noItems space =>
    apply reads_cons
    intro fuel rest _ _
    rw [List.append_assoc, List.singleton_append, value?, skipSpace_cons (by decide)]
    simp only [skipSpace_append space, skipSpace_cons (show isSpace ']' = false by decide)]
  | items first others each ih => exact reads_items (each first (by simp)).exists_cons ih
  | noFields space =>
    apply reads_cons
    intro fuel rest _ _
    rw [List.append_assoc, List.singleton_append, value?, skipSpace_cons (by decide)]
    simp only [skipSpace_append space, skipSpace_cons (show isSpace '\x7d' = false by decide)]
  | fields first others each ih => exact reads_fields ih

theorem Document.read? {text : Text} {json : Json} (document : Document text json) : read? text = some json := by
  obtain ⟨slot, rfl, rfl, spells⟩ := document
  have value := slot.value?_text spells.reads (Nat.le_succ slot.text.length) (show Stops [] by simp [Stops])
  have nothing : skipSpace slot.behind = [] := by simpa [skipSpace] using skipSpace_append slot.spaceBehind []
  rw [List.append_nil, List.append_nil] at value
  simp [Json.read?, value, nothing]

end QueryNav.Json
