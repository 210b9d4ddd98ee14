import QueryNav.Proofs.Locality

/-! The bounds of an edit. A later place never has a smaller offset, also where the end of one row meets the
start of the next, and no offset is past the end of the text. The ends of a range can therefore be taken in order,
and the two steps of an edit, taking characters out and putting others in, are never asked for characters that are
not there, even though each of them would refuse. -/

namespace QueryNav

/-- The order of places: by their lines, and on the same line by their columns. -/
def Position.NotAfter (earlier later : Position) : Prop :=
  earlier.line < later.line ∨ earlier.line = later.line ∧ earlier.column ≤ later.column

namespace Buffer

open Text

theorem offset_mono (text : Text) {earlier later : Position} (ordered : earlier.NotAfter later) :
    offset text earlier ≤ offset text later := by
  rcases ordered with above | ⟨same, before⟩
  · exact Nat.le_trans (offset_le_lineStart above) (lineStart_le_offset (Nat.le_refl _))
  · unfold offset
    rw [same]
    split
    next row _ => exact Nat.add_le_add_left (charsBefore_mono row before) _
    next => exact Nat.le_refl _

theorem offset_le_length (text : Text) (position : Position) : offset text position ≤ text.length :=
  Nat.le_trans (offset_le_lineStart (Nat.lt_succ_self _)) (lineStart_le_length text _)

/-- The text without the characters from `low` up to `high`, if these are in order and in the text. -/
def remove? (text : Text) (low high : Nat) : Option Text :=
  if low ≤ high ∧ high ≤ text.length then some (text.take low ++ text.drop high) else none

def insert? (text : Text) (index : Nat) (new : Text) : Option Text :=
  if index ≤ text.length then some (text.take index ++ (new ++ text.drop index)) else none

/-- Takes out what is between `low` and `high` and puts `new` there. A step that would change nothing is left out. -/
def replace? (text : Text) (low high : Nat) (new : Text) : Option Text := do
  let rest ← (if low = high then some text else remove? text low high)
  if new = [] then some rest else insert? rest low new

def edit? (text : Text) (change : Change) : Option Text :=
  match change.range? with
  | some (first, last) =>
    if offset text first ≤ offset text last then replace? text (offset text first) (offset text last) change.text
    else replace? text (offset text last) (offset text first) change.text
  | none => some change.text

theorem replace?_eq {text : Text} {low high : Nat} (ordered : low ≤ high) (inside : high ≤ text.length) (new : Text) :
    replace? text low high new = some (splice text low high new) := by
  have removed : (if low = high then some text else remove? text low high) =
      some (text.take low ++ text.drop high) := by
    split
    next same => rw [← same, List.take_append_drop]
    next => exact if_pos ⟨ordered, inside⟩
  have front : (text.take low).length = low := List.length_take_of_le (Nat.le_trans ordered inside)
  unfold replace? splice
  rw [removed, Option.bind_eq_bind, Option.bind_some]
  split
  next nothing => rw [nothing, List.append_nil]
  next =>
    rw [insert?, if_pos (by rw [List.length_append, front]; exact Nat.le_add_right _ _), List.take_left' front,
      List.drop_left' front, List.append_assoc]

/-- The checked steps of a change never fail, and together they are the change. -/
theorem edit?_eq (text : Text) (change : Change) : edit? text change = some (apply text change) := by
  obtain ⟨range?, new⟩ := change
  cases range? with
  | none => rfl
  | some range =>
    obtain ⟨first, last⟩ := range
    simp only [edit?, apply]
    split
    next ordered =>
      rw [replace?_eq ordered (offset_le_length text last), Nat.min_eq_left ordered, Nat.max_eq_right ordered]
    next reversed =>
      have ordered := Nat.le_of_not_le reversed
      rw [replace?_eq ordered (offset_le_length text first), Nat.min_eq_right ordered, Nat.max_eq_left ordered]

theorem foldlM_edit? (text : Text) (changes : List Change) :
    changes.foldlM edit? text = some (applyAll text changes) := by
  induction changes generalizing text with
  | nil => rfl
  | cons change changes ih =>
    rw [List.foldlM_cons, edit?_eq, Option.bind_eq_bind, Option.bind_some, ih]
    rfl

theorem apply_swap (text : Text) (first last : Position) (new : Text) :
    apply text ⟨some (last, first), new⟩ = apply text ⟨some (first, last), new⟩ := by
  simp only [apply, Nat.min_comm (offset text last), Nat.max_comm (offset text last)]

/-- Every change of a range is a splice between the offsets of its two ends, which are in order and in the text.
The order in which they are given does not matter, and ends that are given in order stay so. No batch of changes
fails on the way, wherever the earlier ones have left the text. -/
theorem ranged_change_is_splice (text : Text) (first last : Position) (new : Text) :
    (∀ earlier later : Position, earlier.NotAfter later → offset text earlier ≤ offset text later) ∧
      (∀ position, offset text position ≤ text.length) ∧
      ∃ low high, low = min (offset text first) (offset text last) ∧ high = max (offset text first) (offset text last) ∧
        low ≤ high ∧ high ≤ text.length ∧
        edit? text ⟨some (first, last), new⟩ = some (text.take low ++ new ++ text.drop high) ∧
        edit? text ⟨some (last, first), new⟩ = some (text.take low ++ new ++ text.drop high) ∧
        apply text ⟨some (first, last), new⟩ = text.take low ++ new ++ text.drop high ∧
        (first.NotAfter last → low = offset text first ∧ high = offset text last) ∧
        ∀ changes, changes.foldlM edit? text = some (applyAll text changes) := by
  refine ⟨fun _ _ => offset_mono text, offset_le_length text, _, _, rfl, rfl, ?_, ?_, ?_, ?_, rfl, ?_,
    foldlM_edit? text⟩
  · exact Nat.le_trans (Nat.min_le_left _ _) (Nat.le_max_left _ _)
  · exact Nat.max_le.mpr ⟨offset_le_length text first, offset_le_length text last⟩
  · exact edit?_eq text _
  · rw [edit?_eq, apply_swap]
    rfl
  · intro ordered
    have places := offset_mono text ordered
    exact ⟨Nat.min_eq_left places, Nat.max_eq_right places⟩

/-- One end is inside a character of two units and the other past the end of the same row, so that the break goes
with the characters in front of it. -/
theorem ranged_change_is_splice_from_inside_pair :
    let text : Text := "a😀b\r\nc".toList
    let first : Position := ⟨0, 2⟩
    let last : Position := ⟨0, 9⟩
    first.NotAfter last ∧ offset text first = 1 ∧ offset text last = 5 ∧
      edit? text ⟨some (last, first), ['x']⟩ = some "axc".toList := by
  intro text first last
  have ordered : first.NotAfter last := .inr ⟨rfl, by decide⟩
  obtain ⟨_, _, low, high, _, _, _, _, _, swapped, _, kept, _⟩ := ranged_change_is_splice text first last ['x']
  obtain ⟨rfl, rfl⟩ := kept ordered
  have start : offset text first = 1 := by decide
  have stop : offset text last = 5 := by decide
  rw [start, stop] at swapped
  exact ⟨ordered, start, stop, swapped⟩

end Buffer

end QueryNav
