import QueryNav.Text.Basic

/-! JSON values, as the editor's protocol, the client's settings and the printed report use them. The
fields of an object keep the order in which they are written. Integers are values of their own, since
no rule here ever reads any other number: those are kept as they were spelled. -/

namespace QueryNav

inductive Json where
  | null
  | bool (value : Bool)
  | int (value : Int)
  /-- A number with a fraction, an exponent or a negative zero, as it was spelled. -/
  | real (literal : Text)
  | str (value : Text)
  | arr (items : List Json)
  | obj (fields : List (Text × Json))
  deriving Repr, Inhabited

namespace Json

/-- A string value written out in the program. -/
def ofString (text : String) : Json := .str text.toList

def ofNat (number : Nat) : Json := .int number

/-- A string, or null when there is none. -/
def ofText? : Option Text → Json
  | some text => .str text
  | none => .null

/-- An object with the given fields, in this order. -/
def record (fields : List (String × Json)) : Json :=
  .obj (fields.map fun field => (field.1.toList, field.2))

/-- The value of the field `name`; where several have this name, the last one counts. -/
def member? (fields : List (Text × Json)) (name : String) : Option Json := fields.reverse.lookup name.toList

/-- The value of the field `name` of an object. -/
def field? (name : String) : Json → Option Json
  | .obj fields => member? fields name
  | _ => none

/-- The members of a group by the names it knows, in the order of these names. An object may have any
fields; an array goes by positions, and it may leave out values at its end, but not the first `required`
ones. -/
def members? (required : Nat) (names : List String) : Json → Option (List (Option Json))
  | .obj fields => some (names.map (member? fields))
  | .arr items =>
    if required ≤ items.length ∧ items.length ≤ names.length then some (names.mapIdx fun i _ => items[i]?) else none
  | _ => none

/-- A member that may be absent or null. -/
def optional? {α : Type} (read? : Json → Option α) : Option Json → Option (Option α)
  | none => some none
  | some .null => some none
  | some json => (read? json).map some

def text? : Json → Option Text
  | .str text => some text
  | _ => none

/-- The value of an integer that is at least `low` and below `high`. -/
def intWithin? (low high : Int) : Json → Option Int
  | .int value => if low ≤ value ∧ value < high then some value else none
  | _ => none

/-- The value of an integer from zero up to, and not including, `limit`. -/
def natBelow? (limit : Nat) (json : Json) : Option Nat :=
  (json.intWithin? 0 limit).map Int.toNat

def items? : Json → Option (List Json)
  | .arr items => some items
  | _ => none

theorem lookup_record (name : String) (fields : List (String × Json)) :
    (fields.map fun field => (field.1.toList, field.2)).lookup name.toList = fields.lookup name := by
  induction fields with
  | nil => rfl
  | cons field fields ih =>
    obtain ⟨key, value⟩ := field
    rw [List.map_cons, List.lookup_cons, List.lookup_cons, ih]
    by_cases same : name = key
    · simp [same]
    · have other : name.toList ≠ key.toList := fun equal => same (String.toList_injective equal)
      simp [beq_eq_false_iff_ne.mpr same, beq_eq_false_iff_ne.mpr other]

@[simp]
theorem field?_record (name : String) (fields : List (String × Json)) :
    (record fields).field? name = fields.reverse.lookup name := by
  rw [record, field?, member?, ← List.map_reverse, lookup_record]

@[simp]
theorem members?_record (required : Nat) (names : List String) (fields : List (String × Json)) :
    (record fields).members? required names = some (names.map fun name => fields.reverse.lookup name) := by
  rw [record, members?, Option.some.injEq]
  exact List.map_congr_left fun name _ => field?_record name fields

end Json

end QueryNav
