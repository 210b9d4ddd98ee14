import QueryNav.Proofs.Following

/-! Walks through a file tree. Every step of a walk looks at the tree, and the tree can only stop it: where a walk ends
is told by the pieces alone, each of which goes one name down, one name up or nowhere. The place that a walk has come
to leads there again from the top, without the detours, so that a path may be resolved first and read afterwards. -/

namespace QueryNav.Place

open QueryNav.Path

/-- The place that a component leads to from another one, whatever the tree holds there. -/
def step (place : Place) : Component → Place
  | .root => []
  | .current => place
  | .parent => place.dropLast
  | .name name => place ++ [name]

def follow (place : Place) (components : List Component) : Place := components.foldl step place

theorem follow_append (place : Place) (front back : List Component) :
    follow place (front ++ back) = follow (follow place front) back := List.foldl_append

theorem follow_names (place : Place) (names : List Text) : follow place (names.map .name) = place ++ names := by
  induction names generalizing place with
  | nil => exact (List.append_nil place).symm
  | cons name names ih =>
    rw [List.map_cons, follow, List.foldl_cons, ← follow, ih, step, List.append_assoc, List.singleton_append]

end QueryNav.Place

namespace QueryNav.Path

open Text

theorem names_eq (path : Path) : path.names = (pieces '/' path.text).filter fun piece => !isFiller piece := by
  rw [names, body, lead]
  split
  next rest start =>
    rw [start, pieces_separator]
    rfl
  next start =>
    rw [start]
    rfl
  next rest start =>
    have cut : pieces '/' ('.' :: '/' :: rest) = ['.'] :: pieces '/' rest := pieces_append_separator '/' ['.'] rest
    rw [start, cut, List.length_singleton, List.drop_succ_cons, List.drop_zero, pieces_separator]
    rfl
  next => rfl

theorem steps_pieces (path : Path) : steps (pieces '/' path.text) = path.names.map componentOf := by
  rw [steps, ← names_eq]

theorem steps_pieces_join {right : Path} (relative : right.isAbsolute = false) (left : Path) :
    steps (pieces '/' (left.join right).text) = steps (pieces '/' left.text) ++ steps (pieces '/' right.text) := by
  obtain ⟨left⟩ := left
  by_cases empty : left = []
  · have joined : (Path.mk left).join right = right := by simp [join, relative, empty]
    rw [joined, empty]
    rfl
  · by_cases closed : left.getLast? = some '/'
    · obtain ⟨front, rfl⟩ : ∃ front, left = front ++ ['/'] := List.getLast?_eq_some_iff.mp closed
      have joined : (Path.mk (front ++ ['/'])).join right = ⟨front ++ '/' :: right.text⟩ := by simp [join, relative]
      rw [joined, pieces_append_separator, pieces_append_separator, steps_append, steps_append]
      simp [steps, pieces, isFiller]
    · have joined : (Path.mk left).join right = ⟨left ++ '/' :: right.text⟩ := by simp [join, relative, empty, closed]
      rw [joined, pieces_append_separator, steps_append]

theorem isAbsolute_join_of_relative {right : Path} (relative : right.isAbsolute = false) (left : Path) :
    (left.join right).isAbsolute = left.isAbsolute := by
  obtain ⟨left⟩ := left
  cases left with
  | nil => simpa [join, relative, isAbsolute] using relative
  | cons c left =>
    unfold join
    rw [if_neg (by simp [relative])]
    split <;> simp [isAbsolute]

end QueryNav.Path

namespace QueryNav.Spot

open Text QueryNav.Path

variable {top spot next : Spot} {piece : Text}

/-- What a step in a folder can do: stay, go up, or go down into something that the folder has under that name. -/
theorem step_cases (taken : spot.step piece = .ok next) :
    ∃ entries, spot.here = .folder entries ∧
      ((isFiller piece = true ∧ next = spot) ∨ (piece = ['.', '.'] ∧ next = spot.up) ∨
        (isFiller piece = false ∧ piece ≠ ['.', '.'] ∧ width8 piece ≤ nameLimit ∧
          ∃ tree, entries.lookup piece = some tree ∧ next = ⟨tree, (piece, spot.here) :: spot.above⟩)) := by
  unfold step at taken
  split at taken
  · cases taken
  next entries here =>
    refine ⟨entries, here, ?_⟩
    split at taken
    next filler =>
      cases taken
      exact .inl ⟨filler, rfl⟩
    next solid =>
      split at taken
      next upward =>
        cases taken
        exact .inr (.inl ⟨upward, rfl⟩)
      next down =>
        split at taken
        · cases taken
        next short =>
          split at taken
          next tree listed =>
            cases taken
            exact .inr (.inr ⟨Bool.eq_false_iff.mpr solid, down, Nat.le_of_not_lt short, tree, listed, rfl⟩)
          next => cases taken

theorem place_up (spot : Spot) : spot.up.place = spot.place.dropLast := by
  obtain ⟨here, above⟩ := spot
  cases above with
  | nil => rfl
  | cons entry above => simp [up, place]

theorem place_of_step (taken : spot.step piece = .ok next) : next.place = Place.follow spot.place (steps [piece]) := by
  obtain ⟨_, _, ⟨filler, rfl⟩ | ⟨rfl, rfl⟩ | ⟨solid, down, _, tree, _, rfl⟩⟩ := step_cases taken
  · rw [steps_filler filler]
    rfl
  · exact place_up spot
  · rw [steps_name solid down]
    simp [place, Place.follow, Place.step]

theorem walk_cons_eq_ok_iff {rest : List Text} :
    spot.walk (piece :: rest) = .ok next ↔ ∃ middle, spot.step piece = .ok middle ∧ middle.walk rest = .ok next := by
  rw [walk]
  split
  next middle taken => simp [taken]
  next fault stopped => simp [stopped]

theorem walk_append_eq_ok_iff {front back : List Text} :
    spot.walk (front ++ back) = .ok next ↔ ∃ middle, spot.walk front = .ok middle ∧ middle.walk back = .ok next := by
  induction front generalizing spot with
  | nil => simp [walk]
  | cons piece front ih =>
    simp only [List.cons_append, walk_cons_eq_ok_iff, ih]
    constructor
    · intro way
      obtain ⟨first, taken, middle, led, leads⟩ := way
      exact ⟨middle, ⟨first, taken, led⟩, leads⟩
    · intro way
      obtain ⟨middle, ⟨first, taken, led⟩, leads⟩ := way
      exact ⟨first, taken, middle, led, leads⟩

theorem place_of_walk {parts : List Text} (found : spot.walk parts = .ok next) :
    next.place = Place.follow spot.place (steps parts) := by
  induction parts generalizing spot with
  | nil =>
    cases found
    rfl
  | cons piece parts ih =>
    obtain ⟨middle, taken, leads⟩ := walk_cons_eq_ok_iff.mp found
    rw [ih leads, place_of_step taken, ← Place.follow_append, ← steps_cons]

/-- A spot to which names lead down from the top. -/
inductive Reached (top : Spot) : Spot → Prop where
  | top : Reached top top
  | down {spot next : Spot} {name : Text} (above : Reached top spot) (solid : isFiller name = false)
      (named : name ≠ ['.', '.']) (taken : spot.step name = .ok next) : Reached top next

theorem Reached.up (outermost : top.above = []) (reached : Reached top spot) : Reached top spot.up := by
  cases reached with
  | top =>
    have same : top.up = top := by simp [Spot.up, outermost]
    rw [same]
    exact .top
  | @down before _ name above solid named taken =>
    obtain ⟨_, _, ⟨filler, _⟩ | ⟨upward, _⟩ | ⟨_, _, _, tree, _, rfl⟩⟩ := step_cases taken
    · cases filler.symm.trans solid
    · exact absurd upward named
    · exact above

theorem Reached.step (outermost : top.above = []) (reached : Reached top spot) (taken : spot.step piece = .ok next) :
    Reached top next := by
  obtain ⟨_, _, ⟨_, rfl⟩ | ⟨_, rfl⟩ | ⟨solid, named, _⟩⟩ := step_cases taken
  · exact reached
  · exact reached.up outermost
  · exact .down reached solid named taken

theorem Reached.walk (outermost : top.above = []) {parts : List Text} (reached : Reached top spot)
    (found : spot.walk parts = .ok next) : Reached top next := by
  induction parts generalizing spot with
  | nil =>
    cases found
    exact reached
  | cons piece parts ih =>
    obtain ⟨middle, taken, leads⟩ := walk_cons_eq_ok_iff.mp found
    exact ih (reached.step outermost taken) leads

theorem Reached.walk_place (outermost : top.above = []) (reached : Reached top spot) :
    top.walk spot.place = .ok spot := by
  induction reached with
  | top => simp [place, outermost, Spot.walk]
  | @down before next name above solid named taken ih =>
    have longer : next.place = before.place ++ [name] := by
      rw [place_of_step taken, steps_name solid named]
      rfl
    rw [longer]
    exact walk_append_eq_ok_iff.mpr ⟨before, ih, walk_cons_eq_ok_iff.mpr ⟨next, taken, rfl⟩⟩

end QueryNav.Spot

namespace QueryNav.Disk

open Text QueryNav.Path

variable {disk : Disk} {path : Path} {spot : Spot}

theorem walk_of_resolve (found : disk.resolve path = .ok spot) :
    disk.top.walk ((if path.isAbsolute then [] else disk.workingFolder) ++ pieces '/' path.text) = .ok spot := by
  unfold resolve at found
  split at found
  · cases found
  · split at found
    · cases found
    · exact found

theorem resolve_of_locate (found : disk.locate path = .ok spot) : disk.resolve path = .ok spot := by
  unfold locate at found
  split at found
  · cases found
  · split at found
    · cases found
    · exact found

theorem place_of_resolve (found : disk.resolve path = .ok spot) :
    spot.place = Place.follow (Place.follow [] (steps (if path.isAbsolute then [] else disk.workingFolder)))
      (steps (pieces '/' path.text)) := by
  rw [Spot.place_of_walk (walk_of_resolve found), steps_append, Place.follow_append]
  rfl

theorem walk_place_of_resolve (found : disk.resolve path = .ok spot) : disk.top.walk spot.place = .ok spot :=
  (Spot.Reached.top.walk rfl (walk_of_resolve found)).walk_place rfl

theorem walk_of_resolve_pathOf {place : Place} (clean : ∀ name ∈ place, '/' ∉ name)
    (found : disk.resolve (pathOf place) = .ok spot) : disk.top.walk place = .ok spot := by
  have walked := walk_of_resolve found
  have stays : disk.top.step [] = .ok disk.top := rfl
  rw [isAbsolute_pathOf, if_pos rfl, List.nil_append, pathOf, pieces_separator] at walked
  obtain ⟨first, taken, leads⟩ := Spot.walk_cons_eq_ok_iff.mp walked
  cases stays.symm.trans taken
  by_cases empty : place = []
  · subst empty
    exact leads
  · rwa [pieces_glue empty clean] at leads

theorem exists_file_of_readText {text : Text} (read : disk.readText path = .ok text) :
    ∃ spot bytes content, disk.resolve path = .ok spot ∧ spot.here = .file bytes ∧
      String.fromUTF8? bytes = some content ∧ content.toList = text := by
  unfold readText at read
  split at read
  · cases read
  next spot found =>
    split at read
    · cases read
    next bytes here =>
      split at read
      next content decoded => exact ⟨spot, bytes, content, resolve_of_locate found, here, decoded, Except.ok.inj read⟩
      next => cases read

end QueryNav.Disk
