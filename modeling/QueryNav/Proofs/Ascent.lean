import QueryNav.Proofs.Addresses

/-! The way up from an absolute path, in pieces. The text of an absolute path is a list of pieces behind
separators, and going up takes the last piece away, together with the pieces before it that mean nothing. What is
left is settled: it ends with a piece that means something, so that a name can be joined to it as one more piece.
Texts are only looked at here; a search that goes up a path is a walk along the list. -/

namespace QueryNav.Text

variable {α : Type} {drop : α → Bool}

theorem trimEndWhile_append_of_ne_nil {back : List α} (kept : trimEndWhile drop back ≠ []) (front : List α) :
    trimEndWhile drop (front ++ back) = front ++ trimEndWhile drop back := by
  have something : back.reverse.dropWhile drop ≠ [] := by simpa [trimEndWhile] using kept
  simp [trimEndWhile, List.dropWhile_append, something]

theorem trimEndWhile_append_of_eq_nil {back : List α} (dropped : trimEndWhile drop back = []) (front : List α) :
    trimEndWhile drop (front ++ back) = trimEndWhile drop front := by
  have nothing : back.reverse.dropWhile drop = [] := by simpa [trimEndWhile] using dropped
  simp [trimEndWhile, List.dropWhile_append, nothing]

theorem trimEndWhile_concat {item : α} (kept : drop item = false) (items : List α) :
    trimEndWhile drop (items ++ [item]) = items ++ [item] := by
  simp [trimEndWhile, kept]

theorem exists_last_of_trimEndWhile {items : List α} (something : trimEndWhile drop items ≠ []) :
    ∃ front last, trimEndWhile drop items = front ++ [last] ∧ drop last = false := by
  have whole := (List.dropLast_concat_getLast something).symm
  exact ⟨_, _, whole, getLast?_trimEndWhile drop items (List.getLast?_eq_some_getLast something)⟩

theorem trimEndWhile_trimEndWhile (items : List α) :
    trimEndWhile drop (trimEndWhile drop items) = trimEndWhile drop items := by
  by_cases empty : trimEndWhile drop items = []
  · rw [empty]
    rfl
  · obtain ⟨front, last, whole, kept⟩ := exists_last_of_trimEndWhile empty
    rw [whole, trimEndWhile_concat kept]

theorem mem_of_mem_trimEndWhile {items : List α} {item : α} (member : item ∈ trimEndWhile drop items) :
    item ∈ items := by
  obtain ⟨tail, whole, _⟩ := trimEndWhile_append drop items
  rw [whole]
  exact List.mem_append_left _ member

theorem length_trimEndWhile_le (drop : α → Bool) (items : List α) :
    (trimEndWhile drop items).length ≤ items.length := by
  obtain ⟨tail, whole, _⟩ := trimEndWhile_append drop items
  conv => rhs; rw [whole, List.length_append]
  omega

theorem glue_append (separator : α) {front back : List (List α)} (first : front ≠ []) (last : back ≠ []) :
    glue separator (front ++ back) = glue separator front ++ separator :: glue separator back := by
  induction front with
  | nil => exact absurd rfl first
  | cons piece front ih =>
    obtain ⟨other, others, rfl⟩ := List.exists_cons_of_ne_nil last
    cases front with
    | nil => rfl
    | cons second front =>
      have rest := ih (List.cons_ne_nil _ _)
      simp only [List.cons_append, glue, List.append_assoc] at rest ⊢
      rw [rest]

end QueryNav.Text

namespace QueryNav.Path

open Text Disk

/-- The pieces of an absolute path as they are left on the way up: nothing at the end that means nothing. -/
structure Settled (parts : List Text) : Prop where
  clean : ∀ part ∈ parts, '/' ∉ part
  trimmed : trimEndWhile isFiller parts = parts

theorem settled_trimEndWhile {parts : List Text} (clean : ∀ part ∈ parts, '/' ∉ part) :
    Settled (trimEndWhile isFiller parts) :=
  ⟨fun part member => clean part (mem_of_mem_trimEndWhile member), trimEndWhile_trimEndWhile parts⟩

theorem Settled.append {front back : List Text} (settled : Settled back) (nonempty : back ≠ [])
    (clean : ∀ part ∈ front, '/' ∉ part) : Settled (front ++ back) := by
  refine ⟨List.forall_mem_append.mpr ⟨clean, settled.clean⟩, ?_⟩
  rw [trimEndWhile_append_of_ne_nil (by rwa [settled.trimmed]), settled.trimmed]

theorem Settled.trimEndWhile_append {front : List Text} (settled : Settled front) (back : List Text) :
    trimEndWhile isFiller (front ++ back) = front ++ trimEndWhile isFiller back := by
  by_cases dropped : trimEndWhile isFiller back = []
  · rw [trimEndWhile_append_of_eq_nil dropped, settled.trimmed, dropped, List.append_nil]
  · exact trimEndWhile_append_of_ne_nil dropped front

theorem settled_singleton {name : Text} (clean : '/' ∉ name) (solid : isFiller name = false) : Settled [name] :=
  ⟨by simpa using clean, trimEndWhile_concat solid []⟩

theorem body_pathOf {parts : List Text} (nonempty : parts ≠ []) (clean : ∀ part ∈ parts, '/' ∉ part) :
    (pathOf parts).body = parts := by
  have cut : (pathOf parts).body = pieces '/' (glue '/' parts) := rfl
  rw [cut, pieces_glue nonempty clean]

theorem steps_body_pathOf {parts : List Text} (clean : ∀ part ∈ parts, '/' ∉ part) :
    steps (pathOf parts).body = steps parts := by
  by_cases empty : parts = []
  · subst empty
    rfl
  · rw [body_pathOf empty clean]

theorem components_pathOf {parts : List Text} (clean : ∀ part ∈ parts, '/' ∉ part) :
    (pathOf parts).components = .root :: steps parts := by
  rw [components_eq, steps_body_pathOf clean]
  rfl

theorem Settled.parent? {parts : List Text} (settled : Settled parts) (nonempty : parts ≠ []) :
    (pathOf parts).parent? = some (pathOf (trimEndWhile isFiller parts.dropLast)) := by
  rw [Path.parent?, body_pathOf nonempty settled.clean, settled.trimmed, if_neg nonempty]
  rfl

theorem ne_nil_of_parent? {parts : List Text} {parent : Path} (above : (pathOf parts).parent? = some parent) :
    parts ≠ [] := by
  rintro rfl
  cases above

theorem Settled.up {parts : List Text} (settled : Settled parts) :
    Settled (trimEndWhile isFiller parts.dropLast) :=
  settled_trimEndWhile fun part member => settled.clean part (List.dropLast_subset _ member)

/-- The folder of a file at an absolute path is settled, whatever stands between its separators. -/
theorem exists_settled_parent {path parent : Path} (absolute : path.isAbsolute = true)
    (found : path.parent? = some parent) : ∃ parts, Settled parts ∧ parent = pathOf parts := by
  have clean : ∀ part ∈ trimEndWhile isFiller path.body, '/' ∉ part :=
    (settled_trimEndWhile fun part member => not_mem_of_mem_pieces member).clean
  have front : path.lead = ['/'] := by
    obtain ⟨rest, text⟩ := isAbsolute_iff.mp absolute
    simp [lead, text]
  simp only [parent?, front] at found
  split at found
  · simp at found
  · cases found
    exact ⟨_, settled_trimEndWhile fun part member => clean part (List.dropLast_subset _ member), rfl⟩

theorem Settled.exists_last {parts : List Text} (settled : Settled parts) (nonempty : parts ≠ []) :
    ∃ front last, parts = front ++ [last] ∧ isFiller last = false := by
  rw [← settled.trimmed] at nonempty ⊢
  exact exists_last_of_trimEndWhile nonempty

theorem Settled.open_end {parts : List Text} (settled : Settled parts) (nonempty : parts ≠ []) :
    (pathOf parts).text.getLast? ≠ some '/' := by
  intro closed
  obtain ⟨front, whole⟩ := List.getLast?_eq_some_iff.mp closed
  have cut : [] :: parts = pieces '/' front ++ [[]] := by
    calc [] :: parts
      _ = pieces '/' ('/' :: glue '/' parts) := by rw [pieces_separator, pieces_glue nonempty settled.clean]
      _ = pieces '/' (front ++ '/' :: []) := congrArg (pieces '/') whole
      _ = pieces '/' front ++ [[]] := pieces_append_separator '/' front []
  obtain ⟨early, last, rfl, solid⟩ := settled.exists_last nonempty
  have empty : last = [] := by
    rw [← List.cons_append] at cut
    simpa using (List.append_inj' cut rfl).2
  simp [isFiller, empty] at solid

theorem Settled.join {parts : List Text} (settled : Settled parts) (nonempty : parts ≠ []) {right : Path}
    (relative : right.isAbsolute = false) : (pathOf parts).join right = pathOf (parts ++ pieces '/' right.text) := by
  have filled : ¬ ((pathOf parts).text = [] ∨ (pathOf parts).text.getLast? = some '/') := by
    rintro (empty | closed)
    · cases empty
    · exact settled.open_end nonempty closed
  rw [Path.join, if_neg (by simp [relative]), if_neg filled, pathOf, pathOf,
    glue_append '/' nonempty (pieces_ne_nil '/' right.text), glue_pieces, List.cons_append]

end QueryNav.Path
