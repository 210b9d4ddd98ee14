import QueryNav.Header.Scan

/-! Markers, said without the search for them. A marker may stand anywhere on a line and in any case, so a line
holds one if it can be cut around letters that become the marker when they are folded. A line without a bracket
holds none. -/

namespace QueryNav.Header

open Text

/-- The line holds `<head` in any case, and right behind it a blank or `>`. -/
def HoldsOpening (line : Text) : Prop :=
  ∃ before word c behind, line = before ++ (word ++ c :: behind) ∧ word.map lowerAscii = "<head".toList ∧
    (isBlank c = true ∨ c = '>')

def HoldsClosing (line : Text) : Prop :=
  ∃ before word behind, line = before ++ (word ++ behind) ∧ word.map lowerAscii = "</head>".toList

theorem somewhere_iff {test : Text → Bool} {text : Text} :
    somewhere test text = true ↔ ∃ before behind, text = before ++ behind ∧ test behind = true := by
  induction text with
  | nil =>
    constructor
    · intro here
      exact ⟨[], [], rfl, here⟩
    · intro cut
      obtain ⟨before, behind, whole, holds⟩ := cut
      obtain ⟨rfl, rfl⟩ := List.append_eq_nil_iff.mp whole.symm
      exact holds
  | cons c text ih =>
    rw [somewhere, Bool.or_eq_true, ih]
    constructor
    · intro found
      rcases found with here | ⟨before, behind, rfl, later⟩
      · exact ⟨[], c :: text, rfl, here⟩
      · exact ⟨c :: before, behind, rfl, later⟩
    · intro cut
      obtain ⟨before, behind, whole, holds⟩ := cut
      cases before with
      | nil => exact .inl (by rwa [whole])
      | cons first before =>
        obtain ⟨rfl, rfl⟩ := List.cons.inj whole
        exact .inr ⟨before, behind, rfl, holds⟩

theorem afterFolded?_eq_some_iff {word text rest : Text} :
    afterFolded? word text = some rest ↔ ∃ found, text = found ++ rest ∧ found.map lowerAscii = word := by
  unfold afterFolded?
  constructor
  · intro accepted
    obtain ⟨same, cut⟩ := Option.ite_none_right_eq_some.mp accepted
    cases cut
    exact ⟨text.take word.length, (List.take_append_drop _ _).symm, same⟩
  · intro cut
    obtain ⟨found, rfl, rfl⟩ := cut
    simp

private theorem opensAt_iff {text : Text} :
    opensAt text = true ↔ ∃ word c behind, text = word ++ c :: behind ∧ word.map lowerAscii = "<head".toList ∧
      (isBlank c = true ∨ c = '>') := by
  constructor
  · intro opening
    unfold opensAt at opening
    split at opening
    next c behind found =>
      obtain ⟨word, whole, folded⟩ := afterFolded?_eq_some_iff.mp found
      exact ⟨word, c, behind, whole, folded, by simpa using opening⟩
    next => cases opening
  · intro marker
    obtain ⟨word, c, behind, rfl, folded, ends⟩ := marker
    have found : afterFolded? ['<', 'h', 'e', 'a', 'd'] (word ++ c :: behind) = some (c :: behind) :=
      afterFolded?_eq_some_iff.mpr ⟨word, rfl, folded⟩
    simpa only [opensAt, found, Bool.or_eq_true, decide_eq_true_eq] using ends

theorem opens_iff {line : Text} : opens line = true ↔ HoldsOpening line := by
  rw [opens, somewhere_iff]
  constructor
  · intro found
    obtain ⟨before, _, rfl, opening⟩ := found
    obtain ⟨word, c, behind, rfl, marker⟩ := opensAt_iff.mp opening
    exact ⟨before, word, c, behind, rfl, marker⟩
  · intro holds
    obtain ⟨before, word, c, behind, rfl, marker⟩ := holds
    exact ⟨before, _, rfl, opensAt_iff.mpr ⟨word, c, behind, rfl, marker⟩⟩

theorem closes_iff {line : Text} : closes line = true ↔ HoldsClosing line := by
  rw [closes, somewhere_iff]
  constructor
  · intro found
    obtain ⟨before, _, rfl, closing⟩ := found
    obtain ⟨behind, after⟩ := Option.isSome_iff_exists.mp closing
    obtain ⟨word, rfl, folded⟩ := afterFolded?_eq_some_iff.mp after
    exact ⟨before, word, behind, rfl, folded⟩
  · intro holds
    obtain ⟨before, word, behind, rfl, folded⟩ := holds
    refine ⟨before, _, rfl, Option.isSome_iff_exists.mpr ⟨behind, ?_⟩⟩
    exact afterFolded?_eq_some_iff.mpr ⟨word, rfl, folded⟩

private theorem eq_of_lowerAscii {c : Char} (folded : lowerAscii c = '<') : c = '<' := by
  unfold lowerAscii at folded
  split at folded
  next capital =>
    obtain ⟨low, high⟩ := capital
    have small : c.toNat ≤ 90 := high
    have large : 65 ≤ c.toNat := low
    have valid : (c.toNat + 32).isValidChar := .inl (by omega)
    have same : c.toNat + 32 = '<'.toNat := by
      rw [← folded, Char.ofNat, dif_pos valid]
      rfl
    have bracket : '<'.toNat = 60 := rfl
    omega
  next => exact folded

private theorem bracket_mem_of_map {word rest : Text} (folded : word.map lowerAscii = '<' :: rest) : '<' ∈ word := by
  cases word with
  | nil => cases folded
  | cons c word =>
    have first : lowerAscii c = '<' := (List.cons.inj folded).1
    rw [eq_of_lowerAscii first]
    exact List.mem_cons_self

theorem opens_eq_false {line : Text} (absent : '<' ∉ line) : opens line = false := by
  rw [Bool.eq_false_iff]
  intro opening
  obtain ⟨before, word, c, behind, rfl, folded, _⟩ := opens_iff.mp opening
  exact absent (List.mem_append_right _ (List.mem_append_left _ (bracket_mem_of_map folded)))

theorem closes_eq_false {line : Text} (absent : '<' ∉ line) : closes line = false := by
  rw [Bool.eq_false_iff]
  intro closing
  obtain ⟨before, word, behind, rfl, folded⟩ := closes_iff.mp closing
  exact absent (List.mem_append_right _ (List.mem_append_left _ (bracket_mem_of_map folded)))

end QueryNav.Header
