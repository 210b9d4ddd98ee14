import QueryNav.Proofs.HeaderImports

/-! The first closing marker. The search for imports ends at a line that holds a closing marker, but not if the same
line holds an opening one, which is looked for first and opens the header once more. The lines in front of the first
closing marker are therefore all that counts exactly if no opening marker shares its line; otherwise the lines behind
it are searched as well. -/

namespace QueryNav.Header

open Text

/-- Line `number` is the first one that holds a closing marker, whatever else it holds. -/
structure FirstClosing (lines : List Text) (number : Nat) : Prop where
  holds : ∃ raw, lines[number]? = some raw ∧ HoldsClosing (trim raw)
  earlier : ∀ index raw, index < number → lines[index]? = some raw → ¬ HoldsClosing (trim raw)

theorem endsHeader_eq_false {raw : Text} (unclosed : ¬ HoldsClosing (trim raw)) : endsHeader raw = false := by
  rw [← closes_iff, Bool.not_eq_true] at unclosed
  rw [endsHeader, unclosed, Bool.and_false]

theorem scanFrom_append {front : List Text} (running : ∀ raw ∈ front, endsHeader raw = false) (inside : Bool)
    (number : Nat) (back : List Text) :
    scanFrom inside number (front ++ back) = scanFrom inside number front ++
      scanFrom (inside || front.any fun raw => opens (trim raw)) (number + front.length) back := by
  induction front generalizing inside number with
  | nil => simp [scanFrom]
  | cons raw front ih =>
    have others := ih fun later member => running later (List.mem_cons_of_mem _ member)
    have here : endsHeader raw = false := running raw List.mem_cons_self
    rw [List.cons_append, scanFrom_cons, scanFrom_cons, here, others]
    simp only [Bool.false_eq_true, if_false, List.append_assoc, List.any_cons, Bool.or_assoc, List.length_cons]
    rw [Nat.add_right_comm, Nat.add_assoc]

theorem number_lt_of_mem_scan {lines : List Text} {statement : Statement} (listed : statement ∈ scan lines) :
    statement.number < lines.length := by
  obtain ⟨index, _, raw, present, found⟩ := mem_scanFrom_iff.mp listed
  obtain ⟨_, _, rfl⟩ := statement?_eq_some_iff.mp found
  rw [Nat.zero_add]
  exact (List.getElem?_eq_some_iff.mp present).1

section First

variable {lines others : List Text} {number : Nat}

theorem getElem?_of_take_eq (same : others.take (number + 1) = lines.take (number + 1)) {index : Nat}
    (early : index ≤ number) : others[index]? = lines[index]? := by
  have within := Nat.lt_succ_of_le early
  rw [← List.getElem?_take_of_lt within, same, List.getElem?_take_of_lt within]

theorem FirstClosing.of_take_eq (closing : FirstClosing lines number)
    (same : others.take (number + 1) = lines.take (number + 1)) : FirstClosing others number := by
  obtain ⟨holds, earlier⟩ := closing
  constructor
  · rwa [getElem?_of_take_eq same (Nat.le_refl number)]
  · intro index raw before present
    rw [getElem?_of_take_eq same (Nat.le_of_lt before)] at present
    exact earlier index raw before present

theorem opensOn_iff_of_take_eq (same : others.take (number + 1) = lines.take (number + 1)) :
    OpensOn others number ↔ OpensOn lines number := by
  rw [OpensOn, OpensOn, getElem?_of_take_eq same (Nat.le_refl number)]

theorem FirstClosing.scan_eq (closing : FirstClosing lines number) :
    (¬ OpensOn lines number → scan lines = scan (lines.take number)) ∧
      (OpensOn lines number →
        scan lines = scan (lines.take number) ++ scanFrom true (number + 1) (lines.drop (number + 1))) := by
  obtain ⟨stop, present, holds⟩ := closing.holds
  obtain ⟨inside, rfl⟩ := List.getElem?_eq_some_iff.mp present
  have running : ∀ raw ∈ lines.take number, endsHeader raw = false := by
    intro raw member
    obtain ⟨index, before, rfl⟩ := List.mem_take_iff_getElem.mp member
    exact endsHeader_eq_false (closing.earlier index _ (by omega) (List.getElem?_eq_getElem _))
  have size : (lines.take number).length = number := List.length_take_of_le (Nat.le_of_lt inside)
  have divided := scanFrom_append running false 0 (lines.drop number)
  rw [List.take_append_drop, size, Nat.zero_add, ← List.getElem_cons_drop inside, scanFrom_cons] at divided
  constructor
  · intro unopened
    have ends : endsHeader lines[number] = true := by
      have plain : ¬ HoldsOpening (trim lines[number]) := fun opening => unopened ⟨_, present, opening⟩
      rw [← opens_iff, Bool.not_eq_true] at plain
      rw [endsHeader, plain, closes_iff.mpr holds]
      rfl
    simpa [scan, ends] using divided
  · intro opened
    obtain ⟨raw, same, opening⟩ := opened
    cases present.symm.trans same
    have marked : opens (trim lines[number]) = true := opens_iff.mpr opening
    have goes : endsHeader lines[number] = false := by rw [endsHeader, marked]; rfl
    simpa [scan, goes, marked] using divided

theorem FirstClosing.exists_later (closing : FirstClosing lines number) (opened : OpensOn lines number) :
    ∃ others statement, others.take (number + 1) = lines.take (number + 1) ∧ statement ∈ scan others ∧
      number < statement.number := by
  obtain ⟨stop, present, _⟩ := closing.holds
  have inside := (List.getElem?_eq_some_iff.mp present).1
  have size : (lines.take (number + 1)).length = number + 1 := List.length_take_of_le inside
  have same : (lines.take (number + 1) ++ ["import a".toList]).take (number + 1) = lines.take (number + 1) :=
    List.take_left' size
  have found : statement? (number + 1) (trim "import a".toList) =
      some ⟨"import a".toList, "a".toList, none, number + 1⟩ := by
    have named : clause? (trim "import a".toList) = some ⟨"a".toList, 7, none⟩ := by decide
    have trimmed : trim "import a".toList = "import a".toList := by decide
    rw [statement?, named, trimmed]
    rfl
  refine ⟨_, ⟨"import a".toList, "a".toList, none, number + 1⟩, same, ?_, Nat.lt_succ_self number⟩
  rw [((closing.of_take_eq same).scan_eq).2 ((opensOn_iff_of_take_eq same).mpr opened), List.drop_left' size]
  apply List.mem_append_right
  apply mem_scanFrom_iff.mpr
  have plain : endsHeader "import a".toList = false ∧ opens (trim "import a".toList) = false := by decide
  exact ⟨0, inHeader_zero.mpr ⟨plain.1, rfl, plain.2⟩, _, rfl, found⟩

end First

/-- Nothing from the line of the first closing marker on is considered exactly if this line holds no opening marker.
If it does, the lines behind it are searched as lines of the header. -/
theorem closing_marker_ends_search_iff (lines : List Text) (number : Nat) (closing : FirstClosing lines number) :
    ((∀ others, others.take (number + 1) = lines.take (number + 1) →
        (∀ statement ∈ scan others, statement.number < number) ∧ scan others = scan lines) ↔
      ¬ OpensOn lines number) ∧
      (¬ OpensOn lines number → scan lines = scan (lines.take number)) ∧
      (OpensOn lines number →
        scan lines = scan (lines.take number) ++ scanFrom true (number + 1) (lines.drop (number + 1))) := by
  refine ⟨?_, closing.scan_eq⟩
  constructor
  · intro ends opened
    obtain ⟨others, statement, same, listed, later⟩ := closing.exists_later opened
    have early := (ends others same).1 statement listed
    exact Nat.lt_asymm later early
  · intro unopened others same
    have found : scan others = scan (others.take number) :=
      (closing.of_take_eq same).scan_eq.1 (mt (opensOn_iff_of_take_eq same).mp unopened)
    constructor
    · intro statement listed
      rw [found] at listed
      exact Nat.lt_of_lt_of_le (number_lt_of_mem_scan listed) (List.length_take_le _ _)
    · have fronts : others.take number = lines.take number := by
        have shorter := congrArg (List.take number) same
        rwa [List.take_take, List.take_take, Nat.min_eq_left (Nat.le_succ number)] at shorter
      rw [found, fronts, closing.scan_eq.1 unopened]

/-- A second header behind the closing marker is not considered, and neither is one that takes its place. -/
theorem closing_marker_ends_search_iff_before_second_header :
    let lines := ["<HEAD>".toList, "import a".toList, "x</Head>".toList, "<head>".toList, "import b".toList]
    FirstClosing lines 2 ∧ ¬ OpensOn lines 2 ∧ scan lines = [⟨"import a".toList, "a".toList, none, 1⟩] ∧
      scan (lines.take 3 ++ ["import c".toList]) = scan lines := by
  intro lines
  have closing : FirstClosing lines 2 := by
    refine ⟨⟨_, rfl, closes_iff.mp (by decide)⟩, ?_⟩
    intro index raw early present
    rw [← closes_iff, Bool.not_eq_true]
    obtain rfl | rfl : index = 0 ∨ index = 1 := by omega
    · cases present
      decide
    · cases present
      decide
  have unopened : ¬ OpensOn lines 2 := by
    intro opened
    obtain ⟨raw, present, opening⟩ := opened
    cases present
    exact absurd (opens_iff.mpr opening) (by decide)
  obtain ⟨ends, found, _⟩ := closing_marker_ends_search_iff lines 2 closing
  have replaced := ends.mpr unopened (lines.take 3 ++ ["import c".toList]) (List.take_left' (by decide))
  refine ⟨closing, unopened, ?_, replaced.2⟩
  rw [found unopened]
  decide

/-- A header that is opened and closed on one line stays open: an import behind it is found, and so the result does
depend on the lines behind the first closing marker. -/
theorem marker_pair_leaves_header_open :
    let lines := ["<head></head>".toList, "import a".toList]
    FirstClosing lines 0 ∧ scan lines = [⟨"import a".toList, "a".toList, none, 1⟩] ∧ scan (lines.take 1) = [] ∧
      ¬ ∀ (lines : List Text) (number : Nat), FirstClosing lines number →
        (∀ statement ∈ scan lines, statement.number < number) ∧
          ∀ others, others.take (number + 1) = lines.take (number + 1) → scan others = scan lines := by
  intro lines
  have closing : FirstClosing lines 0 := ⟨⟨_, rfl, closes_iff.mp (by decide)⟩, by simp⟩
  have found : scan lines = [⟨"import a".toList, "a".toList, none, 1⟩] := by decide
  refine ⟨closing, found, by decide, ?_⟩
  intro ends
  have early := (ends lines 0 closing).1 _ (by rw [found]; exact List.mem_cons_self)
  cases early

end QueryNav.Header
