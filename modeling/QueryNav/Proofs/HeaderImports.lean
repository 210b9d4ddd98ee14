import QueryNav.Proofs.BodyEdits
import QueryNav.Proofs.Markers

/-! The imports of a query, said without the search for them. An import counts if its line holds no marker, an
opening line is in front of it and no closing line is. The search keeps a flag and stops early; from any line on,
it finds what these words say about the remaining lines, the flag standing for the lines before. -/

namespace QueryNav.Header

open Text

def OpensOn (lines : List Text) (index : Nat) : Prop :=
  ∃ raw, lines[index]? = some raw ∧ HoldsOpening (trim raw)

/-- A closing line. An opening marker takes precedence on a line that holds both. -/
def ClosesOn (lines : List Text) (index : Nat) : Prop :=
  ¬ OpensOn lines index ∧ ∃ raw, lines[index]? = some raw ∧ HoldsClosing (trim raw)

section Lines

variable (raw : Text) (lines : List Text) (index : Nat)

theorem opensOn_zero : OpensOn (raw :: lines) 0 ↔ opens (trim raw) = true := by
  simp [OpensOn, opens_iff]

theorem opensOn_succ : OpensOn (raw :: lines) (index + 1) ↔ OpensOn lines index := by
  simp [OpensOn]

theorem closesOn_zero : ClosesOn (raw :: lines) 0 ↔ endsHeader raw = true := by
  simp [ClosesOn, opensOn_zero, endsHeader, closes_iff]

theorem closesOn_succ : ClosesOn (raw :: lines) (index + 1) ↔ ClosesOn lines index := by
  simp [ClosesOn, opensOn_succ]

end Lines

/-- Line `index` is a line of the header without a marker. `inside` stands for the lines in front of these: the
header was opened on one of them. -/
structure InHeader (inside : Bool) (lines : List Text) (index : Nat) : Prop where
  unopening : ¬ OpensOn lines index
  unclosing : ¬ ClosesOn lines index
  opened : inside = true ∨ ∃ earlier, earlier < index ∧ OpensOn lines earlier
  unclosed : ∀ earlier, earlier < index → ¬ ClosesOn lines earlier

theorem inHeader_zero {inside : Bool} {raw : Text} {lines : List Text} :
    InHeader inside (raw :: lines) 0 ↔ endsHeader raw = false ∧ inside = true ∧ opens (trim raw) = false := by
  constructor
  · intro header
    obtain ⟨unopening, unclosing, opened, _⟩ := header
    rw [opensOn_zero] at unopening
    rw [closesOn_zero] at unclosing
    simpa [unopening, unclosing] using opened
  · intro line
    obtain ⟨unclosing, opened, unopening⟩ := line
    refine ⟨?_, ?_, .inl opened, by simp⟩
    · simp [opensOn_zero, unopening]
    · simp [closesOn_zero, unclosing]

theorem inHeader_succ {inside : Bool} {raw : Text} {lines : List Text} {index : Nat} :
    InHeader inside (raw :: lines) (index + 1) ↔
      endsHeader raw = false ∧ InHeader (inside || opens (trim raw)) lines index := by
  have opened : (inside = true ∨ ∃ earlier, earlier < index + 1 ∧ OpensOn (raw :: lines) earlier) ↔
      ((inside || opens (trim raw)) = true ∨ ∃ earlier, earlier < index ∧ OpensOn lines earlier) := by
    rw [Nat.exists_lt_succ_left, opensOn_zero, Bool.or_eq_true, or_assoc]
    simp only [opensOn_succ]
  have unclosed : (∀ earlier, earlier < index + 1 → ¬ ClosesOn (raw :: lines) earlier) ↔
      endsHeader raw = false ∧ ∀ earlier, earlier < index → ¬ ClosesOn lines earlier := by
    rw [Nat.forall_lt_succ_left, closesOn_zero, Bool.not_eq_true]
    simp only [closesOn_succ]
  constructor
  · intro header
    obtain ⟨unopening, unclosing, before, earlier⟩ := header
    rw [opensOn_succ] at unopening
    rw [closesOn_succ] at unclosing
    obtain ⟨first, others⟩ := unclosed.mp earlier
    exact ⟨first, unopening, unclosing, opened.mp before, others⟩
  · intro header
    obtain ⟨first, unopening, unclosing, before, others⟩ := header
    rw [← opensOn_succ raw] at unopening
    rw [← closesOn_succ raw] at unclosing
    exact ⟨unopening, unclosing, opened.mpr before, unclosed.mpr ⟨first, others⟩⟩

theorem statement?_eq_some_iff {number : Nat} {line : Text} {statement : Statement} :
    statement? number line = some statement ↔
      ∃ clause, clause? line = some clause ∧ statement = ⟨line, clause.path, clause.alias?, number⟩ := by
  simp only [statement?, Option.map_eq_some_iff, @eq_comm _ statement]

theorem scanFrom_cons (inside : Bool) (number : Nat) (raw : Text) (lines : List Text) :
    scanFrom inside number (raw :: lines) =
      if endsHeader raw then [] else
        (if inside && !opens (trim raw) then (statement? number (trim raw)).toList else []) ++
          scanFrom (inside || opens (trim raw)) (number + 1) lines := by
  rw [scanFrom, endsHeader]
  cases opens (trim raw) <;> cases closes (trim raw) <;> cases inside <;> simp

private theorem mem_scanFrom_cons {inside : Bool} {number : Nat} {raw : Text} {lines : List Text}
    {statement : Statement} :
    statement ∈ scanFrom inside number (raw :: lines) ↔
      InHeader inside (raw :: lines) 0 ∧ statement? number (trim raw) = some statement ∨
        endsHeader raw = false ∧ statement ∈ scanFrom (inside || opens (trim raw)) (number + 1) lines := by
  rw [scanFrom_cons, inHeader_zero]
  cases endsHeader raw with
  | true => simp
  | false => cases inside <;> cases opens (trim raw) <;> simp

theorem mem_scanFrom_iff {inside : Bool} {number : Nat} {lines : List Text} {statement : Statement} :
    statement ∈ scanFrom inside number lines ↔
      ∃ index, InHeader inside lines index ∧
        ∃ raw, lines[index]? = some raw ∧ statement? (number + index) (trim raw) = some statement := by
  induction lines generalizing inside number with
  | nil => simp [scanFrom]
  | cons raw lines ih =>
    rw [mem_scanFrom_cons, ih]
    constructor
    · intro listed
      rcases listed with ⟨header, found⟩ | ⟨kept, index, header, other, present, found⟩
      · exact ⟨0, header, raw, rfl, found⟩
      · refine ⟨index + 1, inHeader_succ.mpr ⟨kept, header⟩, other, present, ?_⟩
        rwa [Nat.add_right_comm] at found
    · intro described
      obtain ⟨index, header, other, present, found⟩ := described
      cases index with
      | zero =>
        cases present
        exact .inl ⟨header, found⟩
      | succ index =>
        obtain ⟨kept, later⟩ := inHeader_succ.mp header
        refine .inr ⟨kept, index, later, other, present, ?_⟩
        rwa [Nat.add_right_comm]

theorem scanFrom_increasing (inside : Bool) (number : Nat) (lines : List Text) :
    (scanFrom inside number lines).Pairwise fun earlier later => earlier.number < later.number := by
  induction lines generalizing inside number with
  | nil => exact List.Pairwise.nil
  | cons raw lines ih =>
    rw [scanFrom_cons]
    split
    · exact List.Pairwise.nil
    · refine List.pairwise_append.mpr ⟨?_, ih _ _, ?_⟩
      · split
        · cases statement? number (trim raw) <;> simp
        · exact List.Pairwise.nil
      · intro earlier found later behind
        obtain ⟨index, _, _, _, further⟩ := mem_scanFrom_iff.mp behind
        obtain ⟨_, _, rfl⟩ := statement?_eq_some_iff.mp further
        split at found
        · obtain ⟨_, _, rfl⟩ := statement?_eq_some_iff.mp (Option.mem_toList.mp found)
          exact Nat.lt_add_right index (Nat.lt_succ_self number)
        · cases found

/-- The search finds the imports of the header and nothing else, each once and in the order of their lines. -/
theorem scan_finds_header_imports (lines : List Text) :
    ((scan lines).Pairwise fun earlier later => earlier.number < later.number) ∧
      ∀ statement, statement ∈ scan lines ↔
        ∃ number raw clause, lines[number]? = some raw ∧ ¬ OpensOn lines number ∧ ¬ ClosesOn lines number ∧
          (∃ earlier, earlier < number ∧ OpensOn lines earlier) ∧
          (∀ earlier, earlier < number → ¬ ClosesOn lines earlier) ∧
          clause? (trim raw) = some clause ∧ statement = ⟨trim raw, clause.path, clause.alias?, number⟩ := by
  refine ⟨scanFrom_increasing false 0 lines, ?_⟩
  intro statement
  rw [scan, mem_scanFrom_iff]
  constructor
  · intro listed
    obtain ⟨number, header, raw, present, found⟩ := listed
    obtain ⟨clause, accepted, same⟩ := statement?_eq_some_iff.mp found
    rw [Nat.zero_add] at same
    have opened := header.opened.resolve_left Bool.false_ne_true
    exact ⟨number, raw, clause, present, header.unopening, header.unclosing, opened, header.unclosed, accepted, same⟩
  · intro described
    obtain ⟨number, raw, clause, present, unopening, unclosing, opened, unclosed, accepted, same⟩ := described
    refine ⟨number, ⟨unopening, unclosing, .inr opened, unclosed⟩, raw, present, ?_⟩
    rw [Nat.zero_add]
    exact statement?_eq_some_iff.mpr ⟨clause, accepted, same⟩

-- A line with both markers opens the header again instead of ending it.
example :
    scan ["<Head>".toList, "import a".toList, "</head><HEAD >".toList, " import b as c".toList, "</HEAD>".toList,
        "import d".toList] =
      [⟨"import a".toList, "a".toList, none, 1⟩, ⟨"import b as c".toList, "b".toList, some "c".toList, 3⟩] := by
  decide

end QueryNav.Header
