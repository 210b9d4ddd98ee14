import QueryNav.Header.Clause

/-! The grammar of import clauses. The reader of a line goes character by character and takes what it can;
the grammar only says which words, gaps and names stand one after the other. Gaps, paths and names are runs
of characters of one class, and since no blank is part of a path, a line can be read in one way only from
any place. The reader finds the first place from which it can be read. -/

namespace QueryNav.Header

open Text

/-- A run of characters of one class in front of `rest`: it is not empty and cannot be longer. -/
structure Run (within : Char → Bool) (run rest : Text) : Prop where
  nonempty : run ≠ []
  inside : ∀ c ∈ run, within c = true
  maximal : ∀ c, rest.head? = some c → within c = false

def IsGap (gap : Text) : Prop := gap ≠ [] ∧ ∀ c ∈ gap, isBlank c = true

/-- A text that starts with the word `import`, a gap and a character of a path. -/
def StartsClause (text : Text) : Prop :=
  ∃ gap path rest, text = importWord ++ (gap ++ (path ++ rest)) ∧ IsGap gap ∧ path ≠ [] ∧
    ∀ c ∈ path, isPathChar c = true

/-- A text that starts with a gap, the word `as`, a gap and the whole of a name. -/
def StartsAlias (text name : Text) : Prop :=
  ∃ gap between rest, text = gap ++ (asWord ++ (between ++ (name ++ rest))) ∧ IsGap gap ∧ IsGap between ∧
    Run isNameChar name rest

/-- No clause starts further to the left than behind `before`. -/
def Leftmost (line before : Text) : Prop :=
  ∀ earlier later, line = earlier ++ later → earlier.length < before.length → ¬ StartsClause later

/-- How a clause stands on a line: the text before it, the word, the gap, the whole path, and the rest of the
line, with which an alias may begin. -/
structure Stands (line : Text) (clause : Clause) (before gap rest : Text) : Prop where
  whole : line = before ++ (importWord ++ (gap ++ (clause.path ++ rest)))
  leftmost : Leftmost line before
  isGap : IsGap gap
  path : Run isPathChar clause.path rest
  start : clause.start = width8 (before ++ (importWord ++ gap))
  naming : ∀ name, clause.alias? = some name ↔ StartsAlias rest name

def bytes (text : Text) : List UInt8 := text.flatMap String.utf8EncodeChar

/-- A byte offset between two characters of a line, or at one of its ends. -/
def OnBoundary (line : Text) (offset : Nat) : Prop := ∃ front back, line = front ++ back ∧ offset = width8 front

theorem Run.takeWhile {within : Char → Bool} {run rest : Text} (found : Run within run rest) :
    (run ++ rest).takeWhile within = run := by
  rw [List.takeWhile_append_of_pos found.inside]
  cases rest with
  | nil => simp
  | cons c rest => simp [found.maximal c rfl]

theorem Run.dropWhile {within : Char → Bool} {run rest : Text} (found : Run within run rest) :
    (run ++ rest).dropWhile within = rest := by
  have whole := List.takeWhile_append_dropWhile (p := within) (l := run ++ rest)
  rw [found.takeWhile] at whole
  exact List.append_cancel_left whole

theorem run_takeWhile {within : Char → Bool} {text : Text} (taken : text.takeWhile within ≠ []) :
    Run within (text.takeWhile within) (text.dropWhile within) where
  nonempty := taken
  inside := fun _ member => List.all_eq_true.mp List.all_takeWhile _ member
  maximal := by
    intro c first
    have failing := List.head?_dropWhile_not within text
    rw [first] at failing
    simpa using failing

theorem toNat_of_isPathChar {c : Char} (path : isPathChar c = true) :
    c.toNat = 46 ∨ 48 ≤ c.toNat ∧ c.toNat ≤ 122 := by
  simp only [isPathChar, isNameChar, Char.le_def, UInt32.le_iff_toNat_le, Char.ext_iff, ← UInt32.toNat_inj,
    Bool.or_eq_true, Bool.and_eq_true, decide_eq_true_eq, Char.toNat_val, Char.reduceToNat] at path
  omega

theorem isPathChar_of_isNameChar {c : Char} (named : isNameChar c = true) : isPathChar c = true := by
  simp [isPathChar, named]

theorem isBlank_eq_false {c : Char} (path : isPathChar c = true) : isBlank c = false := by
  have range := toNat_of_isPathChar path
  rw [Bool.eq_false_iff]
  intro blank
  simp only [isBlank, blankRanges, List.any_cons, List.any_nil, Bool.or_false, Bool.or_eq_true, Bool.and_eq_true,
    decide_eq_true_eq] at blank
  omega

theorem after?_eq_some_iff {word text rest : Text} : after? word text = some rest ↔ text = word ++ rest := by
  induction word generalizing text with
  | nil => simp [after?, eq_comm]
  | cons w word ih =>
    cases text with
    | nil => simp [after?]
    | cons c text =>
      by_cases same : w = c
      · subst same
        simp [after?, ih]
      · simp [after?, same, Ne.symm same]

theorem afterBlanks?_eq_some_iff {text rest : Text} :
    afterBlanks? text = some rest ↔ ∃ gap, text = gap ++ rest ∧ Run isBlank gap rest := by
  constructor
  · intro found
    unfold afterBlanks? at found
    split at found
    · cases found
    next something =>
      cases found
      exact ⟨text.takeWhile isBlank, List.takeWhile_append_dropWhile.symm, run_takeWhile something⟩
  · intro blanks
    obtain ⟨gap, rfl, run⟩ := blanks
    simp [afterBlanks?, trimStart, run.takeWhile, run.dropWhile, run.nonempty]

theorem Run.isGap {gap rest : Text} (run : Run isBlank gap rest) : IsGap gap := ⟨run.nonempty, run.inside⟩

theorem Run.head? {within : Char → Bool} {run rest : Text} (found : Run within run rest) {c : Char}
    (first : (run ++ rest).head? = some c) : within c = true := by
  obtain ⟨d, others, rfl⟩ := List.exists_cons_of_ne_nil found.nonempty
  cases first
  exact found.inside _ (by simp)

theorem IsGap.run {gap path rest : Text} (blanks : IsGap gap) (found : Run isPathChar path rest) :
    Run isBlank gap (path ++ rest) :=
  ⟨blanks.1, blanks.2, fun _ first => isBlank_eq_false (found.head? first)⟩

theorem aliasAt?_eq_some_iff {text name : Text} : aliasAt? text = some name ↔ StartsAlias text name := by
  simp only [aliasAt?, Option.bind_eq_bind, Option.bind_eq_some_iff, Option.ite_none_left_eq_some, Option.some.injEq,
    afterBlanks?_eq_some_iff, after?_eq_some_iff]
  constructor
  · intro accepted
    obtain ⟨_, ⟨gap, rfl, blanks⟩, _, rfl, body, ⟨between, rfl, others⟩, taken, rfl⟩ := accepted
    refine ⟨gap, between, body.dropWhile isNameChar, ?_, blanks.isGap, others.isGap, run_takeWhile taken⟩
    rw [List.takeWhile_append_dropWhile]
  · intro starts
    obtain ⟨gap, between, rest, rfl, blanks, others, run⟩ := starts
    have gapRun : Run isBlank gap (asWord ++ (between ++ (name ++ rest))) :=
      ⟨blanks.1, blanks.2, fun c first => by cases first; decide⟩
    have betweenRun : Run isBlank between (name ++ rest) :=
      ⟨others.1, others.2, fun c first => isBlank_eq_false (isPathChar_of_isNameChar (run.head? first))⟩
    refine ⟨_, ⟨gap, rfl, gapRun⟩, _, rfl, _, ⟨between, rfl, betweenRun⟩, ?_⟩
    rw [run.takeWhile]
    exact ⟨run.nonempty, rfl⟩

/-- The reader of a clause accepts what the grammar says and nothing else. -/
theorem clauseAt?_eq_some_iff {offset : Nat} {text : Text} {clause : Clause} :
    clauseAt? offset text = some clause ↔
      ∃ gap rest, text = importWord ++ (gap ++ (clause.path ++ rest)) ∧ IsGap gap ∧ Run isPathChar clause.path rest ∧
        clause.start = offset + width8 importWord + width8 gap ∧ clause.alias? = aliasAt? rest := by
  simp only [clauseAt?, Option.bind_eq_bind, Option.bind_eq_some_iff, Option.ite_none_left_eq_some, Option.some.injEq,
    afterBlanks?_eq_some_iff, after?_eq_some_iff]
  constructor
  · intro accepted
    obtain ⟨_, rfl, body, ⟨gap, rfl, blanks⟩, taken, rfl⟩ := accepted
    refine ⟨gap, body.dropWhile isPathChar, ?_, blanks.isGap, run_takeWhile taken, ?_, rfl⟩
    · rw [List.takeWhile_append_dropWhile]
    · rw [blanks.takeWhile]
  · intro stands
    obtain ⟨gap, rest, rfl, blanks, run, start, naming⟩ := stands
    refine ⟨_, rfl, _, ⟨gap, rfl, blanks.run run⟩, ?_⟩
    rw [(blanks.run run).takeWhile, run.takeWhile, run.dropWhile, ← start, ← naming]
    exact ⟨run.nonempty, rfl⟩

theorem startsClause_iff {text : Text} (offset : Nat) :
    StartsClause text ↔ ∃ clause, clauseAt? offset text = some clause := by
  constructor
  · intro starts
    obtain ⟨gap, path, rest, rfl, blanks, nonempty, inside⟩ := starts
    have taken : (path ++ rest).takeWhile isPathChar ≠ [] := by
      rw [List.takeWhile_append_of_pos inside]
      simp [nonempty]
    refine ⟨⟨(path ++ rest).takeWhile isPathChar, offset + width8 importWord + width8 gap,
      aliasAt? ((path ++ rest).dropWhile isPathChar)⟩, clauseAt?_eq_some_iff.mpr ?_⟩
    exact ⟨gap, (path ++ rest).dropWhile isPathChar, by rw [List.takeWhile_append_dropWhile], blanks,
      run_takeWhile taken, rfl, rfl⟩
  · intro accepted
    obtain ⟨clause, found⟩ := accepted
    obtain ⟨gap, rest, rfl, blanks, run, _⟩ := clauseAt?_eq_some_iff.mp found
    exact ⟨gap, clause.path, rest, rfl, blanks, run.nonempty, run.inside⟩

theorem not_startsClause_nil : ¬ StartsClause [] := by
  intro starts
  obtain ⟨gap, path, rest, whole, _⟩ := starts
  simp [importWord] at whole

private theorem not_startsClause {offset : Nat} {text : Text} (missing : clauseAt? offset text = none) :
    ¬ StartsClause text := by
  intro starts
  obtain ⟨clause, found⟩ := (startsClause_iff offset).mp starts
  rw [missing] at found
  cases found

theorem clauseFrom?_isSome_iff {offset : Nat} {text : Text} :
    (clauseFrom? offset text).isSome ↔ ∃ before behind, text = before ++ behind ∧ StartsClause behind := by
  induction text generalizing offset with
  | nil => simp [clauseFrom?, not_startsClause_nil]
  | cons c text ih =>
    rw [clauseFrom?]
    cases found : clauseAt? offset (c :: text) with
    | some clause =>
      simp only [Option.isSome_some, true_iff]
      exact ⟨[], c :: text, rfl, (startsClause_iff offset).mpr ⟨clause, found⟩⟩
    | none =>
      rw [ih]
      constructor
      · intro later
        obtain ⟨before, behind, rfl, starts⟩ := later
        exact ⟨c :: before, behind, rfl, starts⟩
      · intro somewhere
        obtain ⟨before, behind, whole, starts⟩ := somewhere
        cases before with
        | nil => exact absurd (whole ▸ starts) (not_startsClause found)
        | cons d before =>
          obtain ⟨rfl, rfl⟩ := List.cons.inj whole
          exact ⟨before, behind, rfl, starts⟩

private theorem leftmost_cons {c : Char} {text before : Text} (fails : ¬ StartsClause (c :: text)) :
    Leftmost (c :: text) (c :: before) ↔ Leftmost text before := by
  constructor
  · intro first earlier later whole shorter
    exact first (c :: earlier) later (by simp [whole]) (by simpa using shorter)
  · intro first earlier later whole shorter
    cases earlier with
    | nil =>
      cases whole
      exact fails
    | cons d earlier =>
      obtain ⟨rfl, rfl⟩ := List.cons.inj whole
      exact first earlier later rfl (by simpa using shorter)

theorem clauseFrom?_eq_some_iff {offset : Nat} {text : Text} {clause : Clause} :
    clauseFrom? offset text = some clause ↔
      ∃ before behind, text = before ++ behind ∧ Leftmost text before ∧
        clauseAt? (offset + width8 before) behind = some clause := by
  induction text generalizing offset with
  | nil =>
    simp only [clauseFrom?, reduceCtorEq, false_iff]
    intro somewhere
    obtain ⟨before, behind, whole, _, found⟩ := somewhere
    obtain ⟨rfl, rfl⟩ := List.append_eq_nil_iff.mp whole.symm
    exact not_startsClause_nil ((startsClause_iff _).mpr ⟨clause, found⟩)
  | cons c text ih =>
    rw [clauseFrom?]
    cases found : clauseAt? offset (c :: text) with
    | some first =>
      have starts : StartsClause (c :: text) := (startsClause_iff offset).mpr ⟨first, found⟩
      simp only [Option.some.injEq]
      constructor
      · rintro rfl
        exact ⟨[], c :: text, rfl, fun _ _ _ shorter => absurd shorter (Nat.not_lt_zero _), found⟩
      · intro somewhere
        obtain ⟨before, behind, whole, leftmost, chosen⟩ := somewhere
        cases before with
        | nil =>
          cases whole
          exact Option.some.inj (found.symm.trans chosen)
        | cons d before => exact absurd starts (leftmost [] _ rfl (by simp))
    | none =>
      have fails := not_startsClause found
      simp only [ih]
      constructor
      · intro later
        obtain ⟨before, behind, rfl, leftmost, chosen⟩ := later
        refine ⟨c :: before, behind, rfl, (leftmost_cons fails).mpr leftmost, ?_⟩
        rw [← chosen, width8, width, ← Nat.add_assoc, width8]
      · intro somewhere
        obtain ⟨before, behind, whole, leftmost, chosen⟩ := somewhere
        cases before with
        | nil =>
          cases whole
          exact absurd (found.symm.trans chosen) (by simp)
        | cons d before =>
          obtain ⟨rfl, rfl⟩ := List.cons.inj whole
          refine ⟨before, behind, rfl, (leftmost_cons fails).mp leftmost, ?_⟩
          rw [← chosen, width8, width8, width, ← Nat.add_assoc]

theorem clause?_eq_some_iff {line : Text} {clause : Clause} :
    clause? line = some clause ↔ ∃ before gap rest, Stands line clause before gap rest := by
  rw [clause?, clauseFrom?_eq_some_iff]
  constructor
  · intro somewhere
    obtain ⟨before, _, whole, leftmost, found⟩ := somewhere
    obtain ⟨gap, rest, rfl, isGap, path, start, naming⟩ := clauseAt?_eq_some_iff.mp found
    refine ⟨before, gap, rest, whole, leftmost, isGap, path, ?_, ?_⟩
    · rw [start, width8_append, width8_append]
      omega
    · intro name
      rw [naming, aliasAt?_eq_some_iff]
  · intro standing
    obtain ⟨before, gap, rest, stands⟩ := standing
    refine ⟨before, _, stands.whole, stands.leftmost, clauseAt?_eq_some_iff.mpr ?_⟩
    refine ⟨gap, rest, rfl, stands.isGap, stands.path, ?_, ?_⟩
    · rw [stands.start, width8_append, width8_append]
      omega
    · apply Option.ext
      intro name
      rw [stands.naming, aliasAt?_eq_some_iff]

theorem bytes_cons (c : Char) (rest : Text) : bytes (c :: rest) = String.utf8EncodeChar c ++ bytes rest := rfl

theorem length_bytes (text : Text) : (bytes text).length = width8 text := by
  induction text with
  | nil => rfl
  | cons c text ih =>
    rw [bytes_cons, List.length_append, String.length_utf8EncodeChar, ih]
    rfl

theorem bytes_append (front back : Text) : bytes (front ++ back) = bytes front ++ bytes back := List.flatMap_append

theorem fromUTF8?_bytes (text : Text) : String.fromUTF8? ⟨(bytes text).toArray⟩ = some (String.ofList text) := by
  have array : (⟨(bytes text).toArray⟩ : ByteArray) = text.utf8Encode := ByteArray.ext List.data_toByteArray.symm
  have valid : text.utf8Encode.IsValidUTF8 := (String.ofList text).isValidUTF8
  rw [array]
  exact dif_pos valid

theorem bytes_between (front middle back : Text) :
    ((bytes (front ++ (middle ++ back))).take (width8 front + width8 middle)).drop (width8 front) = bytes middle := by
  rw [bytes_append, bytes_append, ← length_bytes, ← length_bytes, List.take_length_add_append, List.take_left,
    List.drop_left]

theorem width8_pos {text : Text} (nonempty : text ≠ []) : 0 < width8 text := by
  obtain ⟨c, text, rfl⟩ := List.exists_cons_of_ne_nil nonempty
  exact Nat.lt_of_lt_of_le c.utf8Size_pos (Nat.le_add_right _ _)

/-- A clause is found on a line exactly if the word `import`, a gap and a character of a path stand there
somewhere. It is then the leftmost one, its path and alias are as long as they can be, and its two offsets
cut the path, and nothing else, out of the bytes of the line. -/
theorem clause?_grammar (line : Text) :
    ((clause? line).isSome ↔ ∃ before behind, line = before ++ behind ∧ StartsClause behind) ∧
      (∀ clause, clause? line = some clause ↔ ∃ before gap rest, Stands line clause before gap rest) ∧
      ∀ clause, clause? line = some clause →
        OnBoundary line clause.start ∧ OnBoundary line clause.stop ∧ clause.start < clause.stop ∧
          clause.stop ≤ width8 line ∧ ((bytes line).take clause.stop).drop clause.start = bytes clause.path := by
  refine ⟨clauseFrom?_isSome_iff, fun clause => clause?_eq_some_iff, ?_⟩
  intro clause found
  obtain ⟨before, gap, rest, stands⟩ := clause?_eq_some_iff.mp found
  have start := stands.start
  have stop : clause.stop = width8 (before ++ (importWord ++ gap)) + width8 clause.path := by rw [Clause.stop, start]
  have cut : line = (before ++ (importWord ++ gap)) ++ (clause.path ++ rest) := by simp [stands.whole]
  rw [start, stop, cut]
  refine ⟨⟨_, _, rfl, rfl⟩, ⟨_, rest, (List.append_assoc _ _ _).symm, (width8_append _ _).symm⟩, ?_, ?_,
    bytes_between _ _ _⟩
  · have positive := width8_pos stands.path.nonempty
    omega
  · rw [width8_append _ (clause.path ++ rest), width8_append clause.path]
    omega

example : clause? "import import as as".toList = some ⟨"import".toList, 7, some "as".toList⟩ := by decide

end QueryNav.Header
