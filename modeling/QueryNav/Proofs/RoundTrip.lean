import QueryNav.Completion
import QueryNav.Proofs.Concatenation
import QueryNav.Proofs.Markers
import QueryNav.Proofs.Trimming

/-! Headers that are written and read again. A header can be written in many ways: every gap may be any white
space that stays on its line, lines may be indented and go on after the last word, and every line may end in its
own way. Whatever is chosen, each import is on a line of its own that holds no marker, trimming gives its words
back, and the words have only one reading. The search therefore finds the imports that were written, and nothing
that follows the header. -/

namespace QueryNav.Text

/-- The three ways in which a line may end. -/
inductive LineEnd where
  | feed
  | pair
  | carriage
  deriving DecidableEq, Repr

def LineEnd.text : LineEnd → Text
  | .feed => ['\n']
  | .pair => ['\r', '\n']
  | .carriage => ['\r']

theorem LineEnd.ends {rest : Text} (apart : rest.head? ≠ some '\n') (ending : LineEnd) : Ends ending.text rest := by
  cases ending with
  | feed => exact .feed
  | pair => exact .pair
  | carriage => exact .carriage apart

/-- White space that stays on its line. -/
def isSpace (c : Char) : Bool := isBlank c && !isBreak c

/-- A text of characters of one class, with at least one of them. -/
structure Word (within : Char → Bool) where
  text : Text
  nonempty : text ≠ []
  inside : ∀ c ∈ text, within c = true

end QueryNav.Text

namespace QueryNav.Header

open Text

/-- An import as it is meant: a module path and possibly a name for the module. -/
structure Entry where
  path : Word isPathChar
  alias? : Option (Word isNameChar)

/-- The white space on the line of an import, and the end of that line. -/
structure Spacing where
  indent : { text : Text // ∀ c ∈ text, isSpace c = true }
  beforePath : Word isSpace
  beforeAs : Word isSpace
  beforeAlias : Word isSpace
  trailing : { text : Text // ∀ c ∈ text, isSpace c = true }
  ending : LineEnd

namespace Entry

def naming (entry : Entry) (spacing : Spacing) : Text :=
  match entry.alias? with
  | some name => spacing.beforeAs.text ++ (asWord ++ (spacing.beforeAlias.text ++ name.text))
  | none => []

/-- An import from its first word to its last. -/
def words (entry : Entry) (spacing : Spacing) : Text :=
  importWord ++ (spacing.beforePath.text ++ (entry.path.text ++ entry.naming spacing))

/-- The line of an import, without its end. -/
def line (entry : Entry) (spacing : Spacing) : Text :=
  spacing.indent.val ++ (entry.words spacing ++ spacing.trailing.val)

def statement (entry : Entry) (spacing : Spacing) (number : Nat) : Statement :=
  ⟨entry.words spacing, entry.path.text, entry.alias?.map Word.text, number⟩

end Entry

def openingMarker : Text := ['<', 'h', 'e', 'a', 'd', '>']

def closingMarker : Text := ['<', '/', 'h', 'e', 'a', 'd', '>']

/-- The lines of some imports, in front of `later`. -/
def layOut (later : Text) : List (Entry × Spacing) → Text
  | [] => later
  | (entry, spacing) :: entries => entry.line spacing ++ (spacing.ending.text ++ layOut later entries)

/-- What follows the header: nothing, or any text behind the end of its last line. -/
def afterHeader : Option (LineEnd × Text) → Text
  | some (closing, body) => closing.text ++ body
  | none => []

/-- A query whose header holds the given imports, one on each line. -/
def document (opening : LineEnd) (entries : List (Entry × Spacing)) (body? : Option (LineEnd × Text)) : Text :=
  openingMarker ++ (opening.text ++ layOut (closingMarker ++ afterHeader body?) entries)

theorem isBlank_of_isSpace {c : Char} (space : isSpace c = true) : isBlank c = true :=
  (Bool.and_eq_true_iff.mp space).1

/-- The characters of which the lines of imports consist. -/
def isWritten (c : Char) : Bool := isSpace c || isPathChar c

private theorem isWritten_of_isSpace {c : Char} (space : isSpace c = true) : isWritten c = true := by
  simp [isWritten, space]

private theorem isWritten_of_isPathChar {c : Char} (path : isPathChar c = true) : isWritten c = true := by
  simp [isWritten, path]

theorem isBreak_of_isWritten {c : Char} (written : isWritten c = true) : isBreak c = false := by
  rw [Bool.eq_false_iff]
  intro breaks
  obtain rfl | rfl : c = '\n' ∨ c = '\r' := by simpa [isBreak] using breaks
  · exact absurd written (by decide)
  · exact absurd written (by decide)

theorem Entry.written_naming (entry : Entry) (spacing : Spacing) :
    ∀ c ∈ entry.naming spacing, isWritten c = true := by
  unfold naming
  split
  next name _ =>
    simp only [List.forall_mem_append]
    exact ⟨fun c member => isWritten_of_isSpace (spacing.beforeAs.inside c member), List.all_eq_true.mp rfl,
      fun c member => isWritten_of_isSpace (spacing.beforeAlias.inside c member),
      fun c member => isWritten_of_isPathChar (isPathChar_of_isNameChar (name.inside c member))⟩
  next => simp

theorem Entry.written_line (entry : Entry) (spacing : Spacing) :
    ∀ c ∈ entry.line spacing, isWritten c = true := by
  simp only [line, words, List.forall_mem_append]
  exact ⟨fun c member => isWritten_of_isSpace (spacing.indent.property c member),
    ⟨List.all_eq_true.mp rfl, fun c member => isWritten_of_isSpace (spacing.beforePath.inside c member),
      fun c member => isWritten_of_isPathChar (entry.path.inside c member), entry.written_naming spacing⟩,
    fun c member => isWritten_of_isSpace (spacing.trailing.property c member)⟩

theorem Entry.getLast?_words {entry : Entry} {spacing : Spacing} {c : Char}
    (last : (entry.words spacing).getLast? = some c) : isPathChar c = true := by
  rw [words, naming] at last
  split at last
  next name _ =>
    have ending := List.getLast?_eq_some_getLast name.nonempty
    simp only [List.getLast?_append, ending, Option.some_or, Option.some.injEq] at last
    exact isPathChar_of_isNameChar (name.inside c (last ▸ List.getLast_mem name.nonempty))
  next =>
    have ending := List.getLast?_eq_some_getLast entry.path.nonempty
    simp only [List.getLast?_append, List.append_nil, ending, Option.some_or, Option.some.injEq] at last
    exact entry.path.inside c (last ▸ List.getLast_mem entry.path.nonempty)

theorem Entry.trim_line (entry : Entry) (spacing : Spacing) : trim (entry.line spacing) = entry.words spacing := by
  apply trim_append
  · exact fun c member => isBlank_of_isSpace (spacing.indent.property c member)
  · exact fun c member => isBlank_of_isSpace (spacing.trailing.property c member)
  · simp [words, importWord]
  · intro c first
    obtain rfl : 'i' = c := Option.some.inj first
    decide
  · exact fun c last => isBlank_eq_false (Entry.getLast?_words last)

private theorem Word.isGap (word : Word isSpace) : IsGap word.text :=
  ⟨word.nonempty, fun c member => isBlank_of_isSpace (word.inside c member)⟩

private theorem Entry.run_path (entry : Entry) (spacing : Spacing) :
    Run isPathChar entry.path.text (entry.naming spacing) := by
  refine ⟨entry.path.nonempty, entry.path.inside, ?_⟩
  intro c first
  rw [naming] at first
  split at first
  next name _ =>
    have leading := List.head?_eq_some_head spacing.beforeAs.nonempty
    rw [List.head?_append, leading, Option.some_or, Option.some.injEq] at first
    have blank := isBlank_of_isSpace (spacing.beforeAs.inside c (first ▸ List.head_mem spacing.beforeAs.nonempty))
    rw [Bool.eq_false_iff]
    intro path
    exact absurd blank (by simp [isBlank_eq_false path])
  next => cases first

private theorem Entry.aliasAt?_naming (entry : Entry) (spacing : Spacing) :
    aliasAt? (entry.naming spacing) = entry.alias?.map Word.text := by
  unfold naming
  split
  next name named =>
    rw [named, Option.map_some, aliasAt?_eq_some_iff]
    have last : Run isNameChar name.text [] := ⟨name.nonempty, name.inside, by simp⟩
    exact ⟨spacing.beforeAs.text, spacing.beforeAlias.text, [], by rw [List.append_nil], Word.isGap _,
      Word.isGap _, last⟩
  next unnamed =>
    rw [unnamed]
    rfl

theorem Entry.clause?_words (entry : Entry) (spacing : Spacing) :
    clause? (entry.words spacing) = some ⟨entry.path.text, width8 importWord + width8 spacing.beforePath.text,
      entry.alias?.map Word.text⟩ := by
  apply clauseFrom?_eq_some_iff.mpr
  refine ⟨[], _, rfl, fun _ _ _ shorter => absurd shorter (Nat.not_lt_zero _), clauseAt?_eq_some_iff.mpr ?_⟩
  refine ⟨_, _, rfl, Word.isGap _, entry.run_path spacing, ?_, (entry.aliasAt?_naming spacing).symm⟩
  simp [width8, width]

theorem statement?_words (entry : Entry) (spacing : Spacing) (number : Nat) :
    statement? number (entry.words spacing) = some (entry.statement spacing number) := by
  rw [statement?, entry.clause?_words]
  rfl

theorem Entry.bracket_not_mem_words (entry : Entry) (spacing : Spacing) : '<' ∉ entry.words spacing := by
  intro member
  have inside : '<' ∈ entry.line spacing := List.mem_append_right _ (List.mem_append_left _ member)
  exact absurd (entry.written_line spacing '<' inside) (by decide)

/-- The imports that are written on some lines are found there, up to the line that closes the header. -/
theorem scanFrom_lines (entries : List (Entry × Spacing)) (number : Nat) (later : List Text) :
    scanFrom true number (entries.map (fun (entry, spacing) => entry.line spacing) ++ closingMarker :: later) =
      entries.mapIdx fun index (entry, spacing) => entry.statement spacing (number + index) := by
  induction entries generalizing number with
  | nil =>
    have unopened : opens (trim closingMarker) = false := by decide
    have closed : closes (trim closingMarker) = true := by decide
    simp [scanFrom, unopened, closed]
  | cons first entries ih =>
    obtain ⟨entry, spacing⟩ := first
    have absent := entry.bracket_not_mem_words spacing
    simp only [List.map_cons, List.cons_append, scanFrom, entry.trim_line, opens_eq_false absent,
      closes_eq_false absent, statement?_words, ih, List.mapIdx_cons, Nat.add_right_comm number 1]
    rfl

theorem head?_layOut {later : Text} (apart : later.head? ≠ some '\n') (entries : List (Entry × Spacing)) :
    (layOut later entries).head? ≠ some '\n' := by
  cases entries with
  | nil => exact apart
  | cons first entries =>
    obtain ⟨entry, spacing⟩ := first
    have nonempty : entry.line spacing ≠ [] := by simp [Entry.line, Entry.words, importWord]
    intro feed
    rw [layOut, List.head?_append, List.head?_eq_some_head nonempty, Option.some_or, Option.some.injEq] at feed
    exact absurd (entry.written_line spacing '\n' (feed ▸ List.head_mem nonempty)) (by decide)

theorem lines_layOut {later : Text} (apart : later.head? ≠ some '\n') (entries : List (Entry × Spacing)) :
    lines (layOut later entries) = entries.map (fun (entry, spacing) => entry.line spacing) ++ lines later := by
  induction entries with
  | nil => rfl
  | cons first entries ih =>
    obtain ⟨entry, spacing⟩ := first
    have unbroken : Unbroken (entry.line spacing) := fun c member =>
      isBreak_of_isWritten (entry.written_line spacing c member)
    rw [layOut, lines_append_mark unbroken (LineEnd.ends (head?_layOut apart entries) spacing.ending), ih]
    rfl

private theorem lines_closing (body? : Option (LineEnd × Text)) :
    ∃ later, lines (closingMarker ++ afterHeader body?) = closingMarker :: later := by
  cases body? with
  | none => exact ⟨[], by decide⟩
  | some behind =>
    obtain ⟨closing, body⟩ := behind
    have closed : lines (closingMarker ++ closing.text) = [closingMarker, []] := by cases closing <;> decide
    obtain ⟨later, _, whole⟩ := lines_append_front (closingMarker ++ closing.text) body
    exact ⟨later, by rw [afterHeader, ← List.append_assoc, whole, closed]; rfl⟩

theorem scan_lines_document (opening : LineEnd) (entries : List (Entry × Spacing)) (body? : Option (LineEnd × Text)) :
    scan (lines (document opening entries body?)) =
      entries.mapIdx fun index (entry, spacing) => entry.statement spacing (1 + index) := by
  have unbroken : Unbroken openingMarker := by simp [Unbroken, openingMarker, isBreak]
  have opened : opens (trim openingMarker) = true := by decide
  obtain ⟨later, closed⟩ := lines_closing body?
  rw [document, lines_append_mark unbroken (LineEnd.ends (head?_layOut (by simp [closingMarker]) entries) opening),
    lines_layOut (by simp [closingMarker]), closed, scan, scanFrom, if_pos opened, scanFrom_lines]

private theorem flatMap_ofStatement (entries : List (Entry × Spacing)) (number : Nat) :
    (entries.mapIdx fun index (entry, spacing) => entry.statement spacing (number + index)).flatMap
        Suggestion.ofStatement =
      entries.flatMap fun (entry, _) => Suggestion.ofModule entry.path.text entry.path.text ::
        entry.alias?.toList.map fun name => Suggestion.ofModule name.text entry.path.text := by
  induction entries generalizing number with
  | nil => rfl
  | cons first entries ih =>
    obtain ⟨⟨path, alias?⟩, spacing⟩ := first
    have others := ih (number + 1)
    simp only [List.mapIdx_cons, List.flatMap_cons, Nat.add_right_comm number 1] at others ⊢
    rw [← others]
    cases alias? <;> rfl

/-- The imports that are written into the header of a query are found there again: all of them, in their order,
the first on line one, and none from what follows the header. Behind the trigger, each of them is offered by its
path and, if it has one, by its alias. -/
theorem scan_of_written_header (opening : LineEnd) (entries : List (Entry × Spacing))
    (body? : Option (LineEnd × Text)) :
    (scan (document opening entries body?).lines = entries.mapIdx fun index (entry, spacing) =>
        ⟨entry.words spacing, entry.path.text, entry.alias?.map Word.text, index + 1⟩) ∧
      ∀ before, Suggestion.assemble (document opening entries body?).lines (before ++ [Dialect.trigger]) =
        Suggestion.keywords ++ entries.flatMap fun (entry, _) =>
          ⟨'\x7b' :: entry.path.text, .module, "Module: ".toList ++ entry.path.text⟩ ::
            entry.alias?.toList.map fun name =>
              ⟨'\x7b' :: name.text, .module, "Module: ".toList ++ entry.path.text⟩ := by
  have found := scan_lines_document opening entries body?
  constructor
  · simpa only [Entry.statement, Nat.add_comm 1] using found
  · intro before
    rw [Suggestion.assemble, if_pos (by simp), found, flatMap_ofStatement]
    rfl

example :
    let spacing : Spacing := ⟨⟨"\u2003".toList, List.all_eq_true.mp rfl⟩,
      ⟨"\t".toList, nofun, List.all_eq_true.mp rfl⟩, ⟨"\u2028 ".toList, nofun, List.all_eq_true.mp rfl⟩,
      ⟨"\x0b".toList, nofun, List.all_eq_true.mp rfl⟩, ⟨" ".toList, List.all_eq_true.mp rfl⟩, .pair⟩
    let entry : Entry := ⟨⟨"import".toList, nofun, List.all_eq_true.mp rfl⟩,
      some ⟨"as".toList, nofun, List.all_eq_true.mp rfl⟩⟩
    document .carriage [(entry, spacing)] (some (.carriage, "\n<head>\nimport x".toList)) =
      "<head>\r\u2003import\timport\u2028 as\x0bas \r\n</head>\r\n<head>\nimport x".toList := by decide

end QueryNav.Header
