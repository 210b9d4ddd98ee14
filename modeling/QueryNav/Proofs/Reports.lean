import QueryNav.Proofs.Trimming
import QueryNav.Report

/-! The two lists of a report. The imports come from the header, whose lines are trimmed before they are read;
the definitions come from all lines as they are. Since trimming never changes the clause of a line, every import
of the header has its definition, with the same line and the same path, and the definitions between them are
those of the lines outside the header. -/

namespace QueryNav.Report

open Text Header

/-- The lines with a clause, counted from `number`, each with the path of its clause. -/
def located (number : Nat) (lines : List Text) : List (Nat × Text) :=
  (lines.zipIdx number).filterMap fun (line, number) => (clause? line).map fun clause => (number, clause.path)

theorem located_cons (number : Nat) (line : Text) (lines : List Text) :
    located number (line :: lines) =
      ((clause? line).map fun clause => (number, clause.path)).toList ++ located (number + 1) lines := by
  simp only [located, List.zipIdx_cons, List.filterMap_cons]
  cases clause? line <;> rfl

private theorem map_statement?_trim (number : Nat) (raw : Text) :
    (statement? number (trim raw)).toList.map (fun statement => (statement.number, statement.path)) =
      ((clause? raw).map fun clause => (number, clause.path)).toList := by
  rw [clause?_eq_shift_trim raw, statement?]
  cases clause? (trim raw) <;> rfl

theorem scanFrom_sublist_located (inside : Bool) (number : Nat) (lines : List Text) :
    ((scanFrom inside number lines).map fun statement => (statement.number, statement.path)).Sublist
      (located number lines) := by
  induction lines generalizing inside number with
  | nil => exact List.Sublist.refl _
  | cons raw lines ih =>
    rw [scanFrom, located_cons]
    split
    · exact (ih true (number + 1)).trans (List.sublist_append_right _ _)
    · split
      · exact List.nil_sublist _
      · split
        · rw [List.map_append, map_statement?_trim]
          exact (List.Sublist.refl _).append (ih true (number + 1))
        · exact (ih false (number + 1)).trans (List.sublist_append_right _ _)

theorem map_resolvedAll (disk : Disk) (layout : Project.Layout) (document : Path) (lines : List Text) :
    (resolvedAll disk layout document lines).map (fun entry => (entry.line, entry.path)) = located 0 lines := by
  rw [resolvedAll, List.map_filterMap, located]
  congr 1
  funext item
  simp only [resolved?, Option.map_map]
  rfl

/-- The entry is about a line with a clause: it has the path of the clause and leads where its link leads. -/
def Describes (disk : Disk) (layout : Project.Layout) (document : Path) (lines : List Text)
    (entry : ResolvedImport) : Prop :=
  ∃ line clause, lines[entry.line]? = some line ∧ clause? line = some clause ∧ entry.path = clause.path ∧
    entry.target? = (Project.resolve? disk layout document entry.line line).map fun link => link.target.text

theorem mem_resolvedAll_iff {disk : Disk} {layout : Project.Layout} {document : Path} {lines : List Text}
    {entry : ResolvedImport} :
    entry ∈ resolvedAll disk layout document lines ↔ Describes disk layout document lines entry := by
  constructor
  · intro member
    obtain ⟨⟨line, number⟩, listed, found⟩ := List.mem_filterMap.mp member
    obtain ⟨clause, named, rfl⟩ := Option.map_eq_some_iff.mp found
    exact ⟨line, clause, List.mem_zipIdx_iff_getElem?.mp listed, named, rfl, rfl⟩
  · intro described
    obtain ⟨line, clause, present, named, path, target⟩ := described
    refine List.mem_filterMap.mpr ⟨(line, entry.line), List.mem_zipIdx_iff_getElem?.mpr present, ?_⟩
    exact Option.map_eq_some_iff.mpr ⟨clause, named, by rw [← path, ← target]⟩

theorem resolvedAll_increasing (disk : Disk) (layout : Project.Layout) (document : Path) (lines : List Text) :
    (resolvedAll disk layout document lines).Pairwise fun earlier later => earlier.line < later.line := by
  have numbered : lines.zipIdx.Pairwise fun earlier later => earlier.2 < later.2 := by
    apply List.pairwise_map.mp
    rw [List.zipIdx_map_snd]
    exact List.pairwise_lt_range'
  apply numbered.filterMap
  rintro ⟨line, number⟩ ⟨other, behind⟩ before entry found later also
  obtain ⟨_, _, rfl⟩ := Option.map_eq_some_iff.mp found
  obtain ⟨_, _, rfl⟩ := Option.map_eq_some_iff.mp also
  exact before

/-- The definitions of a report are the lines of the file with a clause, each once and in their order, with the
path of the clause and the target of its link; the imports are some of them, in the same order. This is so because
a line has a clause exactly if its trimmed form has one, with the same path and alias, and at offsets that
differ by the bytes of the blanks in front. -/
theorem lists_agree :
    (∀ disk settings path report, analyze disk settings false path = .ok report →
      ∃ document text definitions, disk.canonical path = .ok document ∧ disk.readText document = .ok text ∧
        report.definitions? = some definitions ∧
        (definitions.Pairwise fun earlier later => earlier.line < later.line) ∧
        (∀ entry, entry ∈ definitions ↔ Describes disk settings.layout document text.lines entry) ∧
        (report.imports.map fun statement => (statement.number, statement.path)).Sublist
          (definitions.map fun entry => (entry.line, entry.path))) ∧
      ∀ line, (clause? (trim line) = none ↔ clause? line = none) ∧
        ∀ clause, clause? (trim line) = some clause → ∃ moved, clause? line = some moved ∧
          moved.path = clause.path ∧ moved.alias? = clause.alias? ∧
          moved.start = clause.start + width8 (line.takeWhile isBlank) ∧
          moved.stop = clause.stop + width8 (line.takeWhile isBlank) := by
  constructor
  · intro disk settings path report given
    obtain ⟨document, text, found, read, rfl⟩ := analyze_eq_ok_iff.mp given
    refine ⟨document, text, _, found, read, rfl, resolvedAll_increasing _ _ _ _, fun _ => mem_resolvedAll_iff, ?_⟩
    rw [map_resolvedAll]
    exact scanFrom_sublist_located false 0 text.lines
  · intro line
    rw [clause?_eq_shift_trim line]
    refine ⟨Option.map_eq_none_iff.symm, ?_⟩
    intro clause found
    exact ⟨clause.shift _, by rw [found, Option.map_some], rfl, rfl, rfl, clause.stop_shift _⟩

/-- A header import between blanks that are two bytes wide and not, with its file, and an import behind the
header without one. -/
theorem lists_agree_on_padded_imports :
    let disk := (Disk.empty.addFile ["p".toList, "src".toList, "a.ezsql".toList] .empty).addFile
      ["p".toList, "q".toList] "<head>\n\u00a0import a as b\t\n</head>\r import c".toUTF8
    let definitions : List ResolvedImport :=
      [⟨1, "a".toList, some "/p/src/a.ezsql".toList⟩, ⟨3, "c".toList, none⟩]
    let report : Report :=
      ⟨"/p/./q".toList, [⟨"import a as b".toList, "a".toList, some "b".toList, 1⟩], some definitions⟩
    analyze disk .standard false ⟨"/p/./q".toList⟩ = .ok report ∧
      (definitions.Pairwise fun earlier later => earlier.line < later.line) ∧
      (report.imports.map fun statement => (statement.number, statement.path)).Sublist
        (definitions.map fun entry => (entry.line, entry.path)) ∧
      ∃ moved, clause? "\u00a0import a as b\t".toList = some moved ∧ moved.path = "a".toList ∧
        moved.start = 7 + 2 ∧ moved.stop = 8 + 2 := by
  intro disk definitions report
  have given : analyze disk .standard false ⟨"/p/./q".toList⟩ = .ok report := by
    have computed : (analyze disk .standard false ⟨"/p/./q".toList⟩).toOption = some report := by decide +kernel
    cases outcome : analyze disk .standard false ⟨"/p/./q".toList⟩ with
    | ok found =>
      rw [outcome] at computed
      exact congrArg Except.ok (Option.some.inj computed)
    | error failure =>
      rw [outcome] at computed
      cases computed
  obtain ⟨agree, law⟩ := lists_agree
  obtain ⟨_, _, _, _, _, listed, increasing, _, among⟩ := agree disk .standard _ report given
  cases listed
  have trimmed : clause? (trim "\u00a0import a as b\t".toList) = some ⟨"a".toList, 7, some "b".toList⟩ := by decide
  obtain ⟨moved, found, path, _, start, stop⟩ := (law "\u00a0import a as b\t".toList).2 _ trimmed
  exact ⟨given, increasing, among, moved, found, path, start.trans (by decide), stop.trans (by decide)⟩

end QueryNav.Report
