import Mathlib.Data.List.Basic
import QueryNav.Completion
import QueryNav.Proofs.Lines
import QueryNav.Report

/-! The two views of a document. A file is cut into lines break by break; an open document keeps its breaks
and strips them from a row when a line is asked for. The lines are the same, so nothing that is computed
from them depends on the view: a report on a file says what the editor shows in it. -/

namespace QueryNav

open Text

theorem Buffer.lines_eq (text : Text) : Buffer.lines text = text.lines := map_content_rows text

theorem Report.resolvedAll_eq (disk : Disk) (layout : Project.Layout) (document : Path) (lines : List Text) :
    resolvedAll disk layout document lines = lines.zipIdx.filterMap fun (line, number) =>
      (Header.clause? line).map fun clause =>
        ⟨number, clause.path,
          (Project.definition? disk layout document lines number).map fun link => link.target.text⟩ := by
  apply List.filterMap_congr
  intro numbered member
  obtain ⟨line, number⟩ := numbered
  have present : lines[number]? = some line := List.mem_zipIdx_iff_getElem?.mp member
  simp [resolved?, Project.definition?, present]

/-- The lines of a file and of an open document with its text are the same in number and one by one, and so
are the imports, the suggestions and the links that come from them. What is reported about a file with this
text is what an editor that has it open is told: its header's imports and, unless only these are wanted, every
line with an import clause and where the link of that line leads. -/
theorem views_agree (text : Text) :
    (Buffer.lines text).length = text.lines.length ∧
      (∀ number : Nat, (Buffer.lines text)[number]? = text.lines[number]?) ∧
      Header.scan (Buffer.lines text) = Header.scan text.lines ∧
      (∀ importReferences before, Suggestion.complete importReferences (Buffer.lines text) before =
        Suggestion.complete importReferences text.lines before) ∧
      (∀ disk layout document number, Project.definition? disk layout document (Buffer.lines text) number =
        Project.definition? disk layout document text.lines number) ∧
      ∀ disk settings importsOnly path absolute,
        disk.canonical path = .ok absolute → disk.readText absolute = .ok text →
        ∃ report, Report.analyze disk settings importsOnly path = .ok report ∧
          report.imports = Header.scan (Buffer.lines text) ∧
          report.definitions? = if importsOnly then none else
            some ((Buffer.lines text).zipIdx.filterMap fun (line, number) =>
              (Header.clause? line).map fun clause =>
                ⟨number, clause.path, (Project.definition? disk settings.layout absolute (Buffer.lines text)
                  number).map fun link => link.target.text⟩) := by
  have same := Buffer.lines_eq text
  refine ⟨by rw [same], fun number => by rw [same], by rw [same], fun _ _ => by rw [same],
    fun _ _ _ _ => by rw [same], ?_⟩
  intro disk settings importsOnly path absolute found read
  refine ⟨_, Report.analyze_eq_ok_iff.mpr ⟨absolute, text, found, read, rfl⟩, by rw [same], ?_⟩
  rw [same, ← Report.resolvedAll_eq]

end QueryNav
