import QueryNav.CommandLine
import QueryNav.Proofs.JsonPrinting

/-! Reports can be read back from what is printed. The value of a report holds each of its parts under a name of its
own; an alias or a target that is absent is null, and definitions that were not asked for have no field, which is not
the same as an empty list of them. So the value tells the report, and the printed text tells the value. -/

namespace QueryNav.Report

open Json

def natural? : Json → Option Nat
  | .int value => if 0 ≤ value then some value.toNat else none
  | _ => none

/-- A text, or none for null. -/
def nullable? : Json → Option (Option Text)
  | .null => some none
  | .str text => some (some text)
  | _ => none

def statementOf? (json : Json) : Option Header.Statement := do
  let line ← (← json.field? "original").text?
  let path ← (← json.field? "path").text?
  let alias? ← nullable? (← json.field? "alias")
  let number ← natural? (← json.field? "line_number")
  some { line, path, alias?, number }

def resolvedOf? (json : Json) : Option ResolvedImport := do
  let line ← natural? (← json.field? "line")
  let path ← (← json.field? "path").text?
  let target? ← nullable? (← json.field? "target")
  some { line, path, target? }

def listOf? {α : Type} (read? : Json → Option α) (json : Json) : Option (List α) := do
  (← json.items?).mapM read?

def ofJson? (json : Json) : Option Report := do
  let file ← (← json.field? "file").text?
  let imports ← listOf? statementOf? (← json.field? "imports")
  match json.field? "definitions" with
  | none => some { file, imports, definitions? := none }
  | some given =>
    let definitions ← listOf? resolvedOf? given
    some { file, imports, definitions? := some definitions }

/-- The report that a text spells. -/
def decode? (text : Text) : Option Report := (read? text).bind ofJson?

theorem nullable?_ofText? (text? : Option Text) : nullable? (ofText? text?) = some text? := by
  cases text? <;> rfl

theorem natural?_ofNat (number : Nat) : natural? (ofNat number) = some number := by
  simp [natural?, ofNat]

theorem statementOf?_statementJson (statement : Header.Statement) :
    statementOf? (statementJson statement) = some statement := by
  simp [statementOf?, statementJson, List.lookup_cons, text?, nullable?_ofText?, natural?_ofNat]

theorem resolvedOf?_resolvedJson (resolved : ResolvedImport) : resolvedOf? (resolvedJson resolved) = some resolved := by
  simp [resolvedOf?, resolvedJson, List.lookup_cons, text?, nullable?_ofText?, natural?_ofNat]

theorem listOf?_map {α : Type} {read? : Json → Option α} {write : α → Json}
    (reads : ∀ value, read? (write value) = some value) (values : List α) :
    listOf? read? (.arr (values.map write)) = some values := by
  have each : (values.map write).mapM read? = some values := by
    induction values with
    | nil => rfl
    | cons value values ih => simp [reads, ih]
  exact each

theorem ofJson?_toJson (report : Report) : ofJson? report.toJson = some report := by
  obtain ⟨file, imports, definitions?⟩ := report
  have listed := listOf?_map statementOf?_statementJson imports
  cases definitions? with
  | none => simp [ofJson?, toJson, List.lookup_cons, text?, listed]
  | some definitions =>
    have resolved := listOf?_map resolvedOf?_resolvedJson definitions
    simp [ofJson?, toJson, List.lookup_cons, text?, listed, resolved]

theorem proper_ofText? (text? : Option Text) : Proper (ofText? text?) := by
  cases text? with
  | none => exact .null
  | some text => exact .str text

theorem proper_record {fields : List (String × Json)} (each : ∀ field ∈ fields, Proper field.2) :
    Proper (.record fields) := by
  refine .obj ?_
  intro field member
  obtain ⟨named, inside, rfl⟩ := List.mem_map.mp member
  exact each named inside

theorem proper_map {α : Type} {write : α → Json} (each : ∀ value, Proper (write value)) (values : List α) :
    Proper (.arr (values.map write)) := by
  refine .arr ?_
  intro item member
  obtain ⟨value, _, rfl⟩ := List.mem_map.mp member
  exact each value

theorem proper_statementJson (statement : Header.Statement) : Proper (statementJson statement) := by
  apply proper_record
  simp [Proper.str, proper_ofText?, ofNat, Proper.int]

theorem proper_resolvedJson (resolved : ResolvedImport) : Proper (resolvedJson resolved) := by
  apply proper_record
  simp [Proper.str, proper_ofText?, ofNat, Proper.int]

theorem proper_toJson (report : Report) : Proper report.toJson := by
  have imports := proper_map proper_statementJson report.imports
  apply proper_record
  cases report.definitions? with
  | none => simp [Proper.str, imports]
  | some definitions => simp [Proper.str, imports, proper_map proper_resolvedJson definitions]

theorem document_render (report : Report) {behind : Text} (space : AllSpace behind) :
    Document (report.render ++ behind) report.toJson :=
  ((proper_toJson report).spells blank_pretty 0).document space

theorem decode?_render (report : Report) {behind : Text} (space : AllSpace behind) :
    decode? (report.render ++ behind) = some report := by
  rw [decode?, (document_render report space).read?, Option.bind_some, ofJson?_toJson]

theorem render_injective {report other : Report} (same : report.render = other.render) : report = other := by
  have first := decode?_render report allSpace_nil
  rw [same, decode?_render other allSpace_nil] at first
  exact (Option.some.inj first).symm

theorem outcome?_of_report? {disk : Disk} {arguments : List Text} {report : Report}
    (made : CommandLine.report? disk arguments = .ok (some report)) :
    CommandLine.outcome? disk arguments = some ⟨0, report.render ++ ['\n'], []⟩ := by
  rw [CommandLine.outcome?, made]

/-- What is printed for a report is a JSON text of its value, and the report can be read back from it, so no two
reports have the same text. What the program puts out for a report is read back the same. -/
theorem report_told_by_printed_text :
    (∀ report : Report, Document report.render report.toJson ∧ decode? report.render = some report) ∧
      (∀ report other : Report, report.render = other.render → report = other) ∧
      ∀ disk arguments report, CommandLine.report? disk arguments = .ok (some report) →
        ∃ outcome, CommandLine.outcome? disk arguments = some outcome ∧ decode? outcome.output = some report := by
  refine ⟨?_, fun _ _ => render_injective, ?_⟩
  · intro report
    have document := document_render report allSpace_nil
    have decoded := decode?_render report allSpace_nil
    rw [List.append_nil] at document decoded
    exact ⟨document, decoded⟩
  · intro disk arguments report made
    exact ⟨_, outcome?_of_report? made, decode?_render report (by simp [AllSpace])⟩

/-- The line of the import ends with a character of each kind that has to be escaped. -/
theorem report_told_by_printed_text_with_escapes :
    let disk := Disk.empty.addFile ["q".toList] "<head>\nimport a as b\"\\\x01\n</head>".toUTF8
    let arguments : List Text := ["--analyze".toList, "--imports-only".toList, "q".toList]
    let report : Report := ⟨"q".toList, [⟨"import a as b\"\\\x01".toList, "a".toList, some "b".toList, 1⟩], none⟩
    CommandLine.report? disk arguments = .ok (some report) ∧
      ∃ outcome, CommandLine.outcome? disk arguments = some outcome ∧ decode? outcome.output = some report := by
  intro disk arguments report
  have made : CommandLine.report? disk arguments = .ok (some report) := rfl
  obtain ⟨_, _, printed⟩ := report_told_by_printed_text
  exact ⟨made, printed disk arguments report made⟩

example : render ⟨"a\tb".toList, [], some [⟨12, "c".toList, none⟩]⟩ =
    "\x7b\n  \"file\": \"a\\tb\",\n  \"imports\": [],\n  \"definitions\": [\n".toList ++
      "    \x7b\n      \"line\": 12,\n      \"path\": \"c\",\n      \"target\": null\n    \x7d\n  ]\n\x7d".toList := by
  decide +kernel

end QueryNav.Report
