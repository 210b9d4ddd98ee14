import QueryNav.Capability
import QueryNav.Json.Printer

/-! The report on one file: the imports of its header and, unless only those are wanted, every line with
an import clause and the file it leads to. The path is resolved first, since the search for the source
folder has to start from an absolute one; the report names the file as it was asked for. -/

namespace QueryNav

/-- A line with an import clause, and where it leads. -/
structure ResolvedImport where
  line : Nat
  path : Text
  target? : Option Text
  deriving DecidableEq, Repr

structure Report where
  file : Text
  imports : List Header.Statement
  definitions? : Option (List ResolvedImport)
  deriving DecidableEq, Repr

namespace Report

inductive Failure where
  | unresolved (path : Path) (fault : Fault)
  | unreadable (path : Path) (fault : Fault)
  deriving DecidableEq, Repr

/-- The wording of a failure, its cause last. -/
def Failure.message : Failure → Text
  | .unresolved path fault =>
    "Failed to resolve path '".toList ++ path.text ++ "': ".toList ++ fault.message.toList
  | .unreadable path fault =>
    "Failed to read file '".toList ++ path.text ++ "': ".toList ++ fault.message.toList

def load (disk : Disk) (path : Path) : Except Failure Text :=
  match disk.readText path with
  | .ok text => .ok text
  | .error fault => .error (.unreadable path fault)

/-- The import on line `number` of the document at `document`, with the file it leads to. -/
def resolved? (disk : Disk) (layout : Project.Layout) (document : Path) (number : Nat) (line : Text) :
    Option ResolvedImport :=
  (Header.clause? line).map fun clause =>
    { line := number
      path := clause.path
      target? := (Project.resolve? disk layout document number line).map fun link => link.target.text }

def resolvedAll (disk : Disk) (layout : Project.Layout) (document : Path) (lines : List Text) :
    List ResolvedImport :=
  lines.zipIdx.filterMap fun (line, number) => resolved? disk layout document number line

def analyze (disk : Disk) (settings : Settings) (importsOnly : Bool) (path : Path) : Except Failure Report :=
  match disk.canonical path with
  | .error fault => .error (.unresolved path fault)
  | .ok absolute => do
    let text ← load disk absolute
    let lines := text.lines
    let definitions? := if importsOnly then none else some (resolvedAll disk settings.finder.layout absolute lines)
    .ok { file := path.text, imports := Header.scan lines, definitions? }

/-- There is a report exactly if the path leads to a file that holds a text, and it is made from that text. -/
theorem analyze_eq_ok_iff {disk : Disk} {settings : Settings} {importsOnly : Bool} {path : Path} {report : Report} :
    analyze disk settings importsOnly path = .ok report ↔
      ∃ absolute text, disk.canonical path = .ok absolute ∧ disk.readText absolute = .ok text ∧
        report = { file := path.text, imports := Header.scan text.lines
                   definitions? := if importsOnly then none
                     else some (resolvedAll disk settings.layout absolute text.lines) } := by
  constructor
  · intro given
    unfold analyze at given
    split at given
    · cases given
    next absolute found =>
      cases read : disk.readText absolute with
      | error fault => simp [load, read, bind, Except.bind] at given
      | ok text =>
        simp only [load, read, bind, Except.bind, Except.ok.injEq] at given
        exact ⟨absolute, text, found, read, given.symm⟩
  · intro readable
    obtain ⟨absolute, text, found, read, rfl⟩ := readable
    simp [analyze, found, load, read, bind, Except.bind, Settings.finder]

def statementJson (statement : Header.Statement) : Json :=
  .record [("original", .str statement.line), ("path", .str statement.path),
    ("alias", .ofText? statement.alias?), ("line_number", .ofNat statement.number)]

def resolvedJson (resolved : ResolvedImport) : Json :=
  .record [("line", .ofNat resolved.line), ("path", .str resolved.path), ("target", .ofText? resolved.target?)]

/-- The report as a value. The definitions are left out when they were not asked for. -/
def toJson (report : Report) : Json :=
  .record ([("file", .str report.file), ("imports", .arr (report.imports.map statementJson))] ++
    match report.definitions? with
    | some definitions => [("definitions", .arr (definitions.map resolvedJson))]
    | none => [])

def render (report : Report) : Text := report.toJson.print .pretty

end Report

end QueryNav
