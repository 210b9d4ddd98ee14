import QueryNav.Project.Layout

/-! Where an import leads. An import clause on a line of a document leads to the start of its module's
file, if there is a source folder above the document and the file is in it. Anything that is lacking
means that there is no link; none of it is an error. -/

namespace QueryNav.Project

/-- The way from an import clause to a module's file. -/
structure Link where
  line : Nat
  /-- The byte offset in the line at which the module path starts. -/
  start : Nat
  /-- The byte offset just after the module path. -/
  stop : Nat
  target : Path
  deriving DecidableEq, Repr

/-- The link of the line `text`, which is line `number` of the document at `document`. -/
def resolve? (disk : Disk) (layout : Layout) (document : Path) (number : Nat) (text : Text) : Option Link := do
  let clause ← Header.clause? text
  let start ← document.parent?
  let root ← sourceRoot? disk start layout.sourceDir
  let target := root.join (moduleFile clause.path layout.extension)
  if disk.isFile target then some { line := number, start := clause.start, stop := clause.stop, target } else none

/-- The link of line `number` of a document with these lines. -/
def definition? (disk : Disk) (layout : Layout) (document : Path) (lines : List Text) (number : Nat) :
    Option Link := do
  let text ← lines[number]?
  resolve? disk layout document number text

/-- The paths that can matter for the links of a document with these lines: every place where the
source folder may stand, and every module file seen from there. -/
def probes (layout : Layout) (document : Path) (lines : List Text) : List Path :=
  let roots := ((document.parent?.map Path.ancestors).getD []).map fun folder => folder.join ⟨layout.sourceDir⟩
  let files := (lines.filterMap Header.clause?).map fun clause => moduleFile clause.path layout.extension
  roots ++ roots.flatMap fun root => files.map root.join

end QueryNav.Project
