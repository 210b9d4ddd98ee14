import QueryNav.Disk
import QueryNav.Header.Clause

/-! How a project is laid out. Its modules are files below a source folder, which stands in the folder
of a query or in one of the folders above it; the nearest one counts. A module path leads from there
to a file, a dot of the path being a step down into a folder. -/

namespace QueryNav.Project

/-- The layout of a project: the name of its source folder and the extension of its module files. -/
structure Layout where
  sourceDir : Text
  extension : Text
  deriving DecidableEq, Repr

/-- The layout of a project that says nothing else. -/
def Layout.standard : Layout := ⟨['s', 'r', 'c'], ['e', 'z', 's', 'q', 'l']⟩

/-- The file of a module, seen from the source folder. -/
def moduleFile (modulePath extension : Text) : Path :=
  ⟨Text.replace '.' '/' modulePath ++ '.' :: extension⟩

/-- The source folder nearest to `start`, searched in `start` itself and then upward. A path without a
parent, such as the top of the tree, is not searched. -/
def sourceRoot? (disk : Disk) (start : Path) (sourceDir : Text) : Option Path :=
  match _found : start.parent? with
  | some parent =>
    if disk.isFolder (start.join ⟨sourceDir⟩) then some (start.join ⟨sourceDir⟩)
    else sourceRoot? disk parent sourceDir
  | none => none
termination_by start.text.length
decreasing_by exact Path.length_parent?_lt _found

end QueryNav.Project
