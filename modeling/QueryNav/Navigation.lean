import QueryNav.Buffer
import QueryNav.Project.Definition
import QueryNav.Uri.File

/-! Going from an import to its module in the editor. The whole line of the cursor counts, not its
column. The link that the project gives, in bytes of the line, becomes a range in the editor's columns
and an address; it always leads to the very start of the module. -/

namespace QueryNav

/-- A link as the editor follows it. -/
structure Navigation where
  line : Nat
  /-- The column at which the module path starts. -/
  first : Nat
  /-- The column just after the module path. -/
  last : Nat
  /-- The address of the module. -/
  target : Uri
  deriving DecidableEq, Repr

/-- The link on the cursor's line of the open document `uri`, if there is one. -/
def Navigation.at? (disk : Disk) (layout : Project.Layout) (uri : Uri) (text : Text) (cursor : Position) :
    Option Navigation := do
  let document ← uri.toPath?
  let lines := Buffer.lines text
  let link ← Project.definition? disk layout document lines cursor.line
  let line ← lines[cursor.line]?
  let target ← Uri.ofPath? link.target
  some { line := cursor.line, first := Text.column16 line link.start, last := Text.column16 line link.stop, target }

end QueryNav
