import QueryNav.Json.Value
import QueryNav.Project.Layout
import QueryNav.Text.Blank

/-! What the client can set. A section of the client's settings has three groups with four values, all
of them optional. A group, like the section itself, is written as an object, in which unknown names mean
nothing, or as an array with the values in their order, in which values at the end may be left out. A
value may be null, which is as good as absent; a group may not. The settings made from a section depend
on nothing but that section: a value that is absent, or a blank name, has its standard. -/

namespace QueryNav

open Text

/-- The values of a settings section that are present. -/
structure Section where
  imports? : Option Bool
  enabled? : Option Bool
  sourceDir? : Option Text
  extension? : Option Text
  deriving DecidableEq, Repr

namespace Section

open Json (optional?)

def flag? : Json → Option Bool
  | .bool value => some value
  | _ => none

/-- The value of a group with the single member `name`; a group that is absent has no value. -/
def single? (name : String) : Option Json → Option (Option Bool)
  | none => some none
  | some json =>
    match json.members? 0 [name] with
    | some [member] => optional? flag? member
    | _ => none

/-- The values of the group that describes the project; a group that is absent has none. -/
def project? : Option Json → Option (Option Text × Option Text)
  | none => some (none, none)
  | some json =>
    match json.members? 0 ["sourceDir", "fileExtension"] with
    | some [sourceDir, extension] => do
      let sourceDir ← optional? Json.text? sourceDir
      let extension ← optional? Json.text? extension
      some (sourceDir, extension)
    | _ => none

/-- The section that a value spells, if it is well formed. -/
def ofJson? (json : Json) : Option Section :=
  match json.members? 0 ["completion", "definition", "project"] with
  | some [completion, definition, project] => do
    let imports ← single? "imports" completion
    let enabled ← single? "enabled" definition
    let names ← project? project
    some ⟨imports, enabled, names.1, names.2⟩
  | _ => none

end Section

/-- What the language server and the report go by. -/
structure Settings where
  /-- Whether import references are suggested. -/
  importCompletion : Bool
  /-- Whether the editor is told where imports lead. -/
  definitionEnabled : Bool
  layout : Project.Layout
  deriving DecidableEq, Repr

namespace Settings

/-- The settings of a client that sets nothing. -/
def standard : Settings := ⟨true, true, .standard⟩

/-- A name that is present and not blank. -/
def named? (name? : Option Text) : Option Text :=
  name?.filter fun name => trim name ≠ []

/-- The settings of a section. The dots at the front of an extension are dropped. -/
def ofSection (sect : Section) : Settings where
  importCompletion := sect.imports?.getD true
  definitionEnabled := sect.enabled?.getD true
  layout :=
    { sourceDir := (named? sect.sourceDir?).getD Project.Layout.standard.sourceDir
      extension := ((named? sect.extension?).map fun name => name.dropWhile (· = '.')).getD
        Project.Layout.standard.extension }

end Settings

end QueryNav
