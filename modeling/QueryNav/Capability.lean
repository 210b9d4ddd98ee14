import QueryNav.Completion
import QueryNav.Navigation
import QueryNav.Settings

/-! What the settings make available: a completer, which may leave import references out, and a finder,
which searches a project with a certain layout. The switch that turns links off is not the finder's but
the server's. -/

namespace QueryNav

/-- Suggests what may be typed at a cursor. -/
structure Completer where
  importReferences : Bool
  deriving DecidableEq, Repr

/-- Finds where imports lead. -/
structure Finder where
  layout : Project.Layout
  deriving DecidableEq, Repr

def Completer.suggestions (completer : Completer) (text : Text) (cursor : Position) : List Suggestion :=
  Suggestion.atCursor completer.importReferences text cursor

def Finder.link? (disk : Disk) (finder : Finder) (uri : Uri) (text : Text) (cursor : Position) : Option Navigation :=
  Navigation.at? disk finder.layout uri text cursor

namespace Settings

def completer (settings : Settings) : Completer := ⟨settings.importCompletion⟩

def finder (settings : Settings) : Finder := ⟨⟨settings.layout.sourceDir, settings.layout.extension⟩⟩

end Settings

end QueryNav
