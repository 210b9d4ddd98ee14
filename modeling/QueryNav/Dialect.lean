import QueryNav.Text.Basic

/-! The fixed words of the ezsql dialect and of its language server. -/

namespace QueryNav.Dialect

/-- The name under which editors know the dialect. -/
def languageId : String := "ezsql"

/-- The reserved words of the dialect, in the order in which they are suggested. -/
def keywords : List String :=
  ["case", "when", "else", "end", "true", "false", "null", "select", "from", "where", "between",
   "join", "like", "regexp", "create", "persistence", "import"]

/-- The character that, typed right before the cursor, asks for import references. -/
def trigger : Char := '@'

def greetCommand : String := "ezsql.helloWorld"

def greeting : String := "Hello World from ezsql!"

def serverName : String := "ezsql Language Server"

def serverVersion : String := "0.1.0"

/-- What the language server tells the client when it is ready. -/
def startMessage : String := "ezsql language server started"

/-- The section of the client's settings that concerns the language server. -/
def settingsSection : String := "ezsql.lsp"

end QueryNav.Dialect
