import QueryNav.Json.Value
import QueryNav.Server.Store
import QueryNav.Uri.Parser

/-! The parameters of the editor's messages. Each message has parameters of its own shape; a value that
is missing, of another type or out of range makes the whole message malformed, also where nothing depends
on it. Most groups are written as an object or as an array with all their values. The parameters of the
requests are objects only, since they hold the values of several groups side by side. -/

namespace QueryNav.Server.Parameters

open Json (optional?)

/-- The number of values of a line or a column. -/
def unsignedLimit : Nat := 4294967296

/-- A number of thirty-two bits, as lines and columns are. -/
def unsigned? (json : Json) : Option Nat := json.natBelow? unsignedLimit

/-- A number of thirty-two bits with a sign, as versions are. -/
def signed? (json : Json) : Option Int := json.intWithin? (-2147483648) 2147483648

/-- A token, under which the client waits for parts of an answer: a number or a text. -/
def token? (json : Json) : Option (Int ⊕ Text) :=
  ((signed? json).map Sum.inl).or (json.text?.map Sum.inr)

def uri? (json : Json) : Option Uri := do
  Uri.parse? (← json.text?)

/-- The address of the document that a message is about. -/
def document? (json : Json) : Option Uri := do
  let [some uri] ← json.members? 1 ["uri"] | none
  uri? uri

def position? (json : Json) : Option Position := do
  let [some line, some column] ← json.members? 2 ["line", "character"] | none
  let line ← unsigned? line
  let column ← unsigned? column
  some ⟨line, column⟩

def range? (json : Json) : Option (Position × Position) := do
  let [some first, some last] ← json.members? 2 ["start", "end"] | none
  let first ← position? first
  let last ← position? last
  some (first, last)

/-- A change of a text; without a range it replaces everything. The length of the range is only checked. -/
def change? (json : Json) : Option Buffer.Change := do
  let [range, length, some text] ← json.members? 3 ["range", "rangeLength", "text"] | none
  let range ← optional? range? range
  let _ ← optional? unsigned? length
  let text ← text.text?
  some ⟨range, text⟩

/-- The document and the event of a message that a document was opened. -/
def opened? (json : Json) : Option (Uri × Event) := do
  let [some document] ← json.members? 1 ["textDocument"] | none
  let [some uri, some language, some version, some text] ←
    document.members? 4 ["uri", "languageId", "version", "text"] | none
  let uri ← uri? uri
  let _ ← language.text?
  let version ← signed? version
  let text ← text.text?
  some (uri, .opened version text)

/-- The document and the event of a message that a document was changed. -/
def changed? (json : Json) : Option (Uri × Event) := do
  let [some document, some changes] ← json.members? 2 ["textDocument", "contentChanges"] | none
  let [some uri, some version] ← document.members? 2 ["uri", "version"] | none
  let uri ← uri? uri
  let version ← signed? version
  let changes ← (← changes.items?).mapM change?
  some (uri, .changed version changes)

/-- The document and the event of a message that a document was closed. -/
def closed? (json : Json) : Option (Uri × Event) := do
  let [some document] ← json.members? 1 ["textDocument"] | none
  let uri ← document? document
  some (uri, .closed)

/-- The document and the cursor of a question about a place in it. -/
def cursor? (json : Json) : Option (Uri × Position) := do
  let uri ← document? (← json.field? "textDocument")
  let position ← position? (← json.field? "position")
  let _ ← optional? token? (json.field? "workDoneToken")
  let _ ← optional? token? (json.field? "partialResultToken")
  some (uri, position)

/-- How the editor came to ask for suggestions: a kind and, if one was typed, a trigger. -/
def context? (json : Json) : Option (Int × Option Text) := do
  let [some kind, trigger] ← json.members? 2 ["triggerKind", "triggerCharacter"] | none
  let kind ← signed? kind
  let trigger ← optional? Json.text? trigger
  some (kind, trigger)

/-- The document and the cursor of a question for suggestions, which may tell its context. -/
def completion? (json : Json) : Option (Uri × Position) := do
  let place ← cursor? json
  let _ ← optional? context? (json.field? "context")
  some place

/-- The name of a command; its arguments may be left out, but not be null. -/
def command? (json : Json) : Option Text := do
  let name ← (← json.field? "command").text?
  let _ ← ((json.field? "arguments").getD (.arr [])).items?
  let _ ← optional? token? (json.field? "workDoneToken")
  some name

/-- Whether a message that the client is ready is well formed; it has no values of its own. -/
def isReady (json : Json) : Bool := (json.members? 0 []).isSome

/-- Whether a message that the settings have changed is well formed; it has to show some settings, but
the server asks for its own. -/
def isSettingsChange (json : Json) : Bool := (json.members? 1 ["settings"]).any fun members => members.all Option.isSome

end QueryNav.Server.Parameters
