import QueryNav.Server.Session

/-! The server's side of the conversation as values of the editor's protocol. -/

namespace QueryNav.Server

open Json (record ofNat)

/-- The number by which the protocol knows a refusal. -/
def Refusal.code : Refusal → Int
  | .notInitialized => -32002
  | .invalidRequest => -32600
  | .invalidParameters => -32602

def Refusal.message : Refusal → String
  | .notInitialized => "Server not initialized"
  | .invalidRequest => "Invalid request"
  | .invalidParameters => "Invalid params"

def positionJson (position : Position) : Json :=
  record [("line", ofNat position.line), ("character", ofNat position.column)]

def rangeJson (first last : Position) : Json :=
  record [("start", positionJson first), ("end", positionJson last)]

/-- A link, which leads to the start of its target. -/
def navigationJson (link : Navigation) : Json :=
  let top := rangeJson ⟨0, 0⟩ ⟨0, 0⟩
  record [("originSelectionRange", rangeJson ⟨link.line, link.first⟩ ⟨link.line, link.last⟩),
    ("targetUri", .str link.target.text), ("targetRange", top), ("targetSelectionRange", top)]

/-- The number by which the protocol knows a kind of suggestion. -/
def kindNumber : Suggestion.Kind → Nat
  | .keyword => 14
  | .module => 9

def suggestionJson (suggestion : Suggestion) : Json :=
  record [("label", .str suggestion.label), ("kind", ofNat (kindNumber suggestion.kind)),
    ("documentation", .str suggestion.documentation)]

/-- What the server can do: it takes changes one by one, completes, finds definitions and greets. -/
def capabilitiesJson : Json :=
  record [
    ("capabilities", record [
      ("textDocumentSync", ofNat 2),
      ("completionProvider", record [
        ("resolveProvider", .bool false), ("triggerCharacters", .arr [.str [Dialect.trigger]])]),
      ("definitionProvider", .bool true),
      ("executeCommandProvider", record [("commands", .arr [.ofString Dialect.greetCommand])])]),
    ("serverInfo", record [
      ("name", .ofString Dialect.serverName), ("version", .ofString Dialect.serverVersion)])]

/-- The links of a place: null if there is none. -/
def linksJson : Option Navigation → Json
  | some link => .arr [navigationJson link]
  | none => .null

/-- The result of a request, or the reason for which it is refused. -/
def Reply.result : Reply → Except Refusal Json
  | .capabilities => .ok capabilitiesJson
  | .nothing => .ok .null
  | .suggestions items => .ok (.arr (items.map suggestionJson))
  | .links link? => .ok (linksJson link?)
  | .refused refusal => .error refusal

def ClientMessage.method : ClientMessage → String
  | .log _ => "window/logMessage"
  | .tell _ => "window/showMessage"
  | .askSettings _ => "workspace/configuration"

/-- The parameters of a message to the client. Texts are informative messages, which is type three. -/
def ClientMessage.parameters : ClientMessage → Json
  | .log text => record [("type", ofNat 3), ("message", .ofString text)]
  | .tell text => record [("type", ofNat 3), ("message", .ofString text)]
  | .askSettings _ => record [("items", .arr [record [("section", .ofString Dialect.settingsSection)]])]

end QueryNav.Server
