import QueryNav.Server.Reply

/-! The envelopes of the conversation. A value with a method is a request if it has an identifier and a
notification if it has none; a value without a method is the client's answer to a request of the
server. -/

namespace QueryNav.Server.Wire

open Json (record)

/-- A value that came from the client. -/
inductive Incoming where
  | request (id : Json) (method : Text) (parameters : Json)
  | notification (method : Text) (parameters : Json)
  /-- The client's answer to the question with this number. -/
  | answer (number : Nat) (answer : Answer)

/-- The envelope that a value is. -/
def Incoming.ofJson? (json : Json) : Option Incoming :=
  let parameters := (json.field? "params").getD .null
  match json.field? "method", json.field? "id" with
  | some (.str method), some id => some (.request id method parameters)
  | some (.str method), none => some (.notification method parameters)
  | none, some id => (Parameters.unsigned? id).map fun number => .answer number (json.field? "result")
  | _, _ => none

def request? (method : Text) (parameters : Json) : Option Request :=
  match String.ofList method with
  | "initialize" => some .setup
  | "shutdown" => some .shutdown
  | "textDocument/completion" => some (.completion parameters)
  | "textDocument/definition" => some (.definition parameters)
  | "workspace/executeCommand" => some (.command parameters)
  | _ => none

def notification? (method : Text) (parameters : Json) : Option Notification :=
  match String.ofList method with
  | "initialized" => some (.initialized parameters)
  | "workspace/didChangeConfiguration" => some (.settingsChanged parameters)
  | "textDocument/didOpen" => some (.opened parameters)
  | "textDocument/didChange" => some (.changed parameters)
  | "textDocument/didClose" => some (.closed parameters)
  | "exit" => some .exit
  | _ => none

def errorJson (id : Json) (code : Int) (message : String) : Json :=
  record [("jsonrpc", .ofString "2.0"),
    ("error", record [("code", .int code), ("message", .ofString message)]), ("id", id)]

def replyJson (id : Json) (reply : Reply) : Json :=
  match reply.result with
  | .ok result => record [("jsonrpc", .ofString "2.0"), ("result", result), ("id", id)]
  | .error refusal => errorJson id refusal.code refusal.message

def unknownMethodJson (id : Json) : Json := errorJson id (-32601) "Method not found"

/-- The identifier of a message to the client; only a question is a request and has one. -/
def clientId? : ClientMessage → Option Json
  | .askSettings number => some (.ofNat number)
  | _ => none

def clientJson (message : ClientMessage) : Json :=
  record ([("jsonrpc", .ofString "2.0"), ("method", .ofString message.method), ("params", message.parameters)] ++
    (clientId? message).toList.map fun id => ("id", id))

end QueryNav.Server.Wire
