import QueryNav.Capability
import QueryNav.Server.Parameters

/-! A session with an editor. The editor sends requests, which are answered, and notifications, which
are not. Between `initialize` and `shutdown` all of them are served; before and after that requests are
refused and notifications dropped, and `exit` ends the session at any time. Only a message that is
served has its parameters looked at. Two notifications make the server ask for the client's settings. Its
questions are numbered, and each stays open while other messages come and go; the first answer with its
number closes it, and an answer that holds no well-formed section leaves the settings as they are. -/

namespace QueryNav.Server

/-- How far a session has come. -/
inductive Phase where
  | starting
  | serving
  | stopping
  | exited
  deriving DecidableEq, Repr

/-- What the server knows. -/
structure State where
  phase : Phase
  documents : Store
  settings : Settings
  /-- How many questions the client has been asked. -/
  asked : Nat
  /-- The numbers of the questions that are open. -/
  waiting : List Nat
  deriving DecidableEq, Repr

/-- The server before the first message. -/
def State.fresh : State := ⟨.starting, .empty, .standard, 0, []⟩

/-- The client's answer to the question for its settings, `none` standing for a refusal. -/
abbrev Answer := Option Json

/-- A message that is answered. -/
inductive Request where
  /-- The request `initialize`, which has to come first. -/
  | setup
  | shutdown
  | completion (parameters : Json)
  | definition (parameters : Json)
  | command (parameters : Json)
  deriving Repr

/-- A message that is not answered. -/
inductive Notification where
  | initialized (parameters : Json)
  | settingsChanged (parameters : Json)
  | opened (parameters : Json)
  | changed (parameters : Json)
  | closed (parameters : Json)
  | exit
  deriving Repr

inductive Message where
  | request (request : Request)
  | notification (notification : Notification)
  /-- The client's answer to the question with this number. -/
  | answer (number : Nat) (answer : Answer)
  deriving Repr

inductive Refusal where
  | notInitialized
  /-- The request is not allowed at this stage of the session. -/
  | invalidRequest
  | invalidParameters
  deriving DecidableEq, Repr

inductive Reply where
  | capabilities
  | nothing
  | suggestions (items : List Suggestion)
  | links (link? : Option Navigation)
  | refused (refusal : Refusal)
  deriving DecidableEq, Repr

/-- What the server sends to the client of its own accord. -/
inductive ClientMessage where
  | log (text : String)
  | tell (text : String)
  /-- The question for the client's settings, under its number. -/
  | askSettings (number : Nat)
  deriving DecidableEq, Repr

/-- What a message leads to. -/
inductive Outcome where
  /-- The session is over: the message was not received. -/
  | gone
  /-- The answer, if the message was a request that got one, and what was sent to the client. -/
  | handled (reply? : Option Reply) (sent : List ClientMessage)
  deriving DecidableEq, Repr

/-- The settings in an answer of the client: the first item of an array, if it is a section. -/
def settingsIn? (answer : Answer) : Option Settings := do
  let items ← (← answer).items?
  let sect ← Section.ofJson? (← items.head?)
  some (.ofSection sect)

def State.adopt (state : State) (answer : Answer) : State :=
  { state with settings := (settingsIn? answer).getD state.settings }

/-- The next question is asked. -/
def State.ask (state : State) : State :=
  { state with asked := state.asked + 1, waiting := state.waiting ++ [state.asked] }

/-- The state after an answer. Nobody waits for one that is not to an open question. -/
def State.answered (state : State) (number : Nat) (answer : Answer) : State :=
  if number ∈ state.waiting then { state.adopt answer with waiting := state.waiting.erase number } else state

/-- The state after an event at a document; a malformed message is dropped. -/
def State.record (state : State) (event? : Option (Uri × Event)) : State :=
  match event? with
  | some (uri, event) => { state with documents := state.documents.apply uri.text event }
  | none => state

/-- The suggestions at a place. A document that is not open counts as empty. -/
def State.suggestions (state : State) (uri : Uri) (cursor : Position) : List Suggestion :=
  let text := ((state.documents.get? uri.text).map Document.text).getD []
  state.settings.completer.suggestions text cursor

/-- The link at a place of an open document, unless links are switched off. -/
def State.link? (disk : Disk) (state : State) (uri : Uri) (cursor : Position) : Option Navigation :=
  if state.settings.definitionEnabled then
    match state.documents.get? uri.text with
    | some document => state.settings.finder.link? disk uri document.text cursor
    | none => none
  else none

def State.completion (state : State) (parameters : Json) : Reply :=
  match Parameters.completion? parameters with
  | some (uri, cursor) => .suggestions (state.suggestions uri cursor)
  | none => .refused .invalidParameters

def State.definition (disk : Disk) (state : State) (parameters : Json) : Reply :=
  match Parameters.cursor? parameters with
  | some (uri, cursor) => .links (state.link? disk uri cursor)
  | none => .refused .invalidParameters

/-- The answer to a request to run a command, and what the command sends to the client. A command that
is not known does nothing. -/
def runCommand (parameters : Json) : Reply × List ClientMessage :=
  match Parameters.command? parameters with
  | some name => (.nothing, if name = Dialect.greetCommand.toList then [.tell Dialect.greeting] else [])
  | none => (.refused .invalidParameters, [])

/-- A request in a session that is not over. -/
def State.request (disk : Disk) (state : State) (request : Request) : State × Reply × List ClientMessage :=
  match state.phase, request with
  | .starting, .setup => ({ state with phase := .serving }, .capabilities, [])
  | .starting, _ => (state, .refused .notInitialized, [])
  | .serving, .shutdown => ({ state with phase := .stopping }, .nothing, [])
  | .serving, .completion parameters => (state, state.completion parameters, [])
  | .serving, .definition parameters => (state, state.definition disk parameters, [])
  | .serving, .command parameters => (state, runCommand parameters)
  | _, _ => (state, .refused .invalidRequest, [])

/-- A notification in a session that is not over. -/
def State.notification (state : State) (notification : Notification) : State × List ClientMessage :=
  match state.phase, notification with
  | _, .exit => ({ state with phase := .exited }, [])
  | .serving, .initialized parameters =>
    if Parameters.isReady parameters then (state.ask, [.log Dialect.startMessage, .askSettings state.asked])
    else (state, [])
  | .serving, .settingsChanged parameters =>
    if Parameters.isSettingsChange parameters then (state.ask, [.askSettings state.asked]) else (state, [])
  | .serving, .opened parameters => (state.record (Parameters.opened? parameters), [])
  | .serving, .changed parameters => (state.record (Parameters.changed? parameters), [])
  | .serving, .closed parameters => (state.record (Parameters.closed? parameters), [])
  | _, _ => (state, [])

def State.step (disk : Disk) (state : State) (message : Message) : State × Outcome :=
  if state.phase = .exited then (state, .gone)
  else
    match message with
    | .request request =>
      let (next, reply, sent) := state.request disk request
      (next, .handled (some reply) sent)
    | .notification notification =>
      let (next, sent) := state.notification notification
      (next, .handled none sent)
    | .answer number answer => (state.answered number answer, .handled none [])

def State.run (disk : Disk) (state : State) (messages : List Message) : State :=
  messages.foldl (fun state message => (state.step disk message).1) state

end QueryNav.Server
