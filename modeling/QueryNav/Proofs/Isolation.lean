import QueryNav.Proofs.Synchronisation

/-! Each open document is a story of its own. Only the messages between the request that sets the session up
and the one that shuts it down count, and of these only the ones that open, change or close a document and are
well formed. What the server has under an address is what those about this address say, in their order; nothing
else that happens in a session shows in it, and so neither in the answers about this document. -/

namespace QueryNav.Server

open Text

def Message.isSetup : Message → Bool
  | .request .setup => true
  | _ => false

def Message.isShutdown : Message → Bool
  | .request .shutdown => true
  | _ => false

def Message.isExit : Message → Bool
  | .notification .exit => true
  | _ => false

/-- The messages that are neither refused nor dropped for their time: those behind the first request that sets
the session up, as far as it is not shut down or ended. -/
def served (messages : List Message) : List Message :=
  (((messages.takeWhile fun message => !message.isExit).dropWhile fun message => !message.isSetup).drop 1).takeWhile
    fun message => !message.isShutdown

/-- The message makes the server ask for the client's settings, if it comes in time. -/
def Message.asks : Message → Bool
  | .notification (.initialized parameters) => Parameters.isReady parameters
  | .notification (.settingsChanged parameters) => Parameters.isSettingsChange parameters
  | _ => false

def Message.isAnswer : Message → Bool
  | .answer _ _ => true
  | _ => false

/-- What a message tells about a document, if it is about one and well formed. -/
def Message.event? : Message → Option (Uri × Event)
  | .notification (.opened parameters) => Parameters.opened? parameters
  | .notification (.changed parameters) => Parameters.changed? parameters
  | .notification (.closed parameters) => Parameters.closed? parameters
  | _ => none

def Message.eventAt? (key : Text) (message : Message) : Option Event :=
  match message.event? with
  | some (uri, event) => if uri.text = key then some event else none
  | none => none

/-- The events at the document under `key` that a session takes in. -/
def acceptedAt (key : Text) (messages : List Message) : List Event := (served messages).filterMap (Message.eventAt? key)

/-- What is left of a document after some events, `none` standing for a document that is not open. -/
def entryAfter (entry : Option Document) : List Event → Option Document
  | [] => entry
  | .opened version text :: later => entryAfter (some ⟨text, version⟩) later
  | .changed version changes :: later =>
    entryAfter (entry.map fun document => ⟨changes.foldl Buffer.apply document.text, version⟩) later
  | .closed :: later => entryAfter none later

theorem entryAfter_cons (entry : Option Document) (event : Event) (later : List Event) :
    entryAfter entry (event :: later) = entryAfter (event.apply entry) later := by
  cases event with
  | opened version text => rfl
  | changed version changes => cases entry <;> rfl
  | closed => rfl

theorem entryAfter_append (entry : Option Document) (front back : List Event) :
    entryAfter entry (front ++ back) = entryAfter (entryAfter entry front) back := by
  induction front generalizing entry with
  | nil => rfl
  | cons event front ih => rw [List.cons_append, entryAfter_cons, entryAfter_cons, ih]

theorem entryAfter_batch (entry : Option Document) (version earlier : Int) (front back : List Buffer.Change) :
    entryAfter entry [.changed version (front ++ back)] =
      entryAfter entry [.changed earlier front, .changed version back] := by
  cases entry with
  | none => rfl
  | some document => simp [entryAfter]

/-- How far a session has come after one more message. -/
def Phase.after : Phase → Message → Phase
  | _, .notification .exit => .exited
  | .starting, .request .setup => .serving
  | .serving, .request .shutdown => .stopping
  | phase, _ => phase

/-- The documents after a message that is taken in. -/
def Store.hear (store : Store) : Option (Uri × Event) → Store
  | some (uri, event) => store.apply uri.text event
  | none => store

theorem State.record_eq (state : State) (event? : Option (Uri × Event)) :
    state.record event? = { state with documents := state.documents.hear event? } := by
  unfold State.record Store.hear
  split <;> rfl

theorem step_answer (disk : Disk) (state : State) (number : Nat) (answer : Answer) :
    (state.step disk (.answer number answer)).1 =
      if state.phase = .exited then state else state.answered number answer := by
  unfold State.step
  split <;> rfl

theorem step_of_not_answer (disk : Disk) (state : State) {message : Message} (own : message.isAnswer = false) :
    (state.step disk message).1 =
      { (if state.phase = .serving ∧ message.asks then state.ask else state) with
        phase := state.phase.after message
        documents := if state.phase = .serving then state.documents.hear message.event? else state.documents } := by
  obtain ⟨phase, documents, settings, asked, waiting⟩ := state
  cases message with
  | request request => cases phase <;> cases request <;> rfl
  | notification notification =>
    cases phase with
    | serving =>
      cases notification with
      | initialized parameters =>
        cases ready : Parameters.isReady parameters <;>
          simp [State.step, State.notification, State.ask, Phase.after, Message.asks, Message.event?, Store.hear, ready]
      | settingsChanged parameters =>
        cases shown : Parameters.isSettingsChange parameters <;>
          simp [State.step, State.notification, State.ask, Phase.after, Message.asks, Message.event?, Store.hear, shown]
      | exit => rfl
      | _ => simp [State.step, State.notification, State.record_eq, Phase.after, Message.asks, Message.event?]
    | _ => cases notification <;> rfl
  | answer number answer => cases own

@[simp] theorem State.phase_answered (state : State) (number : Nat) (answer : Answer) :
    (state.answered number answer).phase = state.phase := by
  unfold State.answered
  split <;> rfl

@[simp] theorem State.documents_answered (state : State) (number : Nat) (answer : Answer) :
    (state.answered number answer).documents = state.documents := by
  unfold State.answered
  split <;> rfl

theorem phase_step (disk : Disk) (state : State) (message : Message) :
    (state.step disk message).1.phase = state.phase.after message := by
  cases message with
  | answer number answer =>
    rw [step_answer]
    split <;> simp [Phase.after]
  | _ => rw [step_of_not_answer disk state rfl]

theorem documents_step (disk : Disk) (state : State) (message : Message) :
    (state.step disk message).1.documents =
      if state.phase = .serving then state.documents.hear message.event? else state.documents := by
  cases message with
  | answer number answer =>
    rw [step_answer]
    split <;> simp [Message.event?, Store.hear]
  | _ => rw [step_of_not_answer disk state rfl]

theorem get?_hear (store : Store) (key : Text) (message : Message) :
    (store.hear message.event?).get? key = entryAfter (store.get? key) (message.eventAt? key).toList := by
  unfold Message.eventAt?
  cases told : message.event? with
  | none => rfl
  | some tale =>
    obtain ⟨uri, event⟩ := tale
    by_cases same : uri.text = key
    · subst same
      simp [Store.hear, Store.get?_apply_self, entryAfter_cons, entryAfter]
    · simp [Store.hear, Store.get?_apply_other store (Ne.symm same), same, entryAfter]

/-- One message changes the entry under an address by what it tells about it, if it comes in time. -/
theorem entry_step (disk : Disk) (state : State) (message : Message) (key : Text) :
    (state.step disk message).1.documents.get? key =
      if state.phase = .serving then entryAfter (state.documents.get? key) (message.eventAt? key).toList
      else state.documents.get? key := by
  rw [documents_step]
  split
  · exact get?_hear state.documents key message
  · rfl

/-- The messages that are served in a session that has already come to `phase`. -/
def servedFrom : Phase → List Message → List Message
  | .starting, messages => served messages
  | .serving, messages =>
    (messages.takeWhile fun message => !message.isExit).takeWhile fun message => !message.isShutdown
  | _, _ => []

theorem servedFrom_cons (phase : Phase) (message : Message) (messages : List Message) :
    servedFrom phase (message :: messages) =
      (if phase = .serving ∧ phase.after message = .serving then [message] else []) ++
        servedFrom (phase.after message) messages := by
  cases message with
  | request request => cases phase <;> cases request <;> rfl
  | notification notification => cases phase <;> cases notification <;> rfl
  | answer number answer => cases phase <;> rfl

theorem eq_of_leaving {message : Message} (leaving : Phase.serving.after message ≠ .serving) :
    message = .request .shutdown ∨ message = .notification .exit := by
  cases message with
  | request request =>
    cases request with
    | shutdown => exact .inl rfl
    | _ => exact absurd rfl leaving
  | notification notification =>
    cases notification with
    | exit => exact .inr rfl
    | _ => exact absurd rfl leaving
  | answer number answer => exact absurd rfl leaving

theorem eventAt?_of_leaving {message : Message} (leaving : Phase.serving.after message ≠ .serving) (key : Text) :
    message.eventAt? key = none := by
  rcases eq_of_leaving leaving with rfl | rfl
  · rfl
  · rfl

/-- What is told by the messages that are served, if those that end the time of serving tell nothing. -/
theorem told_servedFrom_cons {α : Type} {told? : Message → Option α}
    (silent : ∀ message, Phase.serving.after message ≠ .serving → told? message = none) (phase : Phase)
    (message : Message) (messages : List Message) :
    (servedFrom phase (message :: messages)).filterMap told? =
      (if phase = .serving then (told? message).toList else []) ++
        (servedFrom (phase.after message) messages).filterMap told? := by
  rw [servedFrom_cons, List.filterMap_append]
  congr 1
  by_cases serving : phase = .serving
  · subst serving
    by_cases staying : Phase.serving.after message = .serving
    · rw [if_pos ⟨rfl, staying⟩, if_pos rfl]
      cases told : told? message <;> simp [told]
    · simp [staying, silent message staying]
  · simp [serving]

theorem events_servedFrom_cons (key : Text) (phase : Phase) (message : Message) (messages : List Message) :
    (servedFrom phase (message :: messages)).filterMap (Message.eventAt? key) =
      (if phase = .serving then (message.eventAt? key).toList else []) ++
        (servedFrom (phase.after message) messages).filterMap (Message.eventAt? key) :=
  told_servedFrom_cons (fun _ leaving => eventAt?_of_leaving leaving key) phase message messages

theorem entry_run (disk : Disk) (state : State) (messages : List Message) (key : Text) :
    (state.run disk messages).documents.get? key =
      entryAfter (state.documents.get? key)
        ((servedFrom state.phase messages).filterMap (Message.eventAt? key)) := by
  induction messages generalizing state with
  | nil => cases state.phase <;> rfl
  | cons message messages ih =>
    rw [State.run, List.foldl_cons, ← State.run, ih, entry_step, phase_step, events_servedFrom_cons]
    split
    · rw [entryAfter_append]
    · rfl

theorem entry_run_fresh (disk : Disk) (messages : List Message) (key : Text) :
    (State.fresh.run disk messages).documents.get? key = entryAfter none (acceptedAt key messages) :=
  entry_run disk .fresh messages key

theorem run_append (disk : Disk) (state : State) (front back : List Message) :
    state.run disk (front ++ back) = (state.run disk front).run disk back :=
  List.foldl_append

theorem entry_run_idle {disk : Disk} {state : State} {message : Message} {key : Text}
    (idle : message.eventAt? key = none ∨ state.phase ≠ .serving) :
    (state.run disk [message]).documents.get? key = state.documents.get? key := by
  have next : state.run disk [message] = (state.step disk message).1 := rfl
  rw [next, entry_step]
  rcases idle with silent | late
  · simp [silent, entryAfter]
  · rw [if_neg late]

private theorem events_of_changed {parameters : Json} {uri : Uri} {event : Event}
    (read : Parameters.changed? parameters = some (uri, event)) (key : Text) :
    (Message.notification (.changed parameters)).eventAt? key = if uri.text = key then some event else none := by
  simp [Message.eventAt?, Message.event?, read]

theorem entry_run_batch {disk : Disk} {state : State} {whole first second : Json} {uri : Uri} {version earlier : Int}
    {front back : List Buffer.Change} (all : Parameters.changed? whole = some (uri, .changed version (front ++ back)))
    (begins : Parameters.changed? first = some (uri, .changed earlier front))
    (ends : Parameters.changed? second = some (uri, .changed version back)) (key : Text) :
    (state.run disk [.notification (.changed whole)]).documents.get? key =
      (state.run disk [.notification (.changed first), .notification (.changed second)]).documents.get? key := by
  have stays : ∀ parameters, state.phase.after (.notification (.changed parameters)) = state.phase := by
    intro parameters
    cases state.phase <;> rfl
  rw [entry_run, entry_run]
  simp only [events_servedFrom_cons, stays, events_of_changed all, events_of_changed begins, events_of_changed ends]
  by_cases taken : state.phase = .serving ∧ uri.text = key
  · simp [taken, servedFrom, entryAfter_batch _ version earlier front back]
  · by_cases serving : state.phase = .serving
    · have other : uri.text ≠ key := fun same => taken ⟨serving, same⟩
      simp [other]
    · simp [serving]

/-- The answers of two states to a question about a place, and what comes of the question where the two have
come equally far. -/
structure SameAnswers (disk : Disk) (left right : State) (parameters : Json) : Prop where
  completion : left.completion parameters = right.completion parameters
  definition : left.definition disk parameters = right.definition disk parameters
  completed : left.phase = right.phase →
    (left.step disk (.request (.completion parameters))).2 = (right.step disk (.request (.completion parameters))).2
  defined : left.phase = right.phase →
    (left.step disk (.request (.definition parameters))).2 = (right.step disk (.request (.definition parameters))).2

theorem completion?_of_cursor? {parameters : Json} {place : Uri × Position}
    (asked : Parameters.cursor? parameters = some place) :
    Parameters.completion? parameters = some place ∨ Parameters.completion? parameters = none := by
  cases told : Json.optional? Parameters.context? (parameters.field? "context") with
  | none => simp [Parameters.completion?, asked, told]
  | some context? => simp [Parameters.completion?, asked, told]

theorem SameAnswers.of_entry {disk : Disk} {left right : State} {parameters : Json} {uri : Uri} {cursor : Position}
    (asked : Parameters.cursor? parameters = some (uri, cursor))
    (entries : left.documents.get? uri.text = right.documents.get? uri.text)
    (settings : left.settings = right.settings) : SameAnswers disk left right parameters := by
  have completion : left.completion parameters = right.completion parameters := by
    rcases completion?_of_cursor? asked with read | malformed
    · simp [State.completion, read, State.suggestions, entries, settings]
    · simp [State.completion, malformed]
  have definition : left.definition disk parameters = right.definition disk parameters := by
    simp [State.definition, asked, State.link?, entries, settings]
  refine ⟨completion, definition, ?_, ?_⟩
  all_goals
    intro reached
    cases phase : right.phase <;> simp [State.step, State.request, reached, phase, completion, definition]

/-- What the server has under an address is what the messages about it say that came in time and were well
formed; no other message changes it. It does not matter how changes are distributed over messages, and two
sessions in which the same was said about a document, and which have come to the same settings, give the same
answers about it, whatever else was said in them. -/
theorem entry_told_by_own_messages (key : Text) :
    (∀ disk messages,
        (State.fresh.run disk messages).documents.get? key = entryAfter none (acceptedAt key messages)) ∧
      (∀ disk messages message, message.eventAt? key = none ∨ (State.fresh.run disk messages).phase ≠ .serving →
        (State.fresh.run disk (messages ++ [message])).documents.get? key =
          (State.fresh.run disk messages).documents.get? key) ∧
      (∀ disk messages whole first second uri version earlier front back,
        Parameters.changed? whole = some (uri, .changed version (front ++ back)) →
        Parameters.changed? first = some (uri, .changed earlier front) →
        Parameters.changed? second = some (uri, .changed version back) →
        (State.fresh.run disk (messages ++ [.notification (.changed whole)])).documents.get? key =
          (State.fresh.run disk (messages ++
            [.notification (.changed first), .notification (.changed second)])).documents.get? key) ∧
      ∀ disk₁ disk₂ left right, acceptedAt key left = acceptedAt key right →
        (State.fresh.run disk₁ left).settings = (State.fresh.run disk₂ right).settings →
        ∀ disk parameters uri cursor, Parameters.cursor? parameters = some (uri, cursor) → uri.text = key →
          SameAnswers disk (State.fresh.run disk₁ left) (State.fresh.run disk₂ right) parameters := by
  refine ⟨fun disk messages => entry_run_fresh disk messages key, ?_, ?_, ?_⟩
  · intro disk messages message idle
    rw [run_append, entry_run_idle idle]
  · intro disk messages whole first second uri version earlier front back all begins ends
    rw [run_append, run_append, entry_run_batch all begins ends]
  · intro disk₁ disk₂ left right same settings disk parameters uri cursor asked about
    subst about
    apply SameAnswers.of_entry asked _ settings
    rw [entry_run_fresh, entry_run_fresh, same]

/-- A document that is told about too early, malformed and too late, next to another one, against a session in
which only what counts is said: it is opened, and then replaced and cut by one message with two changes. -/
theorem entry_told_by_own_messages_amid_others :
    let opened (address : String) := Editor.opening address.toList "ezsql".toList 1 "old".toList
    let changed : Message := .notification (.changed (Editor.updateJson "file:///q".toList 2
      [⟨none, "a😀b".toList⟩, ⟨some (⟨0, 3⟩, ⟨0, 1⟩), []⟩]))
    let about (address : String) : Json := .record [("textDocument", .record [("uri", .ofString address)]),
      ("position", positionJson ⟨0, 0⟩)]
    let closed (address : String) : Message := .notification (.closed (about address))
    let left := [opened "file:///q", .request .setup, opened "FILE:/q", opened "file:///r",
      .notification (.changed (about "file:///q")), .notification (.settingsChanged (.arr [.null])), changed,
      .answer 0 none, closed "file:///r", .request (.completion (about "file:///q")), .request .setup,
      .request .shutdown, closed "file:///q"]
    let right := [.request .setup, opened "file:///q", changed, .request .shutdown]
    acceptedAt "file:///q".toList left = acceptedAt "file:///q".toList right ∧
      (State.fresh.run .empty left).documents.get? "file:///q".toList = some ⟨"ab".toList, 2⟩ ∧
      SameAnswers .empty (State.fresh.run .empty left) (State.fresh.run .empty right) (about "file:///q") := by
  intro opened changed about closed left right
  obtain ⟨history, _, _, answers⟩ := entry_told_by_own_messages "file:///q".toList
  let told : List Event := [.opened 1 "old".toList, .changed 2 [⟨none, "a😀b".toList⟩, ⟨some (⟨0, 3⟩, ⟨0, 1⟩), []⟩]]
  have first : acceptedAt "file:///q".toList left = told := by decide +kernel
  have second : acceptedAt "file:///q".toList right = told := by decide +kernel
  have kept : entryAfter none told = some ⟨"ab".toList, 2⟩ := by decide
  have same := first.trans second.symm
  have settings : (State.fresh.run .empty left).settings = (State.fresh.run .empty right).settings := by decide +kernel
  have asked : Parameters.cursor? (about "file:///q") = some
      (⟨"file".toList, some (.ofHost (.name [])), .segments ["q".toList], none, none⟩, ⟨0, 0⟩) := by decide +kernel
  exact ⟨same, by rw [history, first, kept],
    answers .empty .empty left right same settings .empty _ _ _ asked (by decide)⟩

end QueryNav.Server
