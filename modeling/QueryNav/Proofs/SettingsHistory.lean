import QueryNav.Proofs.Questions

/-! The settings of a session and the answers they come from. An answer is taken if the question it is to is open,
and it counts if the first item of its array is a well-formed section. The settings are made anew from each section
that counts, so only the last one matters, and what it leaves out is as a client that sets nothing has it. An answer
that does not count closes its question and leaves everything else as it is, and neither the questions nor the
answers touch a document. -/

namespace QueryNav.Server

/-- A message that leads to a question for the settings, or the answer to one. -/
def Message.configures : Message → Bool
  | .notification (.initialized _) => true
  | .notification (.settingsChanged _) => true
  | .answer _ _ => true
  | _ => false

/-- The section in an answer of the client: the first item of an array, if it is well formed. -/
def sectionIn? : Answer → Option Section
  | some (.arr (first :: _)) => Section.ofJson? first
  | _ => none

/-- The section that a message after `past` brings. -/
def sectionAfter? (past : List Message) : Message → Option Section
  | .answer number answer => if Open past number then sectionIn? answer else none
  | _ => none

/-- The sections that a session takes in. -/
def sectionsIn (messages : List Message) : List Section :=
  (historiesFrom [] messages).filterMap fun (past, message) => sectionAfter? past message

theorem settingsIn?_eq (answer : Answer) : settingsIn? answer = (sectionIn? answer).map .ofSection := by
  cases answer with
  | none => rfl
  | some json =>
    cases json with
    | arr items =>
      cases items with
      | nil => rfl
      | cons first others => cases found : Section.ofJson? first <;> simp [settingsIn?, sectionIn?, Json.items?, found]
    | _ => rfl

@[simp] theorem State.settings_adopt (state : State) (answer : Answer) :
    (state.adopt answer).settings = ((sectionIn? answer).map .ofSection).getD state.settings := by
  rw [State.adopt, settingsIn?_eq]

theorem State.adopt_of_no_section (state : State) {answer : Answer} (bad : sectionIn? answer = none) :
    state.adopt answer = state := by
  rw [State.adopt, settingsIn?_eq, bad]
  rfl

theorem run_answer_of_open (disk : Disk) {messages : List Message} {number : Nat} (still : Open messages number)
    (answer : Answer) :
    State.fresh.run disk (messages ++ [.answer number answer]) =
      { (State.fresh.run disk messages).adopt answer with
        waiting := (State.fresh.run disk messages).waiting.erase number } := by
  obtain ⟨going, expected⟩ := (open_iff disk).mp still
  rw [run_concat, step_answer, if_neg going, State.answered, if_pos expected]

theorem run_answer_of_not_open (disk : Disk) {messages : List Message} {number : Nat} (closed : ¬ Open messages number)
    (answer : Answer) :
    State.fresh.run disk (messages ++ [.answer number answer]) = State.fresh.run disk messages := by
  rw [open_iff disk, not_and] at closed
  rw [run_concat, step_answer]
  split
  · rfl
  next going => rw [State.answered, if_neg (closed going)]

/-- One message changes the settings by the section that it brings. -/
theorem settings_run_concat (disk : Disk) (messages : List Message) (message : Message) :
    (State.fresh.run disk (messages ++ [message])).settings =
      ((sectionAfter? messages message).map .ofSection).getD (State.fresh.run disk messages).settings := by
  cases message with
  | answer number answer =>
    by_cases still : Open messages number
    · rw [run_answer_of_open disk still, sectionAfter?, if_pos still]
      exact State.settings_adopt _ answer
    · rw [run_answer_of_not_open disk still, sectionAfter?, if_neg still]
      rfl
  | _ =>
    rw [run_concat, step_of_not_answer disk _ rfl]
    split <;> rfl

theorem sectionsIn_concat (messages : List Message) (message : Message) :
    sectionsIn (messages ++ [message]) = sectionsIn messages ++ (sectionAfter? messages message).toList := by
  rw [sectionsIn, historiesFrom_concat, List.filterMap_append, ← sectionsIn, List.nil_append]
  cases brought : sectionAfter? messages message <;> simp [brought]

theorem settings_run (disk : Disk) (messages : List Message) :
    (State.fresh.run disk messages).settings = ((sectionsIn messages).getLast?.map .ofSection).getD .standard := by
  induction messages using List.reverseRecOn with
  | nil => rfl
  | append_singleton messages message ih =>
    rw [settings_run_concat, ih, sectionsIn_concat]
    cases sectionAfter? messages message <;> simp

theorem event?_of_configures {message : Message} (configures : message.configures = true) : message.event? = none := by
  cases message with
  | request request => cases configures
  | notification notification => cases notification <;> first | rfl | cases configures
  | answer number answer => rfl

/-- What a section leaves out is in the settings as a client that sets nothing has it. -/
structure Completes (settings : Settings) (sect : Section) : Prop where
  imports : sect.imports? = none → settings.importCompletion = Settings.standard.importCompletion
  enabled : sect.enabled? = none → settings.definitionEnabled = Settings.standard.definitionEnabled
  sourceDir : sect.sourceDir? = none → settings.layout.sourceDir = Settings.standard.layout.sourceDir
  extension : sect.extension? = none → settings.layout.extension = Settings.standard.layout.extension

theorem completes_ofSection (sect : Section) : Completes (.ofSection sect) sect := by
  refine ⟨?_, ?_, ?_, ?_⟩
  all_goals
    intro absent
    simp only [Settings.ofSection, Settings.named?, absent]
    rfl

/-- The settings are those of the last section that the session took in, and the standard ones before there is
any. A notification that is served and well formed opens the question with the next number. A section that answers an
open question is all that the settings are made of, whatever was answered before; an answer without one closes the
question and changes nothing else, one to another question changes nothing at all, and no document is touched by any
of them. -/
theorem settings_of_last_section :
    (∀ disk messages, (State.fresh.run disk messages).settings =
        ((sectionsIn messages).getLast?.map .ofSection).getD .standard) ∧
      (∀ disk messages message, (State.fresh.run disk messages).phase = .serving → message.asks = true →
        (∃ sent, ((State.fresh.run disk messages).step disk message).2 =
          .handled none (sent ++ [.askSettings (questionsIn messages)])) ∧
        Open (messages ++ [message]) (questionsIn messages)) ∧
      (∀ disk messages number answer sect, Open messages number → sectionIn? answer = some sect →
        (State.fresh.run disk (messages ++ [.answer number answer])).settings = .ofSection sect ∧
        Completes (.ofSection sect) sect) ∧
      (∀ disk messages number answer, sectionIn? answer = none →
        State.fresh.run disk (messages ++ [.answer number answer]) =
          { State.fresh.run disk messages with
            waiting := (State.fresh.run disk (messages ++ [.answer number answer])).waiting }) ∧
      (∀ disk messages number answer, ¬ Open messages number →
        State.fresh.run disk (messages ++ [.answer number answer]) = State.fresh.run disk messages) ∧
      ∀ disk messages message, message.configures = true →
        (State.fresh.run disk (messages ++ [message])).documents = (State.fresh.run disk messages).documents := by
  refine ⟨settings_run, ?_, ?_, ?_, fun disk _ _ answer closed => run_answer_of_not_open disk closed answer, ?_⟩
  · intro disk messages message serving asks
    obtain ⟨sent, told⟩ := exists_sent_of_asks disk serving asks
    rw [asked_run_fresh] at told
    exact ⟨⟨sent, told⟩, open_of_asks serving asks⟩
  · intro disk messages number answer sect still told
    refine ⟨?_, completes_ofSection sect⟩
    rw [settings_run_concat, sectionAfter?, if_pos still, told]
    rfl
  · intro disk messages number answer bad
    by_cases still : Open messages number
    · rw [run_answer_of_open disk still, State.adopt_of_no_section _ bad]
    · rw [run_answer_of_not_open disk still]
  · intro disk messages message configures
    have silent : message.event? = none := event?_of_configures configures
    rw [run_concat, documents_step, silent]
    exact ite_self _

/-- Two questions are answered in the other order, so the second answer is the one to the first question; it takes the
place of all that the other had set. What the client answers after that does not count, and neither does what it says
without being asked, twice, or after the time of serving. -/
theorem settings_of_last_section_amid_bad_answers :
    let first : Json := .record [("completion", .record [("imports", .bool false)]),
      ("project", .record [("sourceDir", .ofString "sql")])]
    let second : Json := .record [("definition", .arr [.bool false]), ("project", .record [("sourceDir", .null)])]
    let changed : Message := .notification (.settingsChanged (.record [("settings", .null)]))
    let begun := [.answer 0 (some (.arr [first])), changed, .request .setup, .notification (.initialized (.record [])),
      changed, .answer 1 (some (.arr [first]))]
    let replaced := begun ++ [.answer 0 (some (.arr [second, first]))]
    let asking := replaced ++ [changed, changed, changed, changed, changed, .notification (.settingsChanged .null)]
    let messages := asking ++ [.answer 2 none, .answer 3 (some first), .answer 4 (some (.arr [])),
      .answer 5 (some (.arr [.null, second])), .answer 6 (some (.arr [.record [("project", .null)]])),
      .answer 0 (some (.arr [first])), .answer 7 (some (.arr [first])), .request .shutdown, changed,
      .answer 7 (some (.arr [first]))]
    (State.fresh.run .empty begun).settings = ⟨false, true, ⟨"sql".toList, "ezsql".toList⟩⟩ ∧
      (State.fresh.run .empty replaced).settings = ⟨true, false, .standard⟩ ∧
      Open (replaced ++ [changed]) 2 ∧ ¬ Open replaced 0 ∧
      State.fresh.run .empty (asking ++ [.answer 0 (some (.arr [first]))]) = State.fresh.run .empty asking ∧
      (State.fresh.run .empty messages).settings = ⟨true, false, .standard⟩ := by
  intro first second changed begun replaced asking messages
  obtain ⟨last, asked, taken, _, dropped, _⟩ := settings_of_last_section
  have early : sectionsIn begun = [⟨some false, none, some "sql".toList, none⟩] := by decide +kernel
  have late : sectionsIn messages =
      [⟨some false, none, some "sql".toList, none⟩, ⟨none, some false, none, none⟩] := by decide +kernel
  have told : sectionIn? (some (.arr [second, first])) = some ⟨none, some false, none, none⟩ := by decide +kernel
  have still : Open begun 0 := by decide +kernel
  have count : questionsIn replaced = 2 := by decide +kernel
  have next := (asked .empty replaced changed (by decide +kernel) (by decide +kernel)).2
  rw [count] at next
  refine ⟨?_, ?_, next, by decide +kernel, dropped .empty asking 0 _ (by decide +kernel), ?_⟩
  · rw [last, early]
    decide
  · exact (taken .empty begun 0 _ _ still told).1.trans (by decide)
  · rw [last, late]
    decide

end QueryNav.Server
