import Mathlib.Data.List.Induction
import QueryNav.Proofs.Isolation

/-! The questions of a session. The server numbers them in the order in which it asks them, so a question has the
number of those before it. It is open from then on until the first answer with its number, as long as the session is
not over, and these are the questions whose answers the server waits for. -/

namespace QueryNav.Server

/-- The number of questions that a session has asked. -/
def questionsIn (messages : List Message) : Nat := (served messages).countP Message.asks

def Message.answers (number : Nat) : Message → Bool
  | .answer other _ => other = number
  | _ => false

/-- Each message with those before it, of which `past` are the first ones. -/
def historiesFrom (past : List Message) : List Message → List (List Message × Message)
  | [] => []
  | message :: later => (past, message) :: historiesFrom (past ++ [message]) later

/-- Whether a question was answered after it had been asked. -/
def answeredIn (messages : List Message) (number : Nat) : Bool :=
  (historiesFrom [] messages).any fun (past, message) => number < questionsIn past && message.answers number

/-- A question that was asked and not answered, in a session that is not over. -/
structure Open (messages : List Message) (number : Nat) : Prop where
  asked : number < questionsIn messages
  unanswered : answeredIn messages number = false
  going : ∀ message ∈ messages, message.isExit = false

instance (messages : List Message) (number : Nat) : Decidable (Open messages number) :=
  decidable_of_iff
    (number < questionsIn messages ∧ answeredIn messages number = false ∧ ∀ message ∈ messages, message.isExit = false)
    ⟨fun all => ⟨all.1, all.2.1, all.2.2⟩, fun still => ⟨still.asked, still.unanswered, still.going⟩⟩

theorem run_concat (disk : Disk) (state : State) (messages : List Message) (message : Message) :
    state.run disk (messages ++ [message]) = ((state.run disk messages).step disk message).1 :=
  run_append disk state messages [message]

theorem historiesFrom_concat (past messages : List Message) (message : Message) :
    historiesFrom past (messages ++ [message]) = historiesFrom past messages ++ [(past ++ messages, message)] := by
  induction messages generalizing past with
  | nil => simp [historiesFrom]
  | cons first messages ih => simp [historiesFrom, ih]

theorem asked_step (disk : Disk) (state : State) (message : Message) :
    (state.step disk message).1.asked =
      if state.phase = .serving ∧ message.asks then state.asked + 1 else state.asked := by
  cases message with
  | answer number answer =>
    rw [step_answer]
    unfold State.answered
    split
    · simp [Message.asks]
    · split <;> simp [Message.asks, State.adopt]
  | _ =>
    rw [step_of_not_answer disk state rfl]
    split <;> rfl

theorem waiting_step_of_not_answer (disk : Disk) (state : State) {message : Message} (own : message.isAnswer = false) :
    (state.step disk message).1.waiting =
      if state.phase = .serving ∧ message.asks then state.waiting ++ [state.asked] else state.waiting := by
  rw [step_of_not_answer disk state own]
  split <;> rfl

theorem State.waiting_answered (state : State) (number : Nat) (answer : Answer) :
    (state.answered number answer).waiting = state.waiting.erase number := by
  unfold State.answered
  split
  · rfl
  next closed => rw [List.erase_of_not_mem closed]

theorem asks_of_leaving {message : Message} (leaving : Phase.serving.after message ≠ .serving) :
    message.asks = false := by
  rcases eq_of_leaving leaving with rfl | rfl
  · rfl
  · rfl

theorem countP_asks_servedFrom_cons (phase : Phase) (message : Message) (messages : List Message) :
    (servedFrom phase (message :: messages)).countP Message.asks =
      (if phase = .serving ∧ message.asks then 1 else 0) +
        (servedFrom (phase.after message) messages).countP Message.asks := by
  have silent : ∀ message, Phase.serving.after message ≠ .serving → Option.guard Message.asks message = none :=
    fun message leaving => by simp [Option.guard, asks_of_leaving leaving]
  have told := congrArg List.length (told_servedFrom_cons silent phase message messages)
  rw [List.filterMap_eq_filter, List.length_append, ← List.countP_eq_length_filter, ← List.countP_eq_length_filter]
    at told
  rw [told]
  by_cases serving : phase = .serving
  · cases asking : message.asks <;> simp [serving, asking, Option.guard]
  · simp [serving]

theorem asked_run (disk : Disk) (state : State) (messages : List Message) :
    (state.run disk messages).asked = state.asked + (servedFrom state.phase messages).countP Message.asks := by
  induction messages generalizing state with
  | nil => cases state.phase <;> rfl
  | cons message messages ih =>
    rw [State.run, List.foldl_cons, ← State.run, ih, phase_step, asked_step, countP_asks_servedFrom_cons]
    split <;> omega

theorem asked_run_fresh (disk : Disk) (messages : List Message) :
    (State.fresh.run disk messages).asked = questionsIn messages := by
  rw [asked_run]
  exact Nat.zero_add _

theorem questionsIn_concat (disk : Disk) (messages : List Message) (message : Message) :
    questionsIn (messages ++ [message]) =
      if (State.fresh.run disk messages).phase = .serving ∧ message.asks then questionsIn messages + 1
      else questionsIn messages := by
  rw [← asked_run_fresh disk, run_concat, asked_step, asked_run_fresh]

theorem questionsIn_le_concat (messages : List Message) (message : Message) :
    questionsIn messages ≤ questionsIn (messages ++ [message]) := by
  rw [questionsIn_concat .empty messages message]
  split <;> omega

theorem answeredIn_concat (messages : List Message) (message : Message) (number : Nat) :
    answeredIn (messages ++ [message]) number =
      (answeredIn messages number || (number < questionsIn messages && message.answers number)) := by
  simp [answeredIn, historiesFrom_concat]

theorem lt_questionsIn_of_answeredIn {messages : List Message} {number : Nat}
    (answered : answeredIn messages number = true) : number < questionsIn messages := by
  induction messages using List.reverseRecOn with
  | nil => cases answered
  | append_singleton messages message ih =>
    have later := questionsIn_le_concat messages message
    rw [answeredIn_concat, Bool.or_eq_true, Bool.and_eq_true, decide_eq_true_eq] at answered
    rcases answered with before | now
    · exact Nat.lt_of_lt_of_le (ih before) later
    · exact Nat.lt_of_lt_of_le now.1 later

theorem Phase.after_eq_exited_iff {phase : Phase} {message : Message} :
    phase.after message = .exited ↔ phase = .exited ∨ message.isExit = true := by
  cases message with
  | request request => cases phase <;> cases request <;> simp [Phase.after, Message.isExit]
  | notification notification => cases phase <;> cases notification <;> simp [Phase.after, Message.isExit]
  | answer number answer => cases phase <;> simp [Phase.after, Message.isExit]

theorem going_iff (disk : Disk) {messages : List Message} :
    (∀ message ∈ messages, message.isExit = false) ↔ (State.fresh.run disk messages).phase ≠ .exited := by
  induction messages using List.reverseRecOn with
  | nil => simp [State.run, State.fresh]
  | append_singleton messages message ih =>
    rw [run_concat, phase_step, Ne, Phase.after_eq_exited_iff, not_or, ← Ne, ← ih]
    simp [or_imp, forall_and]

/-- The questions that were asked and not answered, in their order. -/
def unansweredIn (messages : List Message) : List Nat :=
  (List.range (questionsIn messages)).filter fun number => !answeredIn messages number

theorem unansweredIn_answer (messages : List Message) (number : Nat) (answer : Answer) :
    unansweredIn (messages ++ [.answer number answer]) = (unansweredIn messages).erase number := by
  have count : questionsIn (messages ++ [.answer number answer]) = questionsIn messages := by
    simp [questionsIn_concat .empty, Message.asks]
  have nodup : (unansweredIn messages).Nodup := List.nodup_range.filter _
  rw [nodup.erase_eq_filter, unansweredIn, unansweredIn, count, List.filter_filter]
  apply List.filter_congr
  intro other asked
  have listed : other < questionsIn messages := List.mem_range.mp asked
  rw [answeredIn_concat, decide_eq_true listed, Bool.true_and, Message.answers, Bool.not_or, Bool.and_comm]
  by_cases same : number = other
  · simp [same]
  · simp [same, Ne.symm same]

theorem unansweredIn_concat (disk : Disk) (messages : List Message) {message : Message}
    (own : message.isAnswer = false) :
    unansweredIn (messages ++ [message]) =
      if (State.fresh.run disk messages).phase = .serving ∧ message.asks then
        unansweredIn messages ++ [questionsIn messages]
      else unansweredIn messages := by
  have same : answeredIn (messages ++ [message]) = answeredIn messages := by
    funext number
    cases message with
    | answer _ _ => cases own
    | _ => simp [answeredIn_concat, Message.answers]
  have fresh : answeredIn messages (questionsIn messages) = false := by
    rw [← Bool.not_eq_true]
    exact fun answered => Nat.lt_irrefl _ (lt_questionsIn_of_answeredIn answered)
  rw [unansweredIn, questionsIn_concat disk, same]
  split
  · simp [List.range_succ, fresh, unansweredIn]
  · rfl

theorem waiting_run (disk : Disk) {messages : List Message} (going : (State.fresh.run disk messages).phase ≠ .exited) :
    (State.fresh.run disk messages).waiting = unansweredIn messages := by
  induction messages using List.reverseRecOn with
  | nil => rfl
  | append_singleton messages message ih =>
    have before : (State.fresh.run disk messages).phase ≠ .exited := by
      rw [← going_iff] at going ⊢
      exact fun earlier member => going earlier (List.mem_append_left _ member)
    rw [run_concat]
    cases message with
    | answer number answer =>
      rw [step_answer, if_neg before, State.waiting_answered, ih before, unansweredIn_answer]
    | _ =>
      rw [waiting_step_of_not_answer disk _ rfl, unansweredIn_concat disk messages rfl, ih before,
        asked_run_fresh]

/-- The open questions are those that a server which is not gone waits for. -/
theorem open_iff (disk : Disk) {messages : List Message} {number : Nat} :
    Open messages number ↔
      (State.fresh.run disk messages).phase ≠ .exited ∧ number ∈ (State.fresh.run disk messages).waiting := by
  constructor
  · intro still
    have going := (going_iff disk).mp still.going
    refine ⟨going, ?_⟩
    rw [waiting_run disk going]
    simp [unansweredIn, still.asked, still.unanswered]
  · intro expected
    obtain ⟨going, member⟩ := expected
    rw [waiting_run disk going] at member
    obtain ⟨asked, unanswered⟩ := List.mem_filter.mp member
    exact ⟨by simpa using asked, by simpa using unanswered, (going_iff disk).mpr going⟩

theorem open_of_asks {disk : Disk} {messages : List Message} {message : Message}
    (serving : (State.fresh.run disk messages).phase = .serving) (asks : message.asks = true) :
    Open (messages ++ [message]) (questionsIn messages) := by
  have own : message.isAnswer = false := by
    cases message with
    | answer number answer => cases asks
    | _ => rfl
  have staying : Phase.serving.after message = .serving := by
    by_contra leaving
    cases (asks_of_leaving leaving).symm.trans asks
  rw [open_iff disk, run_concat, phase_step, serving, staying, waiting_step_of_not_answer disk _ own,
    if_pos ⟨serving, asks⟩, asked_run_fresh]
  simp

theorem exists_sent_of_asks (disk : Disk) {state : State} {message : Message} (serving : state.phase = .serving)
    (asks : message.asks = true) :
    ∃ sent, (state.step disk message).2 = .handled none (sent ++ [.askSettings state.asked]) := by
  cases message with
  | notification notification =>
    cases notification with
    | initialized parameters =>
      have ready : Parameters.isReady parameters = true := asks
      exact ⟨[.log Dialect.startMessage], by simp [State.step, State.notification, serving, ready]⟩
    | settingsChanged parameters =>
      have shown : Parameters.isSettingsChange parameters = true := asks
      exact ⟨[], by simp [State.step, State.notification, serving, shown]⟩
    | _ => cases asks
  | _ => cases asks

end QueryNav.Server
