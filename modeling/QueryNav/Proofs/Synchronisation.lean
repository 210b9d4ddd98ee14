import QueryNav.Proofs.Places
import QueryNav.Server.Reply

/-! An editor and the server hold the same text. The editor edits its own copy by index and reports each
edit under the names that the places have at that moment; the server has only these names. Every report is
taken for what it was, whatever the edits before it did to the lines, so the two copies are equal after
every message. -/

namespace QueryNav.Editor

open Buffer Server

/-- An edit of a text: the characters from `low` up to `high` make place for `new`. -/
structure Edit where
  low : Nat
  high : Nat
  new : Text
  ordered : low ≤ high

def Edit.perform (edit : Edit) (text : Text) : Text := text.take edit.low ++ edit.new ++ text.drop edit.high

/-- The edit as it is reported, its two ends named by where they are in the text that is edited. -/
def Edit.report (edit : Edit) (text : Text) : Change :=
  ⟨some (locate text edit.low, locate text edit.high), edit.new⟩

/-- Whether the editor's protocol has numbers for a position. -/
def Writable (position : Position) : Prop :=
  position.line < Parameters.unsignedLimit ∧ position.column < Parameters.unsignedLimit

structure Edit.Fits (edit : Edit) (text : Text) : Prop where
  inside : edit.high ≤ text.length
  first : Writable (locate text edit.low)
  last : Writable (locate text edit.high)

def performAll (text : Text) (edits : List Edit) : Text := edits.foldl (fun current edit => edit.perform current) text

/-- The reports of several edits, each made to the result of the one before. -/
def reportAll (text : Text) : List Edit → List Change
  | [] => []
  | edit :: edits => edit.report text :: reportAll (edit.perform text) edits

def AllFit (text : Text) : List Edit → Prop
  | [] => True
  | edit :: edits => edit.Fits text ∧ AllFit (edit.perform text) edits

instance (position : Position) : Decidable (Writable position) := inferInstanceAs (Decidable (_ ∧ _))

instance (edit : Edit) (text : Text) : Decidable (edit.Fits text) :=
  decidable_of_iff
    (edit.high ≤ text.length ∧ Writable (locate text edit.low) ∧ Writable (locate text edit.high))
    ⟨fun all => ⟨all.1, all.2.1, all.2.2⟩, fun fits => ⟨fits.inside, fits.first, fits.last⟩⟩

instance decidableAllFit : (text : Text) → (edits : List Edit) → Decidable (AllFit text edits)
  | _, [] => .isTrue trivial
  | text, edit :: edits =>
    have := decidableAllFit (edit.perform text) edits
    inferInstanceAs (Decidable (_ ∧ _))

/-- The edits that are reported in one message, and the version of the document they lead to. -/
structure Batch where
  version : Int32
  edits : List Edit

def changeJson (change : Change) : Json :=
  .record ((change.range?.toList.map fun range => ("range", rangeJson range.1 range.2)) ++ [("text", .str change.text)])

def documentJson (address language : Text) (version : Int32) (text : Text) : Json :=
  .record [("uri", .str address), ("languageId", .str language), ("version", .int version.toInt), ("text", .str text)]

def versionedJson (address : Text) (version : Int32) : Json :=
  .record [("uri", .str address), ("version", .int version.toInt)]

def openingJson (address language : Text) (version : Int32) (text : Text) : Json :=
  .record [("textDocument", documentJson address language version text)]

def updateJson (address : Text) (version : Int32) (changes : List Change) : Json :=
  .record [("textDocument", versionedJson address version), ("contentChanges", .arr (changes.map changeJson))]

def opening (address language : Text) (version : Int32) (text : Text) : Message :=
  .notification (.opened (openingJson address language version text))

/-- The messages about several batches, in the order of the edits. -/
def updates (address text : Text) : List Batch → List Message
  | [] => []
  | batch :: batches =>
    .notification (.changed (updateJson address batch.version (reportAll text batch.edits))) ::
      updates address (performAll text batch.edits) batches

/-- The server's copy of a report does what the editor did. -/
theorem apply_report {edit : Edit} {text : Text} (fits : edit.Fits text) :
    Buffer.apply text (edit.report text) = edit.perform text := by
  have low := offset_locate text edit.low (Nat.le_trans edit.ordered fits.inside)
  have high := offset_locate text edit.high fits.inside
  simp only [Buffer.apply, Edit.report, low, high, splice, Nat.min_eq_left edit.ordered,
    Nat.max_eq_right edit.ordered, Edit.perform]

theorem applyAll_reportAll {text : Text} {edits : List Edit} (fit : AllFit text edits) :
    applyAll text (reportAll text edits) = performAll text edits := by
  induction edits generalizing text with
  | nil => rfl
  | cons edit edits ih =>
    obtain ⟨first, others⟩ := fit
    have rest := ih others
    simp only [applyAll, reportAll, List.foldl_cons, performAll, apply_report first] at rest ⊢
    exact rest

theorem allFit_append {text : Text} {front back : List Edit} :
    AllFit text (front ++ back) ↔ AllFit text front ∧ AllFit (performAll text front) back := by
  induction front generalizing text with
  | nil => simp [AllFit, performAll]
  | cons edit front ih => simp [AllFit, performAll, ih, and_assoc]

theorem performAll_append (text : Text) (front back : List Edit) :
    performAll text (front ++ back) = performAll (performAll text front) back :=
  List.foldl_append

theorem unsigned?_ofNat {number : Nat} (small : number < Parameters.unsignedLimit) :
    Parameters.unsigned? (.ofNat number) = some number := by
  have below : (number : Int) < Parameters.unsignedLimit := by exact_mod_cast small
  simp [Parameters.unsigned?, Json.natBelow?, Json.ofNat, Json.intWithin?, below]

theorem signed?_toInt (version : Int32) : Parameters.signed? (.int version.toInt) = some version.toInt := by
  have low := version.le_toInt
  have high := version.toInt_lt
  simp only [Parameters.signed?, Json.intWithin?]
  rw [if_pos ⟨by omega, by omega⟩]

private theorem position?_of_members {json line column : Json} {position : Position}
    (parts : json.members? 2 ["line", "character"] = some [some line, some column])
    (down : Parameters.unsigned? line = some position.line)
    (across : Parameters.unsigned? column = some position.column) : Parameters.position? json = some position := by
  simp [Parameters.position?, parts, down, across]

theorem position?_positionJson {position : Position} (writable : Writable position) :
    Parameters.position? (positionJson position) = some position := by
  have parts : (positionJson position).members? 2 ["line", "character"] =
      some [some (.ofNat position.line), some (.ofNat position.column)] := by simp [positionJson, List.lookup_cons]
  exact position?_of_members parts (unsigned?_ofNat writable.1) (unsigned?_ofNat writable.2)

private theorem range?_of_members {json start stop : Json} {first last : Position}
    (parts : json.members? 2 ["start", "end"] = some [some start, some stop])
    (low : Parameters.position? start = some first) (high : Parameters.position? stop = some last) :
    Parameters.range? json = some (first, last) := by
  simp [Parameters.range?, parts, low, high]

theorem range?_rangeJson {first last : Position} (low : Writable first) (high : Writable last) :
    Parameters.range? (rangeJson first last) = some (first, last) := by
  have parts : (rangeJson first last).members? 2 ["start", "end"] =
      some [some (positionJson first), some (positionJson last)] := by simp [rangeJson, List.lookup_cons]
  exact range?_of_members parts (position?_positionJson low) (position?_positionJson high)

private theorem change?_of_members {json : Json} {fields : List (String × Json)} {range : Position × Position}
    {text : Text}
    (parts : json.members? 3 ["range", "rangeLength", "text"] = some [some (.record fields), none, some (.str text)])
    (ends : Parameters.range? (.record fields) = some range) : Parameters.change? json = some ⟨some range, text⟩ := by
  have given : Json.optional? Parameters.range? (some (.record fields)) = some (some range) :=
    congrArg (Option.map some) ends
  simp only [Parameters.change?, parts, Option.bind_eq_bind, Option.bind_some, given]
  rfl

theorem change?_report {edit : Edit} {text : Text} (fits : edit.Fits text) :
    Parameters.change? (changeJson (edit.report text)) = some (edit.report text) := by
  have parts : (changeJson (edit.report text)).members? 3 ["range", "rangeLength", "text"] =
      some [some (rangeJson (locate text edit.low) (locate text edit.high)), none, some (.str edit.new)] := by
    simp [changeJson, Edit.report, List.lookup_cons]
  exact change?_of_members parts (range?_rangeJson fits.first fits.last)

theorem mapM_change?_reportAll {text : Text} {edits : List Edit} (fit : AllFit text edits) :
    ((reportAll text edits).map changeJson).mapM Parameters.change? = some (reportAll text edits) := by
  induction edits generalizing text with
  | nil => rfl
  | cons edit edits ih =>
    obtain ⟨first, others⟩ := fit
    simp only [reportAll, List.map_cons, List.mapM_cons, change?_report first, ih others]
    rfl

section Conversation

variable {address : Text} {uri : Uri} (known : Uri.parse? address = some uri)

include known

theorem opened?_openingJson (language : Text) (version : Int32) (text : Text) :
    Parameters.opened? (openingJson address language version text) = some (uri, .opened version.toInt text) := by
  have about : (openingJson address language version text).members? 1 ["textDocument"] =
      some [some (documentJson address language version text)] := by simp [openingJson]
  have parts : (documentJson address language version text).members? 4 ["uri", "languageId", "version", "text"] =
      some [some (.str address), some (.str language), some (.int version.toInt), some (.str text)] := by
    simp [documentJson, List.lookup_cons]
  simp [Parameters.opened?, about, parts, Parameters.uri?, Json.text?, known, signed?_toInt]

theorem changed?_updateJson {text : Text} {edits : List Edit} (fit : AllFit text edits) (version : Int32) :
    Parameters.changed? (updateJson address version (reportAll text edits)) =
      some (uri, .changed version.toInt (reportAll text edits)) := by
  have about : (updateJson address version (reportAll text edits)).members? 2 ["textDocument", "contentChanges"] =
      some [some (versionedJson address version), some (.arr ((reportAll text edits).map changeJson))] := by
    simp [updateJson, List.lookup_cons]
  have parts : (versionedJson address version).members? 2 ["uri", "version"] =
      some [some (.str address), some (.int version.toInt)] := by simp [versionedJson, List.lookup_cons]
  have read := mapM_change?_reportAll fit
  simp [Parameters.changed?, about, parts, Parameters.uri?, Json.text?, known, signed?_toInt, Json.items?, read]

end Conversation

/-- The server goes on serving and holds `text` as the text of the document. -/
structure Holds (state : State) (uri : Uri) (text : Text) : Prop where
  serving : state.phase = .serving
  stored : (state.documents.get? uri.text).map Document.text = some text

section Session

variable {address : Text} {uri : Uri} (known : Uri.parse? address = some uri)

include known

theorem holds_opening (disk : Disk) {state : State} (serving : state.phase = .serving) (language : Text)
    (version : Int32) (text : Text) :
    Holds (state.step disk (opening address language version text)).1 uri text := by
  have next : (state.step disk (opening address language version text)).1 =
      { state with documents := state.documents.apply uri.text (.opened version.toInt text) } := by
    simp [State.step, opening, State.notification, serving, State.record, opened?_openingJson known]
  rw [next]
  exact ⟨serving, by simp [Store.get?_apply_self, Event.apply]⟩

/-- One message about a batch takes the editor's text before the batch to its text after it. -/
theorem Holds.update (disk : Disk) {state : State} {text : Text} (holds : Holds state uri text)
    {edits : List Edit} (fit : AllFit text edits) (version : Int32) :
    Holds (state.step disk (.notification (.changed (updateJson address version (reportAll text edits))))).1 uri
      (performAll text edits) := by
  have serving := holds.serving
  have next : (state.step disk (.notification (.changed (updateJson address version (reportAll text edits))))).1 =
      { state with
        documents := state.documents.apply uri.text (.changed version.toInt (reportAll text edits)) } := by
    simp [State.step, State.notification, serving, State.record, changed?_updateJson known fit]
  obtain ⟨document, found, rfl⟩ := Option.map_eq_some_iff.mp holds.stored
  rw [next]
  exact ⟨serving, by simp [Store.get?_apply_self, found, Event.apply, applyAll_reportAll fit]⟩

theorem Holds.updates (disk : Disk) {state : State} {text : Text} (holds : Holds state uri text)
    {batches : List Batch} (fit : AllFit text (batches.flatMap Batch.edits)) :
    Holds (state.run disk (updates address text batches)) uri (performAll text (batches.flatMap Batch.edits)) := by
  induction batches generalizing state text with
  | nil => exact holds
  | cons batch batches ih =>
    rw [List.flatMap_cons] at fit ⊢
    obtain ⟨first, others⟩ := allFit_append.mp fit
    rw [performAll_append]
    exact ih (holds.update known disk first batch.version) others

end Session

theorem take_updates (address text : Text) (batches : List Batch) (sent : Nat) :
    (updates address text batches).take sent = updates address text (batches.take sent) := by
  induction batches generalizing text sent with
  | nil => simp [updates]
  | cons batch batches ih =>
    cases sent with
    | zero => rfl
    | succ sent => simp only [updates, List.take_succ_cons, ih]

/-- A document never drifts from the text of the editor that opened it and edits it. However the edits
are distributed over messages, and after each of these messages, the stored text is the editor's; and in
every text the server finds each index again under the name that the editor gives to it. -/
theorem stored_text_eq_edited_text (disk : Disk) (state : State) (serving : state.phase = .serving)
    (address : Text) (uri : Uri) (known : Uri.parse? address = some uri) (language : Text) (version : Int32)
    (text : Text) (batches : List Batch) (fit : AllFit text (batches.flatMap Batch.edits)) :
    (∀ sent, ((state.run disk (opening address language version text ::
          (updates address text batches).take sent)).documents.get? uri.text).map Document.text =
        some (performAll text ((batches.take sent).flatMap Batch.edits))) ∧
      ∀ (current : Text) (index : Nat), index ≤ current.length → offset current (locate current index) = index := by
  refine ⟨?_, offset_locate⟩
  intro sent
  have early : AllFit text ((batches.take sent).flatMap Batch.edits) := by
    rw [← List.take_append_drop sent batches, List.flatMap_append] at fit
    exact (allFit_append.mp fit).1
  rw [take_updates]
  exact (Holds.updates known disk (holds_opening known disk serving language version text) early).stored

/-- A document with a break of two characters and a character of two units: the first message puts a letter
in the place of the line feed and a line feed in front of it again, the second removes the wide character. -/
theorem stored_text_eq_edited_text_across_a_break :
    let state := (State.fresh.step .empty (.request .setup)).1
    let uri : Uri := ⟨"file".toList, some (.ofHost (.name [])), .segments ["q.ezsql".toList], none, none⟩
    let batches : List Batch :=
      [⟨2, [⟨2, 3, ['x'], by decide⟩, ⟨2, 2, ['\n'], by decide⟩]⟩, ⟨3, [⟨4, 5, [], by decide⟩]⟩]
    state.phase = .serving ∧ Uri.parse? "file:///q.ezsql".toList = some uri ∧
      AllFit ['a', '\r', '\n', '😀'] (batches.flatMap Batch.edits) ∧
      ((state.run .empty (opening "file:///q.ezsql".toList "ezsql".toList 1 ['a', '\r', '\n', '😀'] ::
        (updates "file:///q.ezsql".toList ['a', '\r', '\n', '😀'] batches).take 2)).documents.get? uri.text).map
          Document.text = some ['a', '\r', '\n', 'x'] := by
  intro state uri batches
  have serving : state.phase = .serving := rfl
  have known : Uri.parse? "file:///q.ezsql".toList = some uri := by decide
  have fit : AllFit ['a', '\r', '\n', '😀'] (batches.flatMap Batch.edits) := by decide
  exact ⟨serving, known, fit,
    (stored_text_eq_edited_text .empty state serving _ uri known "ezsql".toList 1 _ batches fit).1 2⟩

end QueryNav.Editor
