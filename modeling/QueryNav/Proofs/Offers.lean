import QueryNav.Proofs.BodyEdits
import QueryNav.Proofs.Fronts
import QueryNav.Server.Reply

/-! What is offered at a cursor. The reserved words always come first. Whether import references follow is told by
the line of the cursor, up to the column, and which ones is told by the header; nothing else in the text matters, and
a document that is not open has neither. -/

namespace QueryNav.Suggestion

open Text Header Server

/-- Import references are to be offered: they are wanted at all, and the longest front of the cursor's line for
which the column has room ends with the trigger. -/
def Asked (importReferences : Bool) (text : Text) (cursor : Position) : Prop :=
  importReferences = true ∧ ∃ line front, (Buffer.lines text)[cursor.line]? = some line ∧
    LongestFront units16 cursor.column line front ∧ front.getLast? = some Dialect.trigger

/-- The references to an imported module: by its path and, if it has one, by its alias. -/
def references (statement : Statement) : List Suggestion :=
  (statement.path :: statement.alias?.toList).map fun name =>
    ⟨'\x7b' :: name, .module, "Module: ".toList ++ statement.path⟩

theorem ofStatement_eq (statement : Statement) : ofStatement statement = references statement := by
  cases aliased : statement.alias? with
  | none => simp only [ofStatement, references, aliased]; rfl
  | some name => simp only [ofStatement, references, aliased]; rfl

theorem length_references (statement : Statement) :
    (references statement).length = 1 + if statement.alias?.isSome then 1 else 0 := by
  cases aliased : statement.alias? with
  | none => simp [references, aliased]
  | some name => simp [references, aliased]

theorem length_flatMap_references (statements : List Statement) :
    (statements.flatMap references).length =
      statements.length + statements.countP fun statement => statement.alias?.isSome := by
  induction statements with
  | nil => rfl
  | cons statement statements ih =>
    rw [List.flatMap_cons, List.length_append, length_references, ih, List.length_cons, List.countP_cons]
    omega

theorem atTrigger_iff {text : Text} {cursor : Position} :
    AtTrigger text cursor ↔ ∃ line front, (Buffer.lines text)[cursor.line]? = some line ∧
      LongestFront units16 cursor.column line front ∧ front.getLast? = some Dialect.trigger := by
  constructor
  · intro triggered
    cases found : (Buffer.lines text)[cursor.line]? with
    | none =>
      rw [AtTrigger, Buffer.before_of_missing found cursor.column] at triggered
      cases triggered
    | some line => exact ⟨line, _, rfl, Buffer.longestFront_before found cursor.column, triggered⟩
  · intro described
    obtain ⟨line, front, found, longest, ends⟩ := described
    rwa [(Buffer.longestFront_before found cursor.column).eq longest] at ends

theorem atCursor_of_asked {importReferences : Bool} {text : Text} {cursor : Position}
    (asked : Asked importReferences text cursor) :
    atCursor importReferences text cursor = keywords ++ (scan (Buffer.lines text)).flatMap references := by
  obtain ⟨rfl, described⟩ := asked
  have ends : (Buffer.before text cursor).getLast? = some Dialect.trigger := atTrigger_iff.mpr described
  rw [atCursor, complete, assemble, if_pos rfl, if_pos ends, funext ofStatement_eq]

theorem atCursor_of_not_asked {importReferences : Bool} {text : Text} {cursor : Position}
    (unasked : ¬ Asked importReferences text cursor) : atCursor importReferences text cursor = keywords := by
  rw [atCursor, complete, assemble, if_neg, List.append_nil]
  intro ends
  cases importReferences with
  | false => cases ends
  | true => exact unasked ⟨rfl, atTrigger_iff.mp ends⟩

theorem not_asked_nil (importReferences : Bool) (cursor : Position) : ¬ Asked importReferences [] cursor := by
  intro asked
  obtain ⟨_, line, front, found, longest, ends⟩ := asked
  obtain rfl : line = [] := by
    have member := List.mem_of_getElem? found
    simpa [Buffer.lines, rows, content, trimEndWhile] using member
  rw [List.prefix_nil.mp longest.starts] at ends
  cases ends

theorem pairwise_keywords_append {offered : List Suggestion} (all : ∀ item ∈ offered, item.kind = .module) :
    (keywords ++ offered).Pairwise fun earlier later => earlier.kind = .module → later.kind = .module := by
  refine List.pairwise_append.mpr ⟨?_, ?_, ?_⟩
  · apply List.pairwise_of_forall_mem_list
    intro earlier member later _ same
    cases (kind_of_mem_keywords member).symm.trans same
  · apply List.pairwise_of_forall_mem_list
    intro earlier _ later member _
    exact all later member
  · intro earlier _ later member _
    exact all later member

theorem keywords_eq :
    keywords = Dialect.keywords.map fun word => ⟨word.toList, .keyword, "ezsql keyword: ".toList ++ word.toList⟩ := by
  apply List.map_congr_left
  intro word _
  rw [ofKeyword, String.toList_append]

theorem step_completion {state : State} {parameters : Json} {uri : Uri} {cursor : Position} (disk : Disk)
    (serving : state.phase = .serving) (given : Parameters.completion? parameters = some (uri, cursor)) :
    state.step disk (.request (.completion parameters)) =
      (state, .handled (some (.suggestions (state.suggestions uri cursor))) []) := by
  simp [State.step, State.request, State.completion, serving, given]

theorem suggestions_of_closed {state : State} {uri : Uri} (closed : state.documents.get? uri.text = none)
    (cursor : Position) : state.suggestions uri cursor = keywords := by
  rw [State.suggestions, closed]
  exact atCursor_of_not_asked (not_asked_nil _ cursor)

theorem exists_offered (importReferences : Bool) (text : Text) (cursor : Position) :
    ∃ offered, atCursor importReferences text cursor = keywords ++ offered ∧
      (∀ item ∈ offered, item.kind = .module) ∧ (¬ Asked importReferences text cursor → offered = []) ∧
      (Asked importReferences text cursor → offered = (scan (Buffer.lines text)).flatMap references) := by
  by_cases asked : Asked importReferences text cursor
  · refine ⟨_, atCursor_of_asked asked, ?_, fun unasked => absurd asked unasked, fun _ => rfl⟩
    rw [← funext ofStatement_eq]
    exact fun _ => kind_of_mem_references
  · exact ⟨[], by rw [atCursor_of_not_asked asked, List.append_nil], by simp, fun _ => rfl, (absurd · asked)⟩

/-- The suggestions at a cursor are the reserved words in their order, and behind them the references of the
header's imports exactly if these are asked for at the cursor, each import by its path and by its alias. A document
that is open is answered so, and for one that is not the reserved words are all. -/
theorem suggestions_told_by_cursor_and_header (importReferences : Bool) (text : Text) (cursor : Position) :
    ∃ offered, atCursor importReferences text cursor =
        (Dialect.keywords.map fun word => ⟨word.toList, .keyword, "ezsql keyword: ".toList ++ word.toList⟩) ++ offered ∧
      (¬ Asked importReferences text cursor → offered = []) ∧
      (Asked importReferences text cursor → offered = (scan (Buffer.lines text)).flatMap references ∧
        offered.length = (scan (Buffer.lines text)).length +
          (scan (Buffer.lines text)).countP fun statement => statement.alias?.isSome) ∧
      modules (atCursor importReferences text cursor) = offered ∧
      ((atCursor importReferences text cursor).Pairwise fun earlier later =>
        earlier.kind = .module → later.kind = .module) ∧
      ∀ (disk : Disk) (state : State) (parameters : Json) (uri : Uri), state.phase = .serving →
        Parameters.completion? parameters = some (uri, cursor) →
        (state.documents.get? uri.text = none → state.step disk (.request (.completion parameters)) =
          (state, .handled (some (.suggestions keywords)) [])) ∧
        ∀ version, state.documents.get? uri.text = some ⟨text, version⟩ →
          state.settings.importCompletion = importReferences →
          state.step disk (.request (.completion parameters)) =
            (state, .handled (some (.suggestions (atCursor importReferences text cursor))) []) := by
  obtain ⟨offered, shape, all, none, asked⟩ := exists_offered importReferences text cursor
  refine ⟨offered, by rw [shape, keywords_eq], none, ?_, ?_, ?_, ?_⟩
  · intro wanted
    refine ⟨asked wanted, ?_⟩
    rw [asked wanted, length_flatMap_references]
  · rw [shape, modules_keywords_append all]
  · rw [shape]
    exact pairwise_keywords_append all
  · intro disk state parameters uri serving given
    constructor
    · intro closed
      rw [step_completion disk serving given, suggestions_of_closed closed]
    · intro version opened wanted
      rw [step_completion disk serving given, State.suggestions, opened, Settings.completer, wanted]
      rfl

/-- The cursor is between the two characters of a break, behind a trigger that follows a character of two units; the
same place is asked for in a document that is not open. -/
theorem suggestions_told_by_cursor_and_header_inside_break :
    let text : Text := "<head>\rimport a.b as c\nimport d\r\n</head>\r😀@\r\n".toList
    let state : State := ⟨.serving, Store.empty.put "file:///q".toList ⟨text, 1⟩, .standard, 1, [0]⟩
    let about (address : String) : Json := .record [("textDocument", .record [("uri", .ofString address)]),
      ("position", positionJson ⟨4, 4⟩), ("context", .arr [.int 2, .ofString "@"])]
    let offered : List Suggestion := [⟨"\x7ba.b".toList, .module, "Module: a.b".toList⟩,
      ⟨"\x7bc".toList, .module, "Module: a.b".toList⟩, ⟨"\x7bd".toList, .module, "Module: d".toList⟩]
    Asked true text ⟨4, 4⟩ ∧ ¬ Asked true text ⟨4, 2⟩ ∧ atCursor true text ⟨4, 4⟩ = keywords ++ offered ∧
      atCursor true text ⟨4, 2⟩ = keywords ∧
      state.step .empty (.request (.completion (about "file:///q"))) =
        (state, .handled (some (.suggestions (keywords ++ offered))) []) ∧
      state.step .empty (.request (.completion (about "file:///r"))) =
        (state, .handled (some (.suggestions keywords)) []) := by
  intro text state about offered
  have line : (Buffer.lines text)[4]? = some "😀@".toList := by decide
  have asked : Asked true text ⟨4, 4⟩ :=
    ⟨rfl, _, _, line, longestFront_fitting units16 4 "😀@".toList, by decide⟩
  have unasked : ¬ Asked true text ⟨4, 2⟩ := by
    intro asked
    obtain ⟨_, found, front, listed, longest, ends⟩ := asked
    cases listed.symm.trans line
    rw [(longestFront_fitting units16 2 "😀@".toList).eq longest] at ends
    revert ends
    decide
  obtain ⟨items, shape, _, wanted, _, _, served⟩ := suggestions_told_by_cursor_and_header true text ⟨4, 4⟩
  obtain ⟨others, without, nothing, _⟩ := suggestions_told_by_cursor_and_header true text ⟨4, 2⟩
  have all : (scan (Buffer.lines text)).flatMap references = offered := by decide
  have whole : atCursor true text ⟨4, 4⟩ = keywords ++ offered := by rw [shape, (wanted asked).1, all, keywords_eq]
  have alone : atCursor true text ⟨4, 2⟩ = keywords := by
    rw [without, nothing unasked, List.append_nil, keywords_eq]
  let uri (name : Text) : Uri := ⟨"file".toList, some (.ofHost (.name [])), .segments [name], none, none⟩
  have first : Parameters.completion? (about "file:///q") = some (uri "q".toList, ⟨4, 4⟩) := by decide +kernel
  have second : Parameters.completion? (about "file:///r") = some (uri "r".toList, ⟨4, 4⟩) := by decide +kernel
  have opened := (served .empty state _ _ rfl first).2 1 (by decide +kernel) rfl
  have closed := (served .empty state _ _ rfl second).1 (by decide +kernel)
  rw [whole] at opened
  exact ⟨asked, unasked, whole, alone, opened, closed⟩

end QueryNav.Suggestion
