import QueryNav.Completion
import QueryNav.Proofs.Locality

/-! Edits of the query body. The search for imports stops at the line that ends the header and sees nothing
behind it. An edit that is made behind that line leaves it and all lines in front of it as they are, whatever
the edit puts there, so the imports and the references that are offered for them stay the same. -/

namespace QueryNav.Header

open Text

/-- Whether a line ends the header: it holds a closing marker and no opening one. -/
def endsHeader (raw : Text) : Bool := !opens (trim raw) && closes (trim raw)

/-- The search does not see what follows a line that ends the header. -/
theorem scanFrom_ending {stop : Text} (ends : endsHeader stop = true) (inside : Bool) (number : Nat)
    (front back : List Text) :
    scanFrom inside number (front ++ stop :: back) = scanFrom inside number (front ++ [stop]) := by
  induction front generalizing inside number with
  | nil =>
    obtain ⟨unopened, closed⟩ : opens (trim stop) = false ∧ closes (trim stop) = true := by
      simpa [endsHeader] using ends
    simp [scanFrom, unopened, closed]
  | cons raw front ih => simp only [List.cons_append, scanFrom, ih]

/-- The header of a text ends on line `number`, and another line follows. -/
structure EndsAt (text : Text) (number : Nat) : Prop where
  first : (Buffer.lines text).findIdx? endsHeader = some number
  followed : number + 1 < (Buffer.lines text).length

/-- A change of a range whose two ends are both behind line `number`. -/
def Behind (number : Nat) (change : Buffer.Change) : Prop :=
  ∃ first last, change.range? = some (first, last) ∧ number < first.line ∧ number < last.line

theorem endsAt_iff {text : Text} {number : Nat} :
    EndsAt text number ↔ ∃ front stop back, Buffer.lines text = front ++ stop :: back ∧ front.length = number ∧
      (∀ raw ∈ front, endsHeader raw = false) ∧ endsHeader stop = true ∧ back ≠ [] := by
  constructor
  · intro header
    obtain ⟨inside, ends, earlier⟩ := List.findIdx?_eq_some_iff_getElem.mp header.first
    refine ⟨(Buffer.lines text).take number, (Buffer.lines text)[number], (Buffer.lines text).drop (number + 1),
      ?_, ?_, ?_, ends, ?_⟩
    · rw [List.getElem_cons_drop, List.take_append_drop]
    · exact List.length_take_of_le (Nat.le_of_lt inside)
    · intro raw member
      obtain ⟨index, early, rfl⟩ := List.mem_take_iff_getElem.mp member
      exact Bool.eq_false_iff.mpr (earlier index (by omega))
    · have followed := header.followed
      exact List.ne_nil_of_length_pos (by rw [List.length_drop]; omega)
  · intro cut
    obtain ⟨front, stop, back, whole, rfl, earlier, ends, more⟩ := cut
    have followed := List.length_pos_iff.mpr more
    refine ⟨?_, by rw [whole, List.length_append, List.length_cons]; omega⟩
    rw [whole, List.findIdx?_append, List.findIdx?_eq_none_iff.mpr (by simpa using earlier)]
    simp [List.findIdx?_cons, ends]

/-- A change behind the line that ends the header keeps this line and all lines in front of it. -/
theorem EndsAt.front {text : Text} {number : Nat} {change : Buffer.Change} (header : EndsAt text number)
    (behind : Behind number change) :
    ∃ later, later ≠ [] ∧
      Buffer.lines (Buffer.apply text change) = (Buffer.lines text).take (number + 1) ++ later := by
  obtain ⟨first, last, ranged, low, high⟩ := behind
  obtain ⟨range?, new⟩ := change
  cases ranged
  have followed := header.followed
  simp only [Buffer.lines_eq] at followed ⊢
  exact Buffer.lines_apply_front followed low high new

theorem EndsAt.apply {text : Text} {number : Nat} {change : Buffer.Change} (header : EndsAt text number)
    (behind : Behind number change) : EndsAt (Buffer.apply text change) number := by
  obtain ⟨later, more, kept⟩ := header.front behind
  obtain ⟨front, stop, back, whole, rfl, earlier, ends, _⟩ := endsAt_iff.mp header
  refine endsAt_iff.mpr ⟨front, stop, later, ?_, rfl, earlier, ends, more⟩
  rw [kept, whole, List.take_length_add_append]
  simp

theorem EndsAt.scan_eq {text : Text} {number : Nat} (header : EndsAt text number) :
    scan (Buffer.lines text) = scan ((Buffer.lines text).take (number + 1)) := by
  obtain ⟨front, stop, back, whole, rfl, _, ends, _⟩ := endsAt_iff.mp header
  rw [whole, List.take_length_add_append, scan, scanFrom_ending ends, scan]
  rfl

theorem EndsAt.scan_apply {text : Text} {number : Nat} {change : Buffer.Change} (header : EndsAt text number)
    (behind : Behind number change) :
    scan (Buffer.lines (Buffer.apply text change)) = scan (Buffer.lines text) := by
  have long : number + 1 ≤ (Buffer.lines text).length := Nat.le_of_lt header.followed
  obtain ⟨later, _, kept⟩ := header.front behind
  rw [(header.apply behind).scan_eq, header.scan_eq, kept, List.take_append_of_le_length (by simp [long]),
    List.take_take, Nat.min_self]

theorem EndsAt.scan_applyAll {text : Text} {number : Nat} (header : EndsAt text number) {changes : List Buffer.Change}
    (behind : ∀ change ∈ changes, Behind number change) :
    scan (Buffer.lines (Buffer.applyAll text changes)) = scan (Buffer.lines text) := by
  induction changes generalizing text with
  | nil => rfl
  | cons change changes ih =>
    have first := behind change (by simp)
    have others := ih (header.apply first) (fun later member => behind later (by simp [member]))
    rw [← header.scan_apply first, ← others]
    rfl

end QueryNav.Header

namespace QueryNav.Suggestion

open Header

def modules (items : List Suggestion) : List Suggestion := items.filter fun item => item.kind = .module

/-- The text of the cursor's line ends with the trigger just before the cursor. -/
def AtTrigger (text : Text) (cursor : Position) : Prop :=
  (Buffer.before text cursor).getLast? = some Dialect.trigger

theorem kind_of_mem_keywords {item : Suggestion} (member : item ∈ keywords) : item.kind = .keyword := by
  obtain ⟨word, _, rfl⟩ := List.mem_map.mp member
  rfl

theorem kind_of_mem_references {statements : List Statement} {item : Suggestion}
    (member : item ∈ statements.flatMap ofStatement) : item.kind = .module := by
  obtain ⟨statement, _, offered⟩ := List.mem_flatMap.mp member
  rcases List.mem_cons.mp offered with rfl | named
  · rfl
  · obtain ⟨name, _, rfl⟩ := List.mem_map.mp named
    rfl

theorem modules_keywords_append {offered : List Suggestion} (all : ∀ item ∈ offered, item.kind = .module) :
    modules (keywords ++ offered) = offered := by
  have none : modules keywords = [] := by
    apply List.filter_eq_nil_iff.mpr
    intro item member
    simp [kind_of_mem_keywords member]
  have whole : modules offered = offered := List.filter_eq_self.mpr fun item member => decide_eq_true (all item member)
  rw [modules, List.filter_append, ← modules, none, ← modules, whole, List.nil_append]

theorem modules_assemble (lines : List Text) (before : Text) :
    modules (assemble lines before) =
      if before.getLast? = some Dialect.trigger then (scan lines).flatMap ofStatement else [] := by
  apply modules_keywords_append
  intro item member
  split at member
  · exact kind_of_mem_references member
  · cases member

theorem modules_atCursor {text : Text} {cursor : Position} (triggered : AtTrigger text cursor)
    (importReferences : Bool) :
    modules (atCursor importReferences text cursor) =
      if importReferences then (scan (Buffer.lines text)).flatMap ofStatement else [] := by
  rw [atCursor, complete, modules_assemble]
  cases importReferences with
  | true => exact if_pos triggered
  | false => rfl

/-- A change behind the line that ends the header changes neither the imports nor the references that are
offered for them behind a trigger, before the change and after it. No number of such changes, made one after the
other, changes the imports. -/
theorem imports_kept_by_body_edit (text : Text) (number : Nat) (first last : Position) (new : Text)
    (ends : (Buffer.lines text).findIdx? endsHeader = some number) (followed : number + 1 < (Buffer.lines text).length)
    (low : number < first.line) (high : number < last.line) :
    scan (Buffer.lines (Buffer.apply text ⟨some (first, last), new⟩)) = scan (Buffer.lines text) ∧
      (∀ importReferences cursor later, AtTrigger text cursor →
        AtTrigger (Buffer.apply text ⟨some (first, last), new⟩) later →
        modules (atCursor importReferences (Buffer.apply text ⟨some (first, last), new⟩) later) =
          modules (atCursor importReferences text cursor)) ∧
      ∀ changes : List Buffer.Change, (∀ change ∈ changes, Behind number change) →
        scan (Buffer.lines (Buffer.applyAll text changes)) = scan (Buffer.lines text) := by
  have header : EndsAt text number := ⟨ends, followed⟩
  have behind : Behind number ⟨some (first, last), new⟩ := ⟨first, last, rfl, low, high⟩
  have same := header.scan_apply behind
  refine ⟨same, ?_, fun changes => header.scan_applyAll⟩
  intro importReferences cursor later before after
  rw [modules_atCursor before, modules_atCursor after, same]

/-- The header ends with a carriage return, and the new text begins with a line feed and holds a header of its
own, with a trigger behind it; another change then takes out the new header's first lines. -/
theorem imports_kept_by_body_edit_with_second_header :
    let text : Text := "<head>\rimport a.b as c\r</head>\r@".toList
    let changed := Buffer.apply text ⟨some (⟨9, 9⟩, ⟨3, 0⟩), "\n<head>\nimport x\n@".toList⟩
    (Buffer.lines text).findIdx? endsHeader = some 2 ∧ 2 + 1 < (Buffer.lines text).length ∧
      AtTrigger text ⟨3, 1⟩ ∧ AtTrigger changed ⟨5, 1⟩ ∧ scan (Buffer.lines changed) = scan (Buffer.lines text) ∧
      modules (atCursor true changed ⟨5, 1⟩) = modules (atCursor true text ⟨3, 1⟩) ∧
      scan (Buffer.lines (Buffer.apply changed ⟨some (⟨3, 0⟩, ⟨4, 7⟩), []⟩)) = scan (Buffer.lines text) := by
  intro text changed
  have ends : (Buffer.lines text).findIdx? endsHeader = some 2 := by decide
  have followed : 2 + 1 < (Buffer.lines text).length := by decide
  have before : AtTrigger text ⟨3, 1⟩ := by unfold AtTrigger; decide
  have after : AtTrigger changed ⟨5, 1⟩ := by unfold AtTrigger; decide
  obtain ⟨imports, references, batches⟩ := imports_kept_by_body_edit text 2 ⟨9, 9⟩ ⟨3, 0⟩ "\n<head>\nimport x\n@".toList
    ends followed (by decide) (by decide)
  have both := batches [⟨some (⟨9, 9⟩, ⟨3, 0⟩), "\n<head>\nimport x\n@".toList⟩, ⟨some (⟨3, 0⟩, ⟨4, 7⟩), []⟩]
    (List.forall_mem_cons.mpr ⟨⟨_, _, rfl, by decide, by decide⟩,
      List.forall_mem_singleton.mpr ⟨_, _, rfl, by decide, by decide⟩⟩)
  exact ⟨ends, followed, before, after, imports, references true ⟨3, 1⟩ ⟨5, 1⟩ before after, both⟩

end QueryNav.Suggestion
