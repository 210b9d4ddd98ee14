import QueryNav.Buffer

/-! The open documents of a language server, by the text of their addresses. What happens to a document
is an event; it changes the entry under its own address and no other. Opening replaces whatever is
there, a change needs an open document, and closing removes it. -/

namespace QueryNav.Server

open Text

structure Document where
  text : Text
  version : Int
  deriving DecidableEq, Repr

/-- Something that the editor tells about a document. -/
inductive Event where
  | opened (version : Int) (text : Text)
  | changed (version : Int) (changes : List Buffer.Change)
  | closed
  deriving DecidableEq, Repr

/-- The state of a document after an event, `none` standing for a document that is not open. -/
def Event.apply (event : Event) (document? : Option Document) : Option Document :=
  match event, document? with
  | .opened version text, _ => some ⟨text, version⟩
  | .changed version changes, some document => some ⟨Buffer.applyAll document.text changes, version⟩
  | .changed _ _, none => none
  | .closed, _ => none

/-- The open documents, one entry for each address. -/
structure Store where
  entries : List (Text × Document)
  deriving DecidableEq, Repr

namespace Store

def empty : Store := ⟨[]⟩

def get? (store : Store) (key : Text) : Option Document := store.entries.lookup key

def erase (store : Store) (key : Text) : Store := ⟨store.entries.filter fun entry => entry.1 ≠ key⟩

/-- The store with a document under an address, in the place of any other. -/
def put (store : Store) (key : Text) (document : Document) : Store :=
  ⟨(key, document) :: (store.erase key).entries⟩

def apply (store : Store) (key : Text) (event : Event) : Store :=
  match event.apply (store.get? key) with
  | some document => store.put key document
  | none => store.erase key

theorem get?_put_self (store : Store) (key : Text) (document : Document) :
    (store.put key document).get? key = some document := by
  simp [put, get?]

theorem get?_erase_self (store : Store) (key : Text) : (store.erase key).get? key = none := by
  rw [get?, List.lookup_eq_none_iff]
  intro entry member
  have other : entry.1 ≠ key := by simpa using (List.mem_filter.mp member).2
  simpa using other.symm

/-- An event changes the entry under its own address as it changes a document. -/
theorem get?_apply_self (store : Store) (key : Text) (event : Event) :
    (store.apply key event).get? key = event.apply (store.get? key) := by
  unfold apply
  split
  next document after => rw [get?_put_self, after]
  next after => rw [get?_erase_self, after]

theorem get?_erase_other (store : Store) {key other : Text} (different : key ≠ other) :
    (store.erase other).get? key = store.get? key := by
  obtain ⟨entries⟩ := store
  simp only [get?, erase]
  induction entries with
  | nil => rfl
  | cons entry entries ih =>
    by_cases same : entry.1 = other
    · have missed : (key == entry.1) = false := by simpa [same] using different
      rw [List.filter_cons_of_neg (by simp [same]), ih, List.lookup_cons, missed]
    · rw [List.filter_cons_of_pos (by simp [same]), List.lookup_cons, List.lookup_cons, ih]

theorem get?_put_other (store : Store) {key other : Text} (different : key ≠ other) (document : Document) :
    (store.put other document).get? key = store.get? key := by
  have missed : (key == other) = false := by simpa using different
  rw [put, get?, List.lookup_cons, missed]
  exact get?_erase_other store different

/-- An event changes no entry under another address. -/
theorem get?_apply_other (store : Store) {key other : Text} (different : key ≠ other) (event : Event) :
    (store.apply other event).get? key = store.get? key := by
  unfold apply
  split
  · exact get?_put_other store different _
  · exact get?_erase_other store different

/-- The open documents in the order of their addresses. -/
def sorted (store : Store) : List (Text × Document) :=
  store.entries.mergeSort fun left right => inOrder left.1 right.1

end Store

end QueryNav.Server
