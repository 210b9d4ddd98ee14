import QueryNav.Text.Basic

/-! Path texts. A path is kept exactly as it was written: nothing here looks at a disk, removes a
repeated separator or resolves a component that leads upward. `join` puts one path behind another,
`parent?` takes the last component off, and `components` is the reading of a path in which empty
pieces and dots mean nothing, a dot at the very front excepted. The parent of a path is always a
shorter text, so the walk through all ancestors ends. -/

namespace QueryNav

open Text

/-- A path, as its text. -/
structure Path where
  text : Text
  deriving DecidableEq, Repr, Inhabited

namespace Path

inductive Component where
  /-- The top of the file tree. -/
  | root
  /-- The place itself, which is a component only at the front of a path. -/
  | current
  | parent
  /-- An entry of the folder reached so far. -/
  | name (text : Text)
  deriving DecidableEq, Repr

/-- Whether a path starts at the top of the file tree. -/
def isAbsolute (path : Path) : Bool := path.text.head? = some '/'

/-- The path `right` seen from `left`. An absolute right path replaces the left one; otherwise the two
texts have one separator between them, and an empty left path has none. -/
def join (left right : Path) : Path :=
  if right.isAbsolute then right
  else if left.text = [] ∨ left.text.getLast? = some '/' then ⟨left.text ++ right.text⟩
  else ⟨left.text ++ '/' :: right.text⟩

/-- The front of a path that is not among its pieces: the separator of an absolute path, or the dot of
one that starts at the place itself. -/
def lead (path : Path) : Text :=
  match path.text with
  | '/' :: _ => ['/']
  | ['.'] => ['.']
  | '.' :: '/' :: _ => ['.']
  | _ => []

/-- The pieces of a path between separators, behind its lead. -/
def body (path : Path) : List Text := pieces '/' (path.text.drop path.lead.length)

/-- Whether a piece means nothing: it is empty or a single dot. -/
def isFiller (piece : Text) : Bool := piece = [] || piece = ['.']

def componentOf (piece : Text) : Component :=
  if piece = ['.', '.'] then .parent else .name piece

def leadComponents (lead : Text) : List Component :=
  if lead = ['/'] then [.root] else if lead = ['.'] then [.current] else []

def components (path : Path) : List Component :=
  leadComponents path.lead ++ (path.body.filter fun piece => !isFiller piece).map componentOf

/-- The path without its last component, and without the pieces that mean nothing around it. A path of
no component and the top of the tree have no parent; the parent of a lone dot is the empty path. -/
def parent? (path : Path) : Option Path :=
  let kept := trimEndWhile isFiller path.body
  if kept = [] then
    if path.lead = ['.'] then some ⟨[]⟩ else none
  else some ⟨path.lead ++ glue '/' (trimEndWhile isFiller kept.dropLast)⟩

theorem lead_append (path : Path) : path.lead ++ path.text.drop path.lead.length = path.text := by
  rw [lead]
  split <;> simp_all

/-- A path's text is its lead and its pieces. -/
theorem lead_append_glue_body (path : Path) : path.lead ++ glue '/' path.body = path.text := by
  rw [body, glue_pieces, lead_append]

/-- A parent is a shorter text. -/
theorem length_parent?_lt {path parent : Path} (found : path.parent? = some parent) :
    parent.text.length < path.text.length := by
  have whole := congrArg List.length (lead_append_glue_body path)
  simp only [List.length_append] at whole
  simp only [parent?] at found
  split at found
  · split at found
    · next dot =>
      cases found
      simp [dot] at whole ⊢
      omega
    · simp at found
  · next nonempty =>
    cases found
    obtain ⟨dropped, bodyEq, -⟩ := trimEndWhile_append isFiller path.body
    obtain ⟨fillers, frontEq, -⟩ := trimEndWhile_append isFiller (trimEndWhile isFiller path.body).dropLast
    have lastEq := List.dropLast_concat_getLast nonempty
    have solid : isFiller ((trimEndWhile isFiller path.body).getLast nonempty) = false :=
      getLast?_trimEndWhile isFiller path.body (List.getLast?_eq_some_getLast nonempty)
    have positive : 0 < ((trimEndWhile isFiller path.body).getLast nonempty).length := by
      cases piece : (trimEndWhile isFiller path.body).getLast nonempty with
      | nil => simp [piece, isFiller] at solid
      | cons c rest => simp
    have first := length_glue_le_append '/' (trimEndWhile isFiller path.body) dropped
    have second := length_glue_concat '/' (trimEndWhile isFiller path.body).dropLast
      ((trimEndWhile isFiller path.body).getLast nonempty)
    have third := length_glue_le_append '/'
      (trimEndWhile isFiller (trimEndWhile isFiller path.body).dropLast) fillers
    rw [← bodyEq] at first
    rw [lastEq] at second
    rw [← frontEq] at third
    simp only [List.length_append]
    omega

/-- The path itself, its parent, the parent's parent, and so on. -/
def ancestors (path : Path) : List Path :=
  match _found : path.parent? with
  | some parent => path :: ancestors parent
  | none => [path]
termination_by path.text.length
decreasing_by exact length_parent?_lt _found

end Path

end QueryNav
