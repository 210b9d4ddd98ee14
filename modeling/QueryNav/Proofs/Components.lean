import QueryNav.Project.Layout

/-! The components of joined paths and of module files. Paths are texts, and joining them only puts texts one
behind the other; what such a text means is in its components. Cutting at separators turns both the joining
and the dots of a module path into lists of components, where the question whether one path lies below
another is a question about lists. -/

namespace QueryNav.Text

variable {α : Type} [DecidableEq α]

theorem pieces_separator (separator : α) (rest : List α) :
    pieces separator (separator :: rest) = [] :: pieces separator rest := by
  rw [pieces]
  split
  next nothing => exact absurd nothing (pieces_ne_nil separator rest)
  next piece others cut => simp [cut]

theorem pieces_cons {c separator : α} (other : c ≠ separator) {rest piece : List α} {others : List (List α)}
    (cut : pieces separator rest = piece :: others) : pieces separator (c :: rest) = (c :: piece) :: others := by
  simp [pieces, cut, other]

theorem pieces_append_separator (separator : α) (front back : List α) :
    pieces separator (front ++ separator :: back) = pieces separator front ++ pieces separator back := by
  induction front with
  | nil => simp [pieces_separator, pieces]
  | cons c front ih =>
    by_cases same : c = separator
    · subst same
      rw [List.cons_append, pieces_separator, ih, pieces_separator, List.cons_append]
    · obtain ⟨piece, others, cut⟩ := List.exists_cons_of_ne_nil (pieces_ne_nil separator front)
      rw [List.cons_append, pieces_cons same (ih.trans (by rw [cut, List.cons_append])), pieces_cons same cut,
        List.cons_append]

theorem pieces_of_not_mem {separator : α} {items : List α} (clean : separator ∉ items) :
    pieces separator items = [items] := by
  induction items with
  | nil => rfl
  | cons c items ih =>
    simp only [List.mem_cons, not_or] at clean
    exact pieces_cons (Ne.symm clean.1) (ih clean.2)

theorem not_mem_of_mem_pieces {separator : α} {items piece : List α} (member : piece ∈ pieces separator items) :
    separator ∉ piece := by
  induction items generalizing piece with
  | nil => simp_all [pieces]
  | cons c items ih =>
    by_cases same : c = separator
    · subst same
      rw [pieces_separator] at member
      rcases List.mem_cons.mp member with rfl | later
      · simp
      · exact ih later
    · obtain ⟨first, others, cut⟩ := List.exists_cons_of_ne_nil (pieces_ne_nil separator items)
      rw [pieces_cons same cut] at member
      rw [cut] at ih
      rcases List.mem_cons.mp member with rfl | later
      · simpa [Ne.symm same] using ih List.mem_cons_self
      · exact ih (List.mem_cons_of_mem _ later)

theorem pieces_glue {separator : α} {parts : List (List α)} (nonempty : parts ≠ [])
    (clean : ∀ part ∈ parts, separator ∉ part) : pieces separator (glue separator parts) = parts := by
  induction parts with
  | nil => exact absurd rfl nonempty
  | cons part parts ih =>
    have first := pieces_of_not_mem (clean part (by simp))
    cases parts with
    | nil => exact first
    | cons other parts =>
      have rest := ih (by simp) (fun later member => clean later (List.mem_cons_of_mem _ member))
      rw [glue, pieces_append_separator, first, rest, List.singleton_append]

omit [DecidableEq α] in
theorem glue_concat_append (separator : α) (front : List (List α)) (last tail : List α) :
    glue separator (front ++ [last]) ++ tail = glue separator (front ++ [last ++ tail]) := by
  induction front with
  | nil => rfl
  | cons part front ih =>
    cases front with
    | nil => simp [glue]
    | cons other front => simpa [glue] using ih

omit [DecidableEq α] in
theorem mem_glue {separator c : α} {parts : List (List α)} {part : List α} (listed : part ∈ parts)
    (member : c ∈ part) : c ∈ glue separator parts := by
  induction parts with
  | nil => cases listed
  | cons first parts ih =>
    cases parts with
    | nil => simpa [glue, List.mem_singleton.mp listed] using member
    | cons other parts =>
      rw [glue, List.mem_append]
      rcases List.mem_cons.mp listed with rfl | later
      · exact .inl member
      · exact .inr (List.mem_cons_of_mem _ (ih later))

theorem mem_of_mem_pieces {separator c : α} {items piece : List α} (listed : piece ∈ pieces separator items)
    (member : c ∈ piece) : c ∈ items := by
  rw [← glue_pieces separator items]
  exact mem_glue listed member

theorem replace_of_not_mem {old : Char} {text : Text} (new : Char) (absent : old ∉ text) :
    replace old new text = text := by
  induction text with
  | nil => rfl
  | cons c text ih =>
    simp only [List.mem_cons, not_or] at absent
    have rest := ih absent.2
    simp only [replace, List.map_cons, if_neg (Ne.symm absent.1)] at rest ⊢
    rw [rest]

theorem replace_glue {old : Char} {parts : List Text} (new : Char) (clean : ∀ part ∈ parts, old ∉ part) :
    replace old new (glue old parts) = glue new parts := by
  induction parts with
  | nil => rfl
  | cons part parts ih =>
    have first := replace_of_not_mem new (clean part (by simp))
    cases parts with
    | nil => exact first
    | cons other parts =>
      have rest := ih (fun later member => clean later (List.mem_cons_of_mem _ member))
      simp only [replace, glue, List.map_append, List.map_cons, ite_true] at first rest ⊢
      rw [first, rest]

end QueryNav.Text

namespace QueryNav.Path

open Text

def steps (parts : List Text) : List Component := (parts.filter fun piece => !isFiller piece).map componentOf

theorem components_eq (path : Path) : path.components = leadComponents path.lead ++ steps path.body := rfl

theorem steps_append (front back : List Text) : steps (front ++ back) = steps front ++ steps back := by
  simp [steps]

theorem steps_cons (piece : Text) (parts : List Text) : steps (piece :: parts) = steps [piece] ++ steps parts :=
  steps_append [piece] parts

theorem steps_filler {piece : Text} (filler : isFiller piece = true) : steps [piece] = [] := by
  simp [steps, filler]

theorem steps_name {piece : Text} (solid : isFiller piece = false) (down : piece ≠ ['.', '.']) :
    steps [piece] = [.name piece] := by
  simp [steps, solid, componentOf, down]

theorem steps_of_no_dot {parts : List Text} (clean : ∀ part ∈ parts, '.' ∉ part) :
    steps parts = (parts.filter fun part => part ≠ []).map .name := by
  induction parts with
  | nil => rfl
  | cons part parts ih =>
    have rest := ih (fun later member => clean later (List.mem_cons_of_mem _ member))
    have plain : '.' ∉ part := clean part (by simp)
    have single : part ≠ ['.'] := by rintro rfl; simp at plain
    have double : part ≠ ['.', '.'] := by rintro rfl; simp at plain
    rw [steps_cons, rest]
    by_cases empty : part = []
    · simp [steps, isFiller, empty]
    · simp [steps, isFiller, componentOf, empty, single, double]

theorem lead_of_plain {c : Char} {others : Text} (slash : c ≠ '/') (dot : c ≠ '.') :
    (Path.mk (c :: others)).lead = [] := by
  unfold lead
  split <;> simp_all

theorem lead_append_separator {left : Text} (nonempty : left ≠ []) (right : Text) :
    (Path.mk (left ++ '/' :: right)).lead = (Path.mk left).lead := by
  obtain ⟨c, others, rfl⟩ := List.exists_cons_of_ne_nil nonempty
  by_cases slash : c = '/'
  · subst slash
    rfl
  · by_cases dot : c = '.'
    · subst dot
      cases others with
      | nil => rfl
      | cons d others =>
        by_cases inner : d = '/'
        · subst inner
          rfl
        · simp [lead, inner]
    · rw [List.cons_append, lead_of_plain slash dot, lead_of_plain slash dot]

theorem components_append_separator {left : Text} (nonempty : left ≠ []) (right : Text) :
    (Path.mk (left ++ '/' :: right)).components = (Path.mk left).components ++ steps (pieces '/' right) := by
  have short : (Path.mk left).lead.length ≤ left.length := by
    have whole := congrArg List.length (lead_append ⟨left⟩)
    simp only [List.length_append] at whole
    omega
  have bodies : (Path.mk (left ++ '/' :: right)).body = (Path.mk left).body ++ pieces '/' right := by
    rw [body, lead_append_separator nonempty, List.drop_append_of_le_length short, pieces_append_separator, body]
  rw [components_eq, components_eq, lead_append_separator nonempty, bodies, steps_append, List.append_assoc]

theorem join_ne_nil {left : Path} (nonempty : left.text ≠ []) (right : Path) : (left.join right).text ≠ [] := by
  unfold join
  split
  next absolute =>
    intro empty
    simp [isAbsolute, empty] at absolute
  next => split <;> simp [nonempty]

/-- A relative path that is joined to another adds its own steps, whether the other ends with a separator or
not. -/
theorem components_join {left right : Path} (nonempty : left.text ≠ []) (relative : right.isAbsolute = false) :
    (left.join right).components = left.components ++ steps (pieces '/' right.text) := by
  obtain ⟨left⟩ := left
  -- A separator at the end of the left path takes the place of the one that joining would put there; behind it
  -- the left path has an empty piece, which is no step.
  by_cases closed : left.getLast? = some '/'
  · obtain ⟨front, rfl⟩ : ∃ front, left = front ++ ['/'] := List.getLast?_eq_some_iff.mp closed
    have joined : (Path.mk (front ++ ['/'])).join right = ⟨front ++ '/' :: right.text⟩ := by simp [join, relative]
    rw [joined]
    by_cases top : front = []
    · subst top
      rfl
    · rw [components_append_separator top, components_append_separator top]
      simp [steps, pieces, isFiller]
  · have joined : (Path.mk left).join right = ⟨left ++ '/' :: right.text⟩ := by
      simp only at nonempty
      simp [join, relative, nonempty, closed]
    rw [joined, components_append_separator nonempty]

end QueryNav.Path

namespace QueryNav.Project

open Text QueryNav.Path

/-- An extension that makes an ordinary file name of whatever stands before it. -/
structure PlainExtension (extension : Text) : Prop where
  nonempty : extension ≠ []
  noSeparator : '/' ∉ extension
  noDot : extension.head? ≠ some '.'

/-- The folders that a module path leads through: its segments but the last, of which empty ones mean nothing. -/
def folders (modulePath : Text) : List Text := (pieces '.' modulePath).dropLast.filter fun segment => segment ≠ []

def fileName (modulePath extension : Text) : Text := (pieces '.' modulePath).getLastD [] ++ '.' :: extension

theorem pieces_eq (modulePath : Text) :
    pieces '.' modulePath = (pieces '.' modulePath).dropLast ++ [(pieces '.' modulePath).getLastD []] := by
  have nonempty := pieces_ne_nil '.' modulePath
  rw [List.getLastD_eq_getLast?, List.getLast?_eq_some_getLast nonempty, Option.getD_some,
    List.dropLast_concat_getLast]

theorem last_mem (modulePath : Text) : (pieces '.' modulePath).getLastD [] ∈ pieces '.' modulePath := by
  rw [pieces_eq modulePath]
  simp

theorem pieces_moduleFile {modulePath extension : Text} (clean : '/' ∉ modulePath) (plain : '/' ∉ extension) :
    pieces '/' (moduleFile modulePath extension).text =
      (pieces '.' modulePath).dropLast ++ [fileName modulePath extension] := by
  have glued : (moduleFile modulePath extension).text =
      glue '/' ((pieces '.' modulePath).dropLast ++ [fileName modulePath extension]) := by
    have replaced : replace '.' '/' modulePath = glue '/' (pieces '.' modulePath) := by
      have noDots := replace_glue '/' fun (part : Text) (member : part ∈ pieces '.' modulePath) =>
        not_mem_of_mem_pieces member
      rwa [glue_pieces] at noDots
    calc (moduleFile modulePath extension).text
      _ = glue '/' (pieces '.' modulePath) ++ '.' :: extension := by rw [moduleFile, replaced]
      _ = glue '/' ((pieces '.' modulePath).dropLast ++ [(pieces '.' modulePath).getLastD []]) ++ '.' :: extension := by
        rw [← pieces_eq]
      _ = glue '/' ((pieces '.' modulePath).dropLast ++ [fileName modulePath extension]) := glue_concat_append _ _ _ _
  rw [glued, pieces_glue (by simp)]
  intro part member
  rcases List.mem_append.mp member with early | last
  · intro inside
    exact clean (mem_of_mem_pieces (List.dropLast_subset _ early) inside)
  · rw [List.mem_singleton.mp last, fileName]
    simp only [List.mem_append, List.mem_cons, not_or]
    exact ⟨fun inside => clean (mem_of_mem_pieces (last_mem modulePath) inside), by decide, plain⟩

theorem steps_fileName {modulePath extension : Text} (plain : PlainExtension extension) :
    steps [fileName modulePath extension] = [.name (fileName modulePath extension)] := by
  have noDot : '.' ∉ (pieces '.' modulePath).getLastD [] := not_mem_of_mem_pieces (last_mem modulePath)
  have nonempty := plain.nonempty
  have noDots := plain.noDot
  unfold fileName
  cases last : (pieces '.' modulePath).getLastD [] with
  | nil =>
    have other : extension ≠ ['.'] := by rintro rfl; simp at noDots
    simp [steps, isFiller, componentOf, nonempty, other]
  | cons c others =>
    rw [last] at noDot
    have other : c ≠ '.' := by rintro rfl; simp at noDot
    simp [steps, isFiller, componentOf, other]

theorem steps_moduleFile {modulePath extension : Text} (clean : '/' ∉ modulePath) (plain : PlainExtension extension) :
    steps (pieces '/' (moduleFile modulePath extension).text) =
      (folders modulePath).map .name ++ [.name (fileName modulePath extension)] := by
  have noDots : ∀ part ∈ (pieces '.' modulePath).dropLast, '.' ∉ part :=
    fun _ member => not_mem_of_mem_pieces (List.dropLast_subset _ member)
  rw [pieces_moduleFile clean plain.noSeparator, steps_append, steps_of_no_dot noDots, steps_fileName plain, folders]

theorem isAbsolute_moduleFile {modulePath : Text} (nonempty : modulePath ≠ []) (clean : '/' ∉ modulePath)
    (extension : Text) : (moduleFile modulePath extension).isAbsolute = decide (modulePath.head? = some '.') := by
  obtain ⟨c, others, rfl⟩ := List.exists_cons_of_ne_nil nonempty
  have other : c ≠ '/' := by rintro rfl; simp at clean
  by_cases dot : c = '.'
  · simp [isAbsolute, moduleFile, replace, dot]
  · simp [isAbsolute, moduleFile, replace, dot, other]

/-- The components of a module's file: the top of the tree if the module path starts with a dot, then its
folders and its file name. -/
theorem components_moduleFile {modulePath extension : Text} (nonempty : modulePath ≠ []) (clean : '/' ∉ modulePath)
    (plain : PlainExtension extension) :
    (moduleFile modulePath extension).components = (if modulePath.head? = some '.' then [.root] else []) ++
      ((folders modulePath).map .name ++ [.name (fileName modulePath extension)]) := by
  have inner := steps_moduleFile clean plain
  obtain ⟨c, others, rfl⟩ := List.exists_cons_of_ne_nil nonempty
  have other : c ≠ '/' := by rintro rfl; simp at clean
  rw [← inner]
  by_cases dot : c = '.'
  · subst dot
    have text : (moduleFile ('.' :: others) extension).text = '/' :: (moduleFile others extension).text := by
      simp [moduleFile, replace]
    rw [components_eq, body, lead, text, pieces_separator]
    rfl
  · have front : (moduleFile (c :: others) extension).lead = [] := by
      rw [moduleFile, replace, List.map_cons, if_neg dot, List.cons_append]
      exact lead_of_plain other dot
    simp [components_eq, body, front, leadComponents, dot]

end QueryNav.Project
