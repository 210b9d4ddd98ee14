import QueryNav.Proofs.Following

/-! The nearest source folder. Going up takes the last component off a path, whatever separators and dots stand around
it in the text, so a search that goes up ends after as many rounds as the path has components, the top of the tree
apart. It ends with the first of the folders on the way that has a source folder, and it never looks into the last of
them, which has nothing above it. -/

namespace QueryNav.Path

open Text

/-- The path after a number of steps up, if there are that many. -/
def up? (path : Path) : (count : Nat) → Option Path
  | 0 => some path
  | count + 1 => (path.up? count).bind parent?

/-- The number of steps up that there are: one for every component but the top of the tree. -/
def depth (path : Path) : Nat := path.components.countP fun component => component ≠ .root

theorem up?_succ_of_parent? {path parent : Path} (above : path.parent? = some parent) (count : Nat) :
    path.up? (count + 1) = parent.up? count := by
  induction count with
  | zero => exact above
  | succ count ih => rw [up?, ih, up?]

theorem up?_succ_of_no_parent {path : Path} (missing : path.parent? = none) (count : Nat) :
    path.up? (count + 1) = none := by
  induction count with
  | zero => exact missing
  | succ count ih => rw [up?, ih, Option.bind_none]

theorem componentOf_ne_root (piece : Text) : componentOf piece ≠ .root := by
  unfold componentOf
  split <;> simp

theorem steps_of_fillers {parts : List Text} (fillers : ∀ part ∈ parts, isFiller part = true) : steps parts = [] := by
  rw [steps, List.filter_eq_nil_iff.mpr, List.map_nil]
  intro part member
  simp [fillers part member]

theorem components_lead (path : Path) : (Path.mk path.lead).components = leadComponents path.lead := by
  unfold lead
  split <;> rfl

theorem Settled.glue_ne_nil {parts : List Text} (settled : Settled parts) (nonempty : parts ≠ []) :
    glue '/' parts ≠ [] := by
  obtain ⟨early, last, rfl, solid⟩ := settled.exists_last nonempty
  cases last with
  | nil => cases solid
  | cons c last => exact List.ne_nil_of_mem (mem_glue (List.mem_append_right _ List.mem_cons_self) List.mem_cons_self)

theorem components_of_cut {path : Path} {front rest : List Text} (cut : path.body = front ++ rest)
    (settled : Settled front) (more : rest ≠ []) :
    path.components = (Path.mk (path.lead ++ glue '/' front)).components ++ steps rest := by
  by_cases empty : front = []
  · rw [empty, List.nil_append] at cut
    rw [components_eq, cut, empty, glue, List.append_nil, components_lead]
  · have clean : ∀ part ∈ path.body, '/' ∉ part := fun part member => not_mem_of_mem_pieces member
    rw [cut] at clean
    have whole : path = ⟨(path.lead ++ glue '/' front) ++ '/' :: glue '/' rest⟩ := by
      rw [List.append_assoc, ← glue_append '/' empty more, ← cut, lead_append_glue_body]
    have filled : path.lead ++ glue '/' front ≠ [] := List.append_ne_nil_of_right_ne_nil _ (settled.glue_ne_nil empty)
    conv => lhs; rw [whole]
    rw [components_append_separator filled,
      pieces_glue more fun part member => clean part (List.mem_append_right _ member)]

theorem exists_taken {body : List Text} (something : trimEndWhile isFiller body ≠ []) :
    ∃ taken last, body = trimEndWhile isFiller (trimEndWhile isFiller body).dropLast ++ taken ∧
      steps taken = [componentOf last] := by
  obtain ⟨behind, whole, behindFillers⟩ := trimEndWhile_append isFiller body
  obtain ⟨front, last, kept, solid⟩ := exists_last_of_trimEndWhile something
  obtain ⟨between, cut, betweenFillers⟩ := trimEndWhile_append isFiller front
  refine ⟨between ++ ([last] ++ behind), last, ?_, ?_⟩
  · rw [kept, List.dropLast_concat, ← List.append_assoc, ← cut, ← List.append_assoc, ← kept]
    exact whole
  · rw [steps_append, steps_append, steps_of_fillers betweenFillers, steps_of_fillers behindFillers]
    simp [steps, solid]

/-- A step up takes one component off, and never the top of the tree. -/
theorem components_of_parent? {path parent : Path} (above : path.parent? = some parent) :
    ∃ last, last ≠ .root ∧ path.components = parent.components ++ [last] := by
  simp only [parent?] at above
  split at above
  next nothing =>
    split at above
    next dot =>
      cases above
      obtain ⟨behind, whole, fillers⟩ := trimEndWhile_append isFiller path.body
      rw [nothing, List.nil_append] at whole
      refine ⟨.current, by simp, ?_⟩
      rw [components_eq, whole, steps_of_fillers fillers, dot]
      rfl
    next => cases above
  next something =>
    cases above
    obtain ⟨taken, last, cut, single⟩ := exists_taken something
    have settled : Settled (trimEndWhile isFiller path.body) :=
      settled_trimEndWhile fun part member => not_mem_of_mem_pieces member
    have more : taken ≠ [] := by
      rintro rfl
      cases single
    rw [components_of_cut cut settled.up more, single]
    exact ⟨componentOf last, componentOf_ne_root last, rfl⟩

theorem components_of_no_parent {path : Path} (missing : path.parent? = none) :
    path.components = [] ∨ path.components = [.root] := by
  obtain ⟨behind, whole, fillers⟩ := trimEndWhile_append isFiller path.body
  simp only [parent?] at missing
  split at missing
  next nothing =>
    split at missing
    next => cases missing
    next other =>
      rw [nothing, List.nil_append] at whole
      rw [components_eq, whole, steps_of_fillers fillers, List.append_nil, leadComponents, if_neg other]
      split
      · exact .inr rfl
      · exact .inl rfl
  next => cases missing

theorem depth_of_parent? {path parent : Path} (above : path.parent? = some parent) :
    path.depth = parent.depth + 1 := by
  obtain ⟨last, inner, whole⟩ := components_of_parent? above
  simp [depth, whole, inner]

theorem depth_of_no_parent {path : Path} (missing : path.parent? = none) : path.depth = 0 := by
  rcases components_of_no_parent missing with none | top
  · simp [depth, none]
  · simp [depth, top]

/-- Steps up take as many components off, and the way up ends after `depth` of them. -/
theorem components_of_up? {path folder : Path} {count : Nat} (above : path.up? count = some folder) :
    ∃ taken, taken.length = count ∧ .root ∉ taken ∧ path.components = folder.components ++ taken := by
  induction count generalizing path with
  | zero =>
    cases above
    exact ⟨[], rfl, by simp, by simp⟩
  | succ count ih =>
    cases next : path.parent? with
    | none => cases (up?_succ_of_no_parent next count).symm.trans above
    | some parent =>
      rw [up?_succ_of_parent? next] at above
      obtain ⟨taken, size, level, whole⟩ := ih above
      obtain ⟨last, inner, longer⟩ := components_of_parent? next
      refine ⟨taken ++ [last], by simp [size], ?_, by rw [longer, whole, List.append_assoc]⟩
      simpa [level] using inner.symm

theorem up?_isSome_iff {path : Path} {count : Nat} : (path.up? count).isSome ↔ count ≤ path.depth := by
  induction count generalizing path with
  | zero => simp [up?]
  | succ count ih =>
    cases next : path.parent? with
    | none => simp [up?_succ_of_no_parent next, depth_of_no_parent next]
    | some parent => rw [up?_succ_of_parent? next, ih, depth_of_parent? next, Nat.add_le_add_iff_right]

end QueryNav.Path

namespace QueryNav.Project

open QueryNav.Path

/-- The source folder `root` stands in the folder that is `count` steps above `start`, and none stands in a nearer
one. The folder has to have a parent itself. -/
structure Nearest (disk : Disk) (start : Path) (sourceDir : Text) (count : Nat) (root : Path) : Prop where
  stands : ∃ folder parent, start.up? count = some folder ∧ folder.parent? = some parent ∧
    root = folder.join ⟨sourceDir⟩
  isFolder : disk.isFolder root = true
  first : ∀ earlier, earlier < count → ∀ folder, start.up? earlier = some folder →
    disk.isFolder (folder.join ⟨sourceDir⟩) = false

/-- The search with a limit on its rounds, which gives no answer where the limit is reached. -/
def searchWithin (disk : Disk) (sourceDir : Text) : (rounds : Nat) → Path → Option (Option Path)
  | 0, _ => none
  | rounds + 1, folder =>
    match folder.parent? with
    | some parent =>
      if disk.isFolder (folder.join ⟨sourceDir⟩) then some (some (folder.join ⟨sourceDir⟩))
      else searchWithin disk sourceDir rounds parent
    | none => some none

section Search

variable {disk : Disk} {start parent root : Path} {sourceDir : Text} {count : Nat}

theorem sourceRoot?_of_no_parent (missing : start.parent? = none) : sourceRoot? disk start sourceDir = none := by
  rw [sourceRoot?]
  split
  next found => cases missing.symm.trans found
  next => rfl

theorem searchWithin_eq {rounds : Nat} (enough : start.depth < rounds) :
    searchWithin disk sourceDir rounds start = some (sourceRoot? disk start sourceDir) := by
  induction rounds generalizing start with
  | zero => cases enough
  | succ rounds ih =>
    cases above : start.parent? with
    | none => simp only [searchWithin, above, sourceRoot?_of_no_parent above]
    | some parent =>
      have fewer := depth_of_parent? above
      simp only [searchWithin, above, sourceRoot?_of_parent? disk above]
      split
      · rfl
      · exact ih (by omega)

theorem not_nearest_of_no_parent (missing : start.parent? = none) : ¬ Nearest disk start sourceDir count root := by
  intro nearest
  obtain ⟨folder, parent, reached, above, _⟩ := nearest.stands
  cases count with
  | zero =>
    cases reached
    cases missing.symm.trans above
  | succ count => cases (up?_succ_of_no_parent missing count).symm.trans reached

theorem nearest_zero_iff (above : start.parent? = some parent) :
    Nearest disk start sourceDir 0 root ↔ root = start.join ⟨sourceDir⟩ ∧ disk.isFolder root = true := by
  constructor
  · intro nearest
    obtain ⟨folder, _, reached, _, joined⟩ := nearest.stands
    cases reached
    exact ⟨joined, nearest.isFolder⟩
  · intro here
    exact ⟨⟨start, parent, rfl, above, here.1⟩, here.2, by simp⟩

theorem nearest_succ_iff (above : start.parent? = some parent) :
    Nearest disk start sourceDir (count + 1) root ↔
      disk.isFolder (start.join ⟨sourceDir⟩) = false ∧ Nearest disk parent sourceDir count root := by
  constructor
  · intro nearest
    obtain ⟨stands, there, first⟩ := nearest
    rw [up?_succ_of_parent? above] at stands
    refine ⟨first 0 (Nat.succ_pos _) start rfl, stands, there, ?_⟩
    intro earlier nearer folder reached
    rw [← up?_succ_of_parent? above] at reached
    exact first (earlier + 1) (Nat.succ_lt_succ nearer) folder reached
  · intro further
    obtain ⟨absent, stands, there, first⟩ := further
    rw [← up?_succ_of_parent? above] at stands
    refine ⟨stands, there, ?_⟩
    intro earlier nearer folder reached
    cases earlier with
    | zero =>
      cases reached
      exact absent
    | succ earlier =>
      rw [up?_succ_of_parent? above] at reached
      exact first earlier (Nat.lt_of_succ_lt_succ nearer) folder reached

theorem sourceRoot?_eq_some_iff : sourceRoot? disk start sourceDir = some root ↔
    ∃ count, Nearest disk start sourceDir count root := by
  fun_induction sourceRoot? disk start sourceDir with
  | case1 start parent above inside =>
    constructor
    · intro found
      cases found
      exact ⟨0, (nearest_zero_iff above).mpr ⟨rfl, inside⟩⟩
    · intro described
      obtain ⟨count, nearest⟩ := described
      cases count with
      | zero => rw [((nearest_zero_iff above).mp nearest).1]
      | succ count =>
        have absent := ((nearest_succ_iff above).mp nearest).1
        cases inside.symm.trans absent
  | case2 start parent above outside ih =>
    rw [ih]
    constructor
    · intro described
      obtain ⟨count, nearest⟩ := described
      exact ⟨count + 1, (nearest_succ_iff above).mpr ⟨Bool.eq_false_iff.mpr outside, nearest⟩⟩
    · intro described
      obtain ⟨count, nearest⟩ := described
      cases count with
      | zero =>
        obtain ⟨rfl, inside⟩ := (nearest_zero_iff above).mp nearest
        exact absurd inside outside
      | succ count => exact ⟨count, ((nearest_succ_iff above).mp nearest).2⟩
  | case3 start missing =>
    constructor
    · intro found
      cases found
    · intro described
      obtain ⟨count, nearest⟩ := described
      exact absurd nearest (not_nearest_of_no_parent missing)

end Search

/-- The search goes up from a folder, one component of its path at a time, and ends at the latest where nothing is
above. It finds the nearest source folder, and nothing exactly if there is none; an import leads to the file of its
module below the folder that is found, if the file is there. -/
theorem search_finds_nearest_source_root (disk : Disk) (start : Path) (sourceDir : Text) :
    (∀ rounds, start.depth < rounds →
        searchWithin disk sourceDir rounds start = some (sourceRoot? disk start sourceDir)) ∧
      (∀ count, (start.up? count).isSome ↔ count ≤ start.depth) ∧
      (∀ count folder, start.up? count = some folder →
        ∃ taken, taken.length = count ∧ .root ∉ taken ∧ start.components = folder.components ++ taken) ∧
      (∀ root, sourceRoot? disk start sourceDir = some root ↔ ∃ count, Nearest disk start sourceDir count root) ∧
      (sourceRoot? disk start sourceDir = none ↔ ¬ ∃ count root, Nearest disk start sourceDir count root) ∧
      ∀ layout document number text link, resolve? disk layout document number text = some link ↔
        ∃ clause folder count root, Header.clause? text = some clause ∧ document.parent? = some folder ∧
          Nearest disk folder layout.sourceDir count root ∧
          disk.isFile (root.join (moduleFile clause.path layout.extension)) = true ∧
          link = ⟨number, clause.start, clause.stop, root.join (moduleFile clause.path layout.extension)⟩ := by
  refine ⟨fun _ => searchWithin_eq, fun _ => up?_isSome_iff, fun _ _ => components_of_up?,
    fun _ => sourceRoot?_eq_some_iff, ?_, ?_⟩
  · rw [Option.eq_none_iff_forall_ne_some]
    constructor
    · intro nothing described
      obtain ⟨count, root, nearest⟩ := described
      exact nothing root (sourceRoot?_eq_some_iff.mpr ⟨count, nearest⟩)
    · intro undescribed root found
      obtain ⟨count, nearest⟩ := sourceRoot?_eq_some_iff.mp found
      exact undescribed ⟨count, root, nearest⟩
  · intro layout document number text link
    rw [resolve?_eq_some_iff]
    constructor
    · intro found
      obtain ⟨clause, folder, root, named, above, source, there, same⟩ := found
      obtain ⟨count, nearest⟩ := sourceRoot?_eq_some_iff.mp source
      exact ⟨clause, folder, count, root, named, above, nearest, there, same⟩
    · intro described
      obtain ⟨clause, folder, count, root, named, above, nearest, there, same⟩ := described
      exact ⟨clause, folder, root, named, above, sourceRoot?_eq_some_iff.mpr ⟨count, nearest⟩, there, same⟩

/-- A file that has the name of a source folder is passed on the way up, and separators and dots are not counted. -/
theorem search_finds_nearest_source_root_past_plain_file :
    let disk := (Disk.empty.addFile ["p".toList, "q".toList, "src".toList] .empty).addFile
      ["p".toList, "src".toList, "a.ezsql".toList] .empty
    let start : Path := ⟨"/p//q/./".toList⟩
    start.depth = 2 ∧ searchWithin disk "src".toList 3 start = some (some ⟨"/p/src".toList⟩) ∧
      (∃ taken, taken.length = 1 ∧ .root ∉ taken ∧ start.components = (Path.mk "/p".toList).components ++ taken) ∧
      (∃ count, Nearest disk start "src".toList count ⟨"/p/src".toList⟩) ∧
      ∃ clause folder count root, Header.clause? "import a".toList = some clause ∧
        (Path.mk "/p//q/./main.ezsql".toList).parent? = some folder ∧ Nearest disk folder "src".toList count root ∧
        root.join (moduleFile clause.path "ezsql".toList) = ⟨"/p/src/a.ezsql".toList⟩ := by
  intro disk start
  have deep : start.depth = 2 := by decide
  have found : sourceRoot? disk start "src".toList = some ⟨"/p/src".toList⟩ := by decide +kernel
  have link : resolve? disk .standard ⟨"/p//q/./main.ezsql".toList⟩ 0 "import a".toList =
      some ⟨0, 7, 8, ⟨"/p/src/a.ezsql".toList⟩⟩ := by decide +kernel
  obtain ⟨ends, _, taken, nearest, _, leads⟩ := search_finds_nearest_source_root disk start "src".toList
  obtain ⟨clause, folder, count, root, named, above, near, _, same⟩ := (leads _ _ _ _ _).mp link
  have answer := ends 3 (by rw [deep]; decide)
  rw [found] at answer
  refine ⟨deep, answer, taken 1 _ (by decide), (nearest _).mp found, ?_⟩
  refine ⟨clause, folder, count, root, named, above, near, ?_⟩
  exact (congrArg Link.target same).symm

end QueryNav.Project
