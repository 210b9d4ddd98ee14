import Mathlib.Logic.Relation
import QueryNav.Proofs.Ascent
import QueryNav.Proofs.Links

/-! Following links from file to file. The search for a source folder goes from a file upward, and a link leads
from there downward again. The way up from the file that is found passes the folders that the module path named,
then the source folder itself, and then the folder in which it was found before. A source folder that is met
earlier lies inside; otherwise the search ends with the same one. So a reader who follows links from file to file
never loses the source folder. -/

namespace QueryNav.Project

open Text QueryNav.Path Disk

/-- A name that leads one step down. -/
structure OrdinaryName (name : Text) : Prop where
  nonempty : name ≠ []
  noSeparator : '/' ∉ name
  notCurrent : name ≠ ['.']
  notParent : name ≠ ['.', '.']

theorem OrdinaryName.isFiller {name : Text} (ordinary : OrdinaryName name) : Path.isFiller name = false := by
  simp [Path.isFiller, ordinary.nonempty, ordinary.notCurrent]

theorem OrdinaryName.isAbsolute {name : Text} (ordinary : OrdinaryName name) : (Path.mk name).isAbsolute = false := by
  rw [Bool.eq_false_iff]
  intro absolute
  obtain ⟨rest, text⟩ := isAbsolute_iff.mp absolute
  exact ordinary.noSeparator (by rw [show name = '/' :: rest from text]; simp)

theorem OrdinaryName.join {name : Text} (ordinary : OrdinaryName name) {parts : List Text} (settled : Settled parts)
    (nonempty : parts ≠ []) : (pathOf parts).join ⟨name⟩ = pathOf (parts ++ [name]) := by
  rw [settled.join nonempty ordinary.isAbsolute, pieces_of_not_mem ordinary.noSeparator]

theorem OrdinaryName.steps {name : Text} (ordinary : OrdinaryName name) : Path.steps [name] = [.name name] :=
  steps_name ordinary.isFiller ordinary.notParent

theorem sourceRoot?_of_parent? (disk : Disk) {start parent : Path} (above : start.parent? = some parent)
    (sourceDir : Text) :
    sourceRoot? disk start sourceDir =
      if disk.isFolder (start.join ⟨sourceDir⟩) then some (start.join ⟨sourceDir⟩)
      else sourceRoot? disk parent sourceDir := by
  rw [sourceRoot?]
  split
  next other found => rw [Option.some.inj (found.symm.trans above)]
  next missing => cases missing.symm.trans above

theorem exists_settled_sourceRoot {disk : Disk} {sourceDir : Text} (ordinary : OrdinaryName sourceDir)
    {parts : List Text} (settled : Settled parts) {root : Path}
    (found : sourceRoot? disk (pathOf parts) sourceDir = some root) :
    ∃ base, Settled base ∧ base ≠ [] ∧ root = pathOf (base ++ [sourceDir]) ∧ disk.isFolder root = true := by
  generalize same : pathOf parts = start at found
  fun_induction sourceRoot? disk start sourceDir generalizing parts with
  | case1 start parent above inside =>
    subst same
    cases found
    have nonempty := ne_nil_of_parent? above
    exact ⟨parts, settled, nonempty, ordinary.join settled nonempty, inside⟩
  | case2 start parent above outside ih =>
    subst same
    have next := settled.parent? (ne_nil_of_parent? above)
    exact ih settled.up (Option.some.inj (next.symm.trans above)) found
  | case3 => cases found

section Below

variable {disk : Disk} {sourceDir : Text} (ordinary : OrdinaryName sourceDir) {base : List Text}
  (settled : Settled base) (nonempty : base ≠ [])

include ordinary settled

theorem settled_root : Settled (base ++ [sourceDir]) :=
  (settled_singleton ordinary.noSeparator ordinary.isFiller).append (by simp) settled.clean

theorem inside_below {parts : List Text} (clean : ∀ part ∈ parts, '/' ∉ part)
    (level : ∀ part ∈ parts, '.' ∉ part) :
    Inside (pathOf (base ++ [sourceDir])) (pathOf (base ++ [sourceDir] ++ parts ++ [sourceDir])) := by
  have root := (settled_root ordinary settled).clean
  have single : ∀ part ∈ [sourceDir], '/' ∉ part := by simpa using ordinary.noSeparator
  refine inside_iff.mpr ⟨steps (parts ++ [sourceDir]), ?_, ?_, ?_⟩
  · rw [components_pathOf root, List.append_assoc, components_pathOf, steps_append _ (parts ++ [sourceDir]),
      List.cons_append]
    exact List.forall_mem_append.mpr ⟨root, List.forall_mem_append.mpr ⟨clean, single⟩⟩
  · simp [steps_append, ordinary.steps]
  · simp [steps_append, ordinary.steps, steps_of_no_dot level]

include nonempty in
/-- From any folder below the source folder the search leads to this one again, or to one inside it. -/
theorem sourceRoot?_below (source : disk.isFolder (pathOf (base ++ [sourceDir])) = true) (parts : List Text)
    (settledParts : Settled parts) (level : ∀ part ∈ parts, '.' ∉ part) :
    ∃ again, sourceRoot? disk (pathOf (base ++ [sourceDir] ++ parts)) sourceDir = some again ∧
      (again = pathOf (base ++ [sourceDir]) ∨ Inside (pathOf (base ++ [sourceDir])) again) := by
  have settledRoot := settled_root ordinary settled
  have here : Settled (base ++ [sourceDir] ++ parts) := by
    by_cases empty : parts = []
    · simpa [empty] using settledRoot
    · exact settledParts.append empty settledRoot.clean
  have filled : base ++ [sourceDir] ++ parts ≠ [] := by simp
  rw [sourceRoot?_of_parent? disk (here.parent? filled), ordinary.join here filled]
  split
  · exact ⟨_, rfl, .inr (inside_below ordinary settled settledParts.clean level)⟩
  · -- One step up: either still below the source folder, or in the folder where it stands.
    by_cases empty : parts = []
    · subst empty
      have up : trimEndWhile isFiller (base ++ [sourceDir] ++ []).dropLast = base := by simp [settled.trimmed]
      rw [up, sourceRoot?_of_parent? disk (settled.parent? nonempty), ordinary.join settled nonempty, if_pos source]
      exact ⟨_, rfl, .inl rfl⟩
    · have up : trimEndWhile isFiller (base ++ [sourceDir] ++ parts).dropLast =
          base ++ [sourceDir] ++ trimEndWhile isFiller parts.dropLast := by
        rw [List.dropLast_append_of_ne_nil empty, settledRoot.trimEndWhile_append]
      have shorter : (trimEndWhile isFiller parts.dropLast).length < parts.length := by
        have positive := List.length_pos_iff.mpr empty
        have bound := length_trimEndWhile_le isFiller parts.dropLast
        rw [List.length_dropLast] at bound
        omega
      rw [up]
      exact sourceRoot?_below source _ settledParts.up fun part member =>
        level part (List.dropLast_subset _ (mem_of_mem_trimEndWhile member))
termination_by parts.length

end Below

theorem isFiller_fileName (modulePath : Text) {extension : Text} (nonempty : extension ≠ []) :
    isFiller (fileName modulePath extension) = false := by
  have positive := List.length_pos_iff.mpr nonempty
  have long : 2 ≤ (fileName modulePath extension).length := by
    simp only [fileName, List.length_append, List.length_cons]
    omega
  rw [Bool.eq_false_iff]
  intro filler
  obtain empty | dot : fileName modulePath extension = [] ∨ fileName modulePath extension = ['.'] := by
    simpa [isFiller] using filler
  · simp [empty] at long
  · simp [dot] at long

section Target

variable {modulePath extension : Text} (nonempty : modulePath ≠ []) (clean : '/' ∉ modulePath)
  (plain : PlainExtension extension) (relative : modulePath.head? ≠ some '.')

include nonempty clean plain relative

theorem parent?_join_moduleFile {root : List Text} (settled : Settled root) (rooted : root ≠ []) :
    ((pathOf root).join (moduleFile modulePath extension)).parent? =
      some (pathOf (root ++ trimEndWhile isFiller (pieces '.' modulePath).dropLast)) := by
  have joins : (moduleFile modulePath extension).isAbsolute = false := by
    rw [isAbsolute_moduleFile nonempty clean]
    exact decide_eq_false relative
  have cut := pieces_moduleFile clean plain.noSeparator
  have pieces_clean : ∀ part ∈ (pieces '.' modulePath).dropLast ++ [fileName modulePath extension], '/' ∉ part := by
    rw [← cut]
    exact fun _ => not_mem_of_mem_pieces
  obtain ⟨segments_clean, last_clean⟩ := List.forall_mem_append.mp pieces_clean
  have last : Settled [fileName modulePath extension] :=
    settled_singleton (last_clean _ (by simp)) (isFiller_fileName modulePath plain.nonempty)
  have whole : Settled (root ++ (pieces '.' modulePath).dropLast ++ [fileName modulePath extension]) :=
    last.append (by simp) (List.forall_mem_append.mpr ⟨settled.clean, segments_clean⟩)
  rw [settled.join rooted joins, cut, ← List.append_assoc, whole.parent? (by simp), List.dropLast_concat,
    settled.trimEndWhile_append]

end Target

/-- The search from the folder of a file ends at `root` or inside it. -/
def StaysIn (disk : Disk) (sourceDir : Text) (root file : Path) : Prop :=
  ∃ folder again, file.parent? = some folder ∧ sourceRoot? disk folder sourceDir = some again ∧
    (again = root ∨ Inside root again)

/-- Some import line leads from one file to the other, by a module path that does not start with a dot. -/
def Follows (disk : Disk) (layout : Layout) (document target : Path) : Prop :=
  ∃ number text clause link, Header.clause? text = some clause ∧ clause.path.head? ≠ some '.' ∧
    resolve? disk layout document number text = some link ∧ link.target = target

theorem Inside.trans {first second third : Path} (outer : Inside first second) (inner : Inside second third) :
    Inside first third := by
  obtain ⟨down, outerParts, nonempty, outerLevel⟩ := inside_iff.mp outer
  obtain ⟨further, innerParts, _, innerLevel⟩ := inside_iff.mp inner
  refine inside_iff.mpr ⟨down ++ further, ?_, by simp [nonempty], ?_⟩
  · rw [innerParts, outerParts, List.append_assoc]
  · simp [outerLevel, innerLevel]

theorem StaysIn.mono {disk : Disk} {sourceDir : Text} {outer inner file : Path}
    (stays : StaysIn disk sourceDir inner file) (near : inner = outer ∨ Inside outer inner) :
    StaysIn disk sourceDir outer file := by
  obtain ⟨folder, again, above, search, nearer⟩ := stays
  refine ⟨folder, again, above, search, ?_⟩
  rcases near with rfl | inside
  · exact nearer
  · rcases nearer with rfl | deeper
    · exact .inr inside
    · exact .inr (inside.trans deeper)

section Step

variable {disk : Disk} {layout : Layout} (ordinary : OrdinaryName layout.sourceDir)
  (plain : PlainExtension layout.extension)

include ordinary plain

/-- One link leads to a file from which the search ends at the source folder of the link or inside it. -/
theorem staysIn_of_follows {document target : Path} (absolute : document.isAbsolute = true)
    (follows : Follows disk layout document target) :
    target.isAbsolute = true ∧ ∃ start root, document.parent? = some start ∧
      sourceRoot? disk start layout.sourceDir = some root ∧ StaysIn disk layout.sourceDir root target := by
  obtain ⟨number, text, clause, link, named, relative, found, rfl⟩ := follows
  obtain ⟨clause', start, root, named', above, source, target⟩ := resolve?_eq_some found
  cases named.symm.trans named'
  obtain ⟨parts, settled, rfl⟩ := exists_settled_parent absolute above
  obtain ⟨base, settledBase, nonempty, rfl, folder⟩ := exists_settled_sourceRoot ordinary settled source
  have settledRoot := settled_root ordinary settledBase
  have clean := separator_not_mem_path named
  have segments_clean : ∀ part ∈ (pieces '.' clause.path).dropLast, '/' ∉ part := fun part member inside =>
    clean (mem_of_mem_pieces (List.dropLast_subset _ member) inside)
  have level : ∀ part ∈ trimEndWhile isFiller (pieces '.' clause.path).dropLast, '.' ∉ part := fun part member =>
    not_mem_of_mem_pieces (List.dropLast_subset _ (mem_of_mem_trimEndWhile member))
  have up := parent?_join_moduleFile (clause_path_ne_nil named) clean plain relative settledRoot (by simp)
  obtain ⟨again, search, near⟩ := sourceRoot?_below ordinary settledBase nonempty folder _
    (settled_trimEndWhile segments_clean) level
  refine ⟨?_, _, _, above, source, _, again, ?_, search, near⟩
  · rw [target]
    exact isAbsolute_join (isAbsolute_pathOf _) _
  · rw [target]
    exact up

/-- A reader who follows links stays where the first of them led. -/
theorem staysIn_of_reaches {root first reached : Path} (absolute : first.isAbsolute = true)
    (stays : StaysIn disk layout.sourceDir root first)
    (run : Relation.ReflTransGen (Follows disk layout) first reached) :
    reached.isAbsolute = true ∧ StaysIn disk layout.sourceDir root reached := by
  induction run with
  | refl => exact ⟨absolute, stays⟩
  | tail _ follows ih =>
    obtain ⟨still, folder, again, above, search, near⟩ := ih
    obtain ⟨next, start, source, above', search', further⟩ := staysIn_of_follows ordinary plain still follows
    cases above.symm.trans above'
    cases search.symm.trans search'
    exact ⟨next, further.mono near⟩

end Step

/-- From the file that a link leads to, the search for a source folder succeeds again, and ends at the source
folder of the link or inside it. The same holds for every file that is reached by following links from there. -/
theorem links_keep_source_root (disk : Disk) (layout : Layout) (ordinary : OrdinaryName layout.sourceDir)
    (plain : PlainExtension layout.extension) (document : Path) (absolute : document.isAbsolute = true) (number : Nat)
    (text : Text) (clause : Header.Clause) (link : Link) (named : Header.clause? text = some clause)
    (relative : clause.path.head? ≠ some '.') (found : resolve? disk layout document number text = some link) :
    ∃ start root, document.parent? = some start ∧ sourceRoot? disk start layout.sourceDir = some root ∧
      link.target = root.join (moduleFile clause.path layout.extension) ∧
      StaysIn disk layout.sourceDir root link.target ∧
      ∀ reached, Relation.ReflTransGen (Follows disk layout) link.target reached →
        StaysIn disk layout.sourceDir root reached := by
  have follows : Follows disk layout document link.target := ⟨number, text, clause, link, named, relative, found, rfl⟩
  obtain ⟨next, start, root, above, source, stays⟩ := staysIn_of_follows ordinary plain absolute follows
  obtain ⟨clause', start', root', named', above', source', target⟩ := resolve?_eq_some found
  cases named.symm.trans named'
  cases above.symm.trans above'
  cases source.symm.trans source'
  exact ⟨start, root, above, source, target, stays,
    fun reached run => (staysIn_of_reaches ordinary plain next stays run).2⟩

/-- A doubled dot leads to a folder that has a source folder of its own, inside the one that was searched first. -/
theorem links_keep_source_root_above_nested_one :
    let disk := (Disk.empty.addFile ["p".toList, "src".toList, "a".toList, "x.ezsql".toList] .empty).addFolder
      ["p".toList, "src".toList, "a".toList, "src".toList]
    let link : Link := ⟨0, 7, 11, ⟨"/p/src/a//x.ezsql".toList⟩⟩
    resolve? disk .standard ⟨"/p//q/main.ezsql".toList⟩ 0 "import a..x".toList = some link ∧
      sourceRoot? disk ⟨"/p//q".toList⟩ Layout.standard.sourceDir = some ⟨"/p/src".toList⟩ ∧
      sourceRoot? disk ⟨"/p/src/a".toList⟩ Layout.standard.sourceDir = some ⟨"/p/src/a/src".toList⟩ ∧
      StaysIn disk Layout.standard.sourceDir ⟨"/p/src".toList⟩ link.target := by
  intro disk link
  have ordinary : OrdinaryName Layout.standard.sourceDir := ⟨by decide, by decide, by decide, by decide⟩
  have plain : PlainExtension Layout.standard.extension := ⟨by decide, by decide, by decide⟩
  have found : resolve? disk .standard ⟨"/p//q/main.ezsql".toList⟩ 0 "import a..x".toList = some link := by
    decide +kernel
  have root : sourceRoot? disk ⟨"/p//q".toList⟩ Layout.standard.sourceDir = some ⟨"/p/src".toList⟩ := by
    decide +kernel
  have nested : sourceRoot? disk ⟨"/p/src/a".toList⟩ Layout.standard.sourceDir = some ⟨"/p/src/a/src".toList⟩ := by
    decide +kernel
  have named : Header.clause? "import a..x".toList = some ⟨"a..x".toList, 7, none⟩ := by decide
  have folder : (Path.mk "/p//q/main.ezsql".toList).parent? = some ⟨"/p//q".toList⟩ := by decide
  obtain ⟨start, source, above, search, _, stays, _⟩ := links_keep_source_root disk .standard ordinary plain
    ⟨"/p//q/main.ezsql".toList⟩ rfl 0 _ _ link named (by decide) found
  cases above.symm.trans folder
  cases search.symm.trans root
  exact ⟨found, root, nested, stays⟩

end QueryNav.Project
