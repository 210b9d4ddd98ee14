import QueryNav.Project.Definition
import QueryNav.Proofs.Components
import QueryNav.Proofs.Grammar

/-! Where links lead. The file of a module is joined to the source folder, so a link leads below that folder,
except that an absolute path takes the place of what it is joined to. A module path gives an absolute file
exactly if it starts with a dot; such a link leads to a place that is counted from the top of the tree, and
only by its own names can that place be in the source folder. -/

namespace QueryNav.Project

open Text QueryNav.Path

/-- A path that lies below another: it has all components of that one and more, and does not go up again. -/
def Inside (folder path : Path) : Prop :=
  folder.components <+: path.components ∧ folder.components.length < path.components.length ∧
    .parent ∉ path.components.drop folder.components.length

instance (folder path : Path) : Decidable (Inside folder path) := inferInstanceAs (Decidable (_ ∧ _ ∧ _))

theorem inside_iff {folder path : Path} :
    Inside folder path ↔ ∃ rest, path.components = folder.components ++ rest ∧ rest ≠ [] ∧ .parent ∉ rest := by
  constructor
  · intro below
    obtain ⟨⟨rest, whole⟩, longer, level⟩ := below
    rw [← whole] at longer level
    refine ⟨rest, whole.symm, ?_, by simpa using level⟩
    rintro rfl
    simp at longer
  · intro extended
    obtain ⟨rest, whole, nonempty, level⟩ := extended
    rw [Inside, whole]
    have positive := List.length_pos_iff.mpr nonempty
    exact ⟨List.prefix_append _ _, by simp; omega, by simpa using level⟩

theorem sourceRoot?_ne_nil {disk : Disk} {start root : Path} {sourceDir : Text}
    (found : sourceRoot? disk start sourceDir = some root) : root.text ≠ [] := by
  fun_induction sourceRoot? disk start sourceDir with
  | case1 start parent above inside =>
    cases found
    apply join_ne_nil
    intro empty
    have shorter := length_parent?_lt above
    simp [empty] at shorter
  | case2 start parent above outside ih => exact ih found
  | case3 => cases found

/-- What has to be there for a link, and where it leads. -/
theorem resolve?_eq_some {disk : Disk} {layout : Layout} {document : Path} {number : Nat} {text : Text} {link : Link}
    (found : resolve? disk layout document number text = some link) :
    ∃ clause start root, Header.clause? text = some clause ∧ document.parent? = some start ∧
      sourceRoot? disk start layout.sourceDir = some root ∧
      link.target = root.join (moduleFile clause.path layout.extension) := by
  simp only [resolve?, Option.bind_eq_bind, Option.bind_eq_some_iff, Option.ite_none_right_eq_some,
    Option.some.injEq] at found
  obtain ⟨clause, named, start, above, root, source, _, rfl⟩ := found
  exact ⟨clause, start, root, named, above, source, rfl⟩

theorem clause_path_ne_nil {text : Text} {clause : Header.Clause} (found : Header.clause? text = some clause) :
    clause.path ≠ [] := by
  obtain ⟨_, _, _, stands⟩ := Header.clause?_eq_some_iff.mp found
  exact stands.path.nonempty

theorem separator_not_mem_path {text : Text} {clause : Header.Clause} (found : Header.clause? text = some clause) :
    '/' ∉ clause.path := by
  intro member
  obtain ⟨_, _, _, stands⟩ := Header.clause?_eq_some_iff.mp found
  have impossible := stands.path.inside '/' member
  exact absurd impossible (by decide)

section Target

variable {root : Path} {modulePath extension : Text} (rooted : root.text ≠ []) (nonempty : modulePath ≠ [])
  (clean : '/' ∉ modulePath) (plain : PlainExtension extension)

include nonempty clean plain

include rooted in
theorem inside_join (relative : modulePath.head? ≠ some '.') :
    Inside root (root.join (moduleFile modulePath extension)) := by
  have joins : (moduleFile modulePath extension).isAbsolute = false := by
    rw [isAbsolute_moduleFile nonempty clean]
    exact decide_eq_false relative
  apply inside_iff.mpr
  refine ⟨_, components_join rooted joins, ?_, ?_⟩
  all_goals rw [steps_moduleFile clean plain]
  · simp
  · simp

theorem inside_join_absolute_iff (absolute : modulePath.head? = some '.') :
    Inside root (root.join (moduleFile modulePath extension)) ↔
      root.components <+: .root :: (folders modulePath).map .name := by
  have replaces : root.join (moduleFile modulePath extension) = moduleFile modulePath extension := by
    rw [join, isAbsolute_moduleFile nonempty clean, if_pos (decide_eq_true absolute)]
  have parts := components_moduleFile nonempty clean plain
  rw [if_pos absolute, List.singleton_append, ← List.cons_append] at parts
  rw [replaces, inside_iff, parts]
  constructor
  · intro extended
    obtain ⟨rest, whole, something, _⟩ := extended
    obtain ⟨front, last, rfl⟩ : ∃ front last, rest = front ++ [last] :=
      ⟨_, _, (List.dropLast_concat_getLast something).symm⟩
    rw [← List.append_assoc] at whole
    exact ⟨front, (List.append_inj_left' whole rfl).symm⟩
  · intro leads
    obtain ⟨further, whole⟩ := leads
    refine ⟨further ++ [.name (fileName modulePath extension)], by rw [← whole, List.append_assoc], by simp, ?_⟩
    intro member
    rcases List.mem_append.mp member with early | last
    · have listed : Component.parent ∈ Component.root :: (folders modulePath).map .name := by
        rw [← whole]
        exact List.mem_append_right _ early
      simp at listed
    · simp at last

end Target

/-- A link stays in the source folder exactly if the module path does not start with a dot, or else if the
names that it leads through from the top of the tree already lead into that folder. -/
theorem target_inside_iff (disk : Disk) (layout : Layout) (plain : PlainExtension layout.extension) (document : Path)
    (number : Nat) (text : Text) (link : Link) (found : resolve? disk layout document number text = some link) :
    ∃ clause start root, Header.clause? text = some clause ∧ document.parent? = some start ∧
      sourceRoot? disk start layout.sourceDir = some root ∧
      (Inside root link.target ↔
        clause.path.head? ≠ some '.' ∨ root.components <+: .root :: (folders clause.path).map .name) := by
  obtain ⟨clause, start, root, named, above, source, target⟩ := resolve?_eq_some found
  refine ⟨clause, start, root, named, above, source, ?_⟩
  have nonempty := clause_path_ne_nil named
  have clean := separator_not_mem_path named
  rw [target]
  by_cases absolute : clause.path.head? = some '.'
  · rw [inside_join_absolute_iff nonempty clean plain absolute]
    simp [absolute]
  · simp [inside_join (sourceRoot?_ne_nil source) nonempty clean plain absolute, absolute]

/-- Doubled and trailing dots stay in the source folder: they lead to a file that has only an extension. -/
theorem target_inside_iff_of_doubled_dots :
    let disk := Disk.empty.addFile ["p".toList, "src".toList, "a".toList, "b".toList, ".ezsql".toList] .empty
    let link : Link := ⟨4, 7, 12, ⟨"/p/src/a//b/.ezsql".toList⟩⟩
    PlainExtension Layout.standard.extension ∧
      resolve? disk .standard ⟨"/p/q/main.ezsql".toList⟩ 4 "import a..b.".toList = some link ∧
      ∃ root, sourceRoot? disk ⟨"/p/q".toList⟩ Layout.standard.sourceDir = some root ∧ Inside root link.target := by
  intro disk link
  have plain : PlainExtension Layout.standard.extension := ⟨by decide, by decide, by decide⟩
  have found : resolve? disk .standard ⟨"/p/q/main.ezsql".toList⟩ 4 "import a..b.".toList = some link := by
    decide +kernel
  obtain ⟨clause, start, root, named, above, source, inside⟩ := target_inside_iff disk .standard plain _ 4 _ link found
  have path : Header.clause? "import a..b.".toList = some ⟨"a..b.".toList, 7, none⟩ := by decide
  have folder : (Path.mk "/p/q/main.ezsql".toList).parent? = some ⟨"/p/q".toList⟩ := by decide
  cases named.symm.trans path
  cases above.symm.trans folder
  exact ⟨plain, found, root, source, inside.mpr (.inl (by decide))⟩

/-- A dot in front of the module path leads out of the source folder, to the top of the tree. -/
theorem leading_dot_leaves_source_folder :
    let disk := (Disk.empty.addFolder ["p".toList, "src".toList]).addFile ["x.ezsql".toList] .empty
    PlainExtension Layout.standard.extension ∧
      resolve? disk .standard ⟨"/p/main.ezsql".toList⟩ 0 "import .x".toList =
        some ⟨0, 7, 9, ⟨"/x.ezsql".toList⟩⟩ ∧
      sourceRoot? disk ⟨"/p".toList⟩ Layout.standard.sourceDir = some ⟨"/p/src".toList⟩ ∧
      ¬ Inside ⟨"/p/src".toList⟩ ⟨"/x.ezsql".toList⟩ := by
  intro disk
  have plain : PlainExtension Layout.standard.extension := ⟨by decide, by decide, by decide⟩
  refine ⟨plain, ?_, ?_, by decide⟩
  · decide +kernel
  · decide +kernel

end QueryNav.Project
