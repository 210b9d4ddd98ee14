import QueryNav.Proofs.Walks

/-! When two module paths lead to the same file. The text of a module's file still has all that the module path had,
so different module paths have different texts. As components, the empty segments are gone, except that one at the
very front makes the path absolute; what is left are the folders and the name of the file, and two module paths
share them exactly if they differ in empty segments alone. -/

namespace QueryNav.Text

theorem replace_replace {old new : Char} {text : Text} (absent : new ∉ text) :
    replace new old (replace old new text) = text := by
  induction text with
  | nil => rfl
  | cons c text ih =>
    simp only [List.mem_cons, not_or] at absent
    have rest := ih absent.2
    simp only [replace, List.map_cons] at rest ⊢
    rw [rest]
    by_cases same : c = old
    · simp [same]
    · simp [same, Ne.symm absent.1]

end QueryNav.Text

namespace QueryNav.Project

open Text QueryNav.Path

/-- A module path as an import clause can have it. -/
structure ModulePath (path : Text) : Prop where
  nonempty : path ≠ []
  inside : ∀ c ∈ path, Header.isPathChar c = true

theorem ModulePath.clean {path : Text} (valid : ModulePath path) : '/' ∉ path := by
  intro member
  exact absurd (valid.inside '/' member) (by decide)

/-- The module path of a file: what is in front of the dot and the extension, a separator being a dot. -/
def modulePathOf (extension : Text) (file : Path) : Text :=
  replace '/' '.' (file.text.take (file.text.length - (extension.length + 1)))

theorem modulePathOf_moduleFile {path : Text} (clean : '/' ∉ path) (extension : Text) :
    modulePathOf extension (moduleFile path extension) = path := by
  have front : (moduleFile path extension).text.length - (extension.length + 1) = (replace '.' '/' path).length := by
    simp [moduleFile]
  rw [modulePathOf, front, moduleFile, List.take_left, replace_replace clean]

/-- The names that lead to the file of a module: its folders and the file itself. -/
def fileNames (path extension : Text) : List Text := folders path ++ [fileName path extension]

theorem fileNames_eq_iff {path other extension : Text} :
    fileNames path extension = fileNames other extension ↔
      folders path = folders other ∧ (pieces '.' path).getLastD [] = (pieces '.' other).getLastD [] := by
  constructor
  · intro same
    obtain ⟨front, last⟩ := List.append_inj' same rfl
    exact ⟨front, List.append_cancel_right (List.singleton_inj.mp last)⟩
  · intro parts
    obtain ⟨front, last⟩ := parts
    rw [fileNames, fileNames, fileName, fileName, front, last]

section File

variable {path other extension : Text} (valid : ModulePath path) (also : ModulePath other)
  (plain : PlainExtension extension)

include valid plain

theorem components_eq_fileNames :
    (moduleFile path extension).components =
      (if path.head? = some '.' then [.root] else []) ++ (fileNames path extension).map .name := by
  rw [components_moduleFile valid.nonempty valid.clean plain, fileNames, List.map_append, List.map_singleton]

theorem root_mem_components_iff : .root ∈ (moduleFile path extension).components ↔ path.head? = some '.' := by
  rw [components_eq_fileNames valid plain]
  split
  next dot => simp [dot]
  next other => simp [other]

include also in
theorem components_moduleFile_eq_iff :
    (moduleFile path extension).components = (moduleFile other extension).components ↔
      (path.head? = some '.' ↔ other.head? = some '.') ∧ fileNames path extension = fileNames other extension := by
  constructor
  · intro same
    have lead : path.head? = some '.' ↔ other.head? = some '.' := by
      rw [← root_mem_components_iff valid plain, same, root_mem_components_iff also plain]
    rw [components_eq_fileNames valid plain, components_eq_fileNames also plain] at same
    simp only [lead] at same
    exact ⟨lead, (List.map_inj_right fun _ _ => Component.name.inj).mp (List.append_cancel_left same)⟩
  · intro parts
    obtain ⟨lead, same⟩ := parts
    rw [components_eq_fileNames valid plain, components_eq_fileNames also plain, same]
    simp only [lead]

omit valid in
theorem ne_dots_of_mem_fileNames {name : Text} (member : name ∈ fileNames path extension) :
    name ≠ ['.'] ∧ name ≠ ['.', '.'] := by
  rcases List.mem_append.mp member with folder | last
  · have segment := List.dropLast_subset _ (List.mem_filter.mp folder).1
    have noDot : '.' ∉ name := not_mem_of_mem_pieces segment
    constructor <;> rintro rfl <;> simp at noDot
  · -- A last name of dots alone would have been read as a step up, or as none.
    have down : steps [fileName path extension] = [.name (fileName path extension)] := steps_fileName plain
    rw [← List.mem_singleton.mp last] at down
    constructor <;> rintro rfl <;> simp [steps, isFiller, componentOf] at down

theorem component_ne_dots {component : Component} (member : component ∈ (moduleFile path extension).components) :
    component ≠ .current ∧ component ≠ .parent ∧ component ≠ .name ['.'] ∧ component ≠ .name ['.', '.'] := by
  rw [components_eq_fileNames valid plain] at member
  rcases List.mem_append.mp member with top | named
  · have root : component = .root := by
      split at top
      · exact List.mem_singleton.mp top
      · cases top
    simp [root]
  · obtain ⟨name, listed, rfl⟩ := List.mem_map.mp named
    have dots := ne_dots_of_mem_fileNames plain listed
    simpa using dots

theorem place_of_moduleFile (relative : path.head? ≠ some '.') {disk : Disk} {root : Path} {spot : Spot}
    (found : disk.resolve (root.join (moduleFile path extension)) = .ok spot) :
    spot.place = Place.follow (Place.follow [] (steps (if root.isAbsolute then [] else disk.workingFolder)))
      (steps (pieces '/' root.text)) ++ fileNames path extension := by
  have joins : (moduleFile path extension).isAbsolute = false := by
    rw [isAbsolute_moduleFile valid.nonempty valid.clean]
    exact decide_eq_false relative
  have down : steps (pieces '/' (moduleFile path extension).text) = (fileNames path extension).map .name := by
    rw [steps_moduleFile valid.clean plain, fileNames, List.map_append, List.map_singleton]
  rw [Disk.place_of_resolve found, isAbsolute_join_of_relative joins, steps_pieces_join joins, down,
    Place.follow_append, Place.follow_names]

end File

section Full

variable {path other extension : Text} (full : [] ∉ pieces '.' path)

include full

theorem folders_of_full : folders path = (pieces '.' path).dropLast := by
  apply List.filter_eq_self.mpr
  intro segment member
  apply decide_eq_true
  rintro rfl
  exact full (List.dropLast_subset _ member)

theorem head?_ne_dot_of_full : path.head? ≠ some '.' := by
  intro dot
  obtain ⟨rest, rfl⟩ := List.head?_eq_some_iff.mp dot
  exact full (by rw [pieces_separator]; exact List.mem_cons_self)

theorem eq_of_fileNames_eq (fullOther : [] ∉ pieces '.' other)
    (same : fileNames path extension = fileNames other extension) : path = other := by
  obtain ⟨front, last⟩ := fileNames_eq_iff.mp same
  rw [folders_of_full full, folders_of_full fullOther] at front
  rw [← glue_pieces '.' path, ← glue_pieces '.' other, pieces_eq path, pieces_eq other, front, last]

end Full

/-- The components of a module's file are the folders and the name that its module path spells, behind the top of the
tree if there is a dot in front. The module path can be read off the text of the file; as components, two files are
the same exactly if their module paths differ in empty segments alone. Without these, different module paths never
lead to the same place. -/
theorem module_files_agree_iff (extension : Text) (plain : PlainExtension extension) (path : Text)
    (valid : ModulePath path) :
    (moduleFile path extension).components = (if path.head? = some '.' then [.root] else []) ++
        ((pieces '.' path).dropLast.filter fun segment => segment ≠ []).map .name ++
        [.name ((pieces '.' path).getLastD [] ++ '.' :: extension)] ∧
      (∀ component ∈ (moduleFile path extension).components, component ≠ .current ∧ component ≠ .parent ∧
        component ≠ .name ['.'] ∧ component ≠ .name ['.', '.']) ∧
      modulePathOf extension (moduleFile path extension) = path ∧
      ∀ other, ModulePath other →
        ((moduleFile path extension).components = (moduleFile other extension).components ↔
          (path.head? = some '.' ↔ other.head? = some '.') ∧
            ((pieces '.' path).dropLast.filter fun segment => segment ≠ []) =
              ((pieces '.' other).dropLast.filter fun segment => segment ≠ []) ∧
            (pieces '.' path).getLastD [] = (pieces '.' other).getLastD []) ∧
        (moduleFile path extension = moduleFile other extension ↔ path = other) ∧
        ([] ∉ pieces '.' path → [] ∉ pieces '.' other → path ≠ other →
          (moduleFile path extension).components ≠ (moduleFile other extension).components ∧
          ∀ (disk : Disk) (root : Path) first second, disk.resolve (root.join (moduleFile path extension)) = .ok first →
            disk.resolve (root.join (moduleFile other extension)) = .ok second → first.place ≠ second.place) := by
  refine ⟨?_, fun _ => component_ne_dots valid plain, modulePathOf_moduleFile valid.clean extension, ?_⟩
  · rw [components_eq_fileNames valid plain, fileNames, List.map_append, List.map_singleton, List.append_assoc]
    rfl
  · intro other also
    have agree := components_moduleFile_eq_iff valid also plain
    refine ⟨?_, ?_, ?_⟩
    · rw [agree, fileNames_eq_iff]
      rfl
    · constructor
      · intro same
        rw [← modulePathOf_moduleFile valid.clean extension, same, modulePathOf_moduleFile also.clean]
      · rintro rfl
        rfl
    · intro full fullOther different
      have names : fileNames path extension ≠ fileNames other extension :=
        mt (eq_of_fileNames_eq full fullOther) different
      refine ⟨fun same => names (agree.mp same).2, ?_⟩
      intro disk root first second found foundOther same
      rw [place_of_moduleFile valid plain (head?_ne_dot_of_full full) found,
        place_of_moduleFile also plain (head?_ne_dot_of_full fullOther) foundOther] at same
      exact names (List.append_cancel_left same)

/-- A doubled dot leads to the same file as a single one, and a different last segment does not. -/
theorem module_files_agree_iff_of_doubled_dot :
    let disk := (Disk.empty.addFile ["s".toList, "a".toList, "b.sql".toList] .empty).addFile
      ["s".toList, "a".toList, "c.sql".toList] .empty
    let file (path : String) := moduleFile path.toList "sql".toList
    (file "a..b").components = (file "a.b").components ∧ modulePathOf "sql".toList (file "a..b") = "a..b".toList ∧
      ∃ first second, disk.resolve ((Path.mk "/s".toList).join (file "a.b")) = .ok first ∧
        disk.resolve ((Path.mk "/s".toList).join (file "a.c")) = .ok second ∧ first.place ≠ second.place := by
  intro disk file
  have plain : PlainExtension "sql".toList := ⟨by decide, by decide, by decide⟩
  have doubled : ModulePath "a..b".toList := ⟨by decide, List.all_eq_true.mp rfl⟩
  have single : ModulePath "a.b".toList := ⟨by decide, List.all_eq_true.mp rfl⟩
  have different : ModulePath "a.c".toList := ⟨by decide, List.all_eq_true.mp rfl⟩
  obtain ⟨_, _, back, agree⟩ := module_files_agree_iff "sql".toList plain _ doubled
  obtain ⟨_, _, _, apart⟩ := module_files_agree_iff "sql".toList plain _ single
  obtain ⟨first, found⟩ : ∃ spot, disk.resolve ((Path.mk "/s".toList).join (file "a.b")) = .ok spot := ⟨_, rfl⟩
  obtain ⟨second, also⟩ : ∃ spot, disk.resolve ((Path.mk "/s".toList).join (file "a.c")) = .ok spot := ⟨_, rfl⟩
  refine ⟨(agree _ single).1.mpr (by decide), back, first, second, found, also, ?_⟩
  exact ((apart _ different).2.2 (by decide) (by decide) (by decide)).2 disk _ first second found also

end QueryNav.Project
