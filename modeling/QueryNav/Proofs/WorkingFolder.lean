import QueryNav.CommandLine
import QueryNav.Proofs.Walks

/-! The file that a report is about. Its name is taken from the arguments and looked at as a text before anything is
looked up on the disk. A text that is let through has names for its steps and nothing else, so that it leads down from
the working folder, step by step, and never up. What is read is therefore a file below the working folder, and the
very one that the argument names; any other argument ends with an error on every disk. -/

namespace QueryNav.CommandLine

open Text QueryNav.Path Disk Project
open Header (bytes bytes_cons)

theorem colonSecond_iff {text : Text} :
    colonSecond text = true ↔ ∃ c rest, text = c :: ':' :: rest ∧ c.utf8Size = 1 := by
  unfold colonSecond
  split
  next c rest => simp
  next other =>
    simp only [Bool.false_eq_true, false_iff]
    intro colon
    obtain ⟨c, rest, rfl, _⟩ := colon
    exact other c rest rfl

private theorem eq_colon_of_getElem? {c : Char} {index : Nat}
    (found : (String.utf8EncodeChar c)[index]? = some ':'.toUInt8) : c = ':' := by
  apply Decidable.byContradiction
  intro other
  exact Uri.ascii_not_mem_encodeChar (by decide) other (List.mem_of_getElem? found)

theorem getElem?_bytes_zero_iff {text : Text} : (bytes text)[0]? = some ':'.toUInt8 ↔ text.head? = some ':' := by
  cases text with
  | nil => simp [bytes]
  | cons c rest =>
    have some : 0 < (String.utf8EncodeChar c).length := by
      rw [String.length_utf8EncodeChar]
      exact c.utf8Size_pos
    rw [bytes_cons, List.getElem?_append_left some, List.head?_cons, Option.some.injEq]
    constructor
    · exact eq_colon_of_getElem?
    · intro colon
      subst colon
      decide

theorem colonSecond_iff_bytes {text : Text} : colonSecond text = true ↔ (bytes text)[1]? = some ':'.toUInt8 := by
  rw [colonSecond_iff]
  cases text with
  | nil => simp [bytes]
  | cons c rest =>
    have size := String.length_utf8EncodeChar c
    by_cases single : c.utf8Size = 1
    · -- The second byte is the first one of the second character.
      have next : (bytes (c :: rest))[1]? = (bytes rest)[0]? := by
        rw [bytes_cons, List.getElem?_append_right (by omega), size, single]
      rw [next, getElem?_bytes_zero_iff, List.head?_eq_some_iff]
      constructor
      · intro colon
        obtain ⟨first, behind, whole, _⟩ := colon
        exact ⟨behind, (List.cons.inj whole).2⟩
      · intro colon
        obtain ⟨behind, rfl⟩ := colon
        exact ⟨c, behind, rfl, single⟩
    · -- The second byte still belongs to the first character, which is wide and so not a colon.
      have positive := c.utf8Size_pos
      rw [bytes_cons, List.getElem?_append_left (by omega)]
      constructor
      · intro colon
        obtain ⟨first, behind, whole, narrow⟩ := colon
        cases whole
        exact absurd narrow single
      · intro found
        have colon := eq_colon_of_getElem? found
        subst colon
        exact absurd (by decide) single

/-- What the text of a name must be like for the file to be looked up at all. -/
structure SafeText (text : Text) : Prop where
  nonempty : text ≠ []
  relative : text.head? ≠ some '/'
  level : ['.', '.'] ∉ pieces '/' text
  printable : ∀ c ∈ text, c ≠ Char.ofNat 0 ∧ c ≠ '\n' ∧ c ≠ '\r' ∧ c ≠ '\t'
  noDrive : (bytes text)[1]? ≠ some ':'.toUInt8

theorem parent_mem_steps_iff {parts : List Text} : .parent ∈ steps parts ↔ ['.', '.'] ∈ parts := by
  simp only [steps, List.mem_map, List.mem_filter]
  constructor
  · intro step
    obtain ⟨piece, ⟨listed, _⟩, upward⟩ := step
    unfold componentOf at upward
    split at upward
    next same => exact same ▸ listed
    next => cases upward
  · intro listed
    exact ⟨_, ⟨listed, rfl⟩, rfl⟩

theorem parent_mem_components_iff {path : Path} : .parent ∈ path.components ↔ ['.', '.'] ∈ pieces '/' path.text := by
  have lead : .parent ∉ leadComponents path.lead := by
    unfold leadComponents
    split
    · simp
    · split <;> simp
  rw [components_eq, List.mem_append, or_iff_right lead, steps, ← Path.names, ← parent_mem_steps_iff, steps_pieces]

theorem isSafe_iff {path : Path} : isSafe path = true ↔ SafeText path.text := by
  have relative : path.isAbsolute = false ↔ path.text.head? ≠ some '/' := by simp [isAbsolute]
  have level : path.components.contains .parent = false ↔ ['.', '.'] ∉ pieces '/' path.text := by
    rw [← parent_mem_components_iff]
    simp
  have printable : (path.text.any fun c => suspicious.contains c) = false ↔
      ∀ c ∈ path.text, c ≠ Char.ofNat 0 ∧ c ≠ '\n' ∧ c ≠ '\r' ∧ c ≠ '\t' := by
    simp [suspicious]
  have noDrive : colonSecond path.text = false ↔ (bytes path.text)[1]? ≠ some ':'.toUInt8 := by
    rw [← Bool.not_eq_true, colonSecond_iff_bytes]
  simp only [isSafe, Bool.and_eq_true, Bool.not_eq_true', decide_eq_true_eq, relative, level, printable, noDrive]
  constructor
  · intro checks
    obtain ⟨⟨⟨⟨first, second⟩, third⟩, fourth⟩, fifth⟩ := checks
    exact ⟨first, second, third, fourth, fifth⟩
  · intro safe
    exact ⟨⟨⟨⟨safe.nonempty, safe.relative⟩, safe.level⟩, safe.printable⟩, safe.noDrive⟩

theorem SafeText.isAbsolute {path : Path} (safe : SafeText path.text) : path.isAbsolute = false :=
  decide_eq_false safe.relative

theorem SafeText.steps_pieces {path : Path} (safe : SafeText path.text) :
    steps (pieces '/' path.text) = path.names.map .name := by
  rw [Path.steps_pieces]
  apply List.map_congr_left
  intro piece member
  rw [names_eq] at member
  apply if_neg
  intro upward
  subst upward
  exact safe.level (List.mem_filter.mp member).1

theorem SafeText.components_join {folder path : Path} (safe : SafeText path.text) (rooted : folder.text ≠ []) :
    (folder.join path).components = folder.components ++ path.names.map .name := by
  rw [Path.components_join rooted safe.isAbsolute, safe.steps_pieces]

theorem SafeText.follow_join {folder path : Path} (safe : SafeText path.text) {front : List Component}
    (past : folder.components <+: front) (part : front <+: (folder.join path).components) :
    Place.follow [] folder.components <+: Place.follow [] front := by
  by_cases rooted : folder.text = []
  · have nowhere : folder.components = [] := by
      rw [show folder = ⟨[]⟩ from congrArg Path.mk rooted]
      rfl
    rw [nowhere]
    exact List.nil_prefix
  · obtain ⟨taken, rfl⟩ := past
    rw [safe.components_join rooted, List.prefix_append_right_inj, List.prefix_iff_eq_take, ← List.map_take] at part
    rw [part, Place.follow_append, Place.follow_names]
    exact List.prefix_append _ _

theorem steps_of_ordinary {place : Place} (ordinary : ∀ name ∈ place, OrdinaryName name) :
    steps place = place.map .name := by
  induction place with
  | nil => rfl
  | cons name place ih =>
    obtain ⟨first, others⟩ := List.forall_mem_cons.mp ordinary
    rw [steps_cons, first.steps, ih others, List.map_cons, List.singleton_append]

section Working

variable {disk : Disk} {path : Path} {spot : Spot} (ordinary : ∀ name ∈ disk.workingFolder, OrdinaryName name)
  (safe : SafeText path.text)

include ordinary safe

theorem follow_join_workingFolder :
    Place.follow [] ((pathOf disk.workingFolder).join path).components = disk.workingFolder ++ path.names := by
  have clean : ∀ name ∈ disk.workingFolder, '/' ∉ name := fun name member => (ordinary name member).noSeparator
  have rooted : (pathOf disk.workingFolder).text ≠ [] := List.cons_ne_nil _ _
  rw [safe.components_join rooted, components_pathOf clean, steps_of_ordinary ordinary,
    Place.follow_append, Place.follow_names]
  exact congrArg (· ++ path.names) (Place.follow_names [] disk.workingFolder)

theorem place_of_safe (found : disk.resolve path = .ok spot) : spot.place = disk.workingFolder ++ path.names := by
  rw [place_of_resolve found, safe.isAbsolute, safe.steps_pieces, Place.follow_names, if_neg Bool.false_ne_true,
    steps_of_ordinary ordinary, Place.follow_names, List.nil_append]

theorem names_ne_nil (found : disk.resolve path = .ok spot) {bytes : ByteArray} (file : spot.here = .file bytes) :
    path.names ≠ [] := by
  intro nothing
  have here := place_of_safe ordinary safe found
  rw [nothing, List.append_nil] at here
  have walked := walk_of_resolve found
  rw [safe.isAbsolute, if_neg Bool.false_ne_true] at walked
  obtain ⟨home, reached, further⟩ := Spot.walk_append_eq_ok_iff.mp walked
  have again := walk_place_of_resolve found
  rw [here] at again
  cases again.symm.trans reached
  obtain ⟨piece, rest, cut⟩ := List.exists_cons_of_ne_nil (pieces_ne_nil '/' path.text)
  rw [cut] at further
  obtain ⟨_, taken, _⟩ := Spot.walk_cons_eq_ok_iff.mp further
  obtain ⟨entries, folder, _⟩ := Spot.step_cases taken
  cases folder.symm.trans file

theorem reads_same_file (found : disk.resolve path = .ok spot) {text : Text}
    (read : disk.readText (pathOf spot.place) = .ok text) :
    ∃ bytes content, spot.here = .file bytes ∧ String.fromUTF8? bytes = some content ∧ content.toList = text := by
  have clean : ∀ name ∈ spot.place, '/' ∉ name := by
    rw [place_of_safe ordinary safe found]
    exact List.forall_mem_append.mpr
      ⟨fun name member => (ordinary name member).noSeparator, fun _ => separator_not_mem_names⟩
  obtain ⟨again, bytes, content, leads, file, decoded, same⟩ := exists_file_of_readText read
  cases (walk_of_resolve_pathOf clean leads).symm.trans (walk_place_of_resolve found)
  exact ⟨bytes, content, file, decoded, same⟩

end Working

/-- The argument that names the file: the first one behind the first word `--analyze` that does not start with two
dashes. -/
def Names (arguments : List Text) (name : Text) : Prop :=
  ∃ before options behind, arguments = before ++ analyzeOption :: (options ++ name :: behind) ∧
    analyzeOption ∉ before ∧ (∀ argument ∈ options, ['-', '-'] <+: argument) ∧ ¬ ['-', '-'] <+: name

theorem isOption_iff {argument : Text} : isOption argument = true ↔ ['-', '-'] <+: argument :=
  List.isPrefixOf_iff_prefix

theorem afterAnalyze?_of_not_mem {arguments : List Text} (absent : analyzeOption ∉ arguments) :
    afterAnalyze? arguments = none := by
  induction arguments with
  | nil => rfl
  | cons argument arguments ih =>
    simp only [List.mem_cons, not_or] at absent
    rw [afterAnalyze?, if_neg (Ne.symm absent.1), ih absent.2]

theorem afterAnalyze?_append {before : List Text} (absent : analyzeOption ∉ before) (rest : List Text) :
    afterAnalyze? (before ++ analyzeOption :: rest) = some rest := by
  induction before with
  | nil => simp [afterAnalyze?]
  | cons argument before ih =>
    simp only [List.mem_cons, not_or] at absent
    rw [List.cons_append, afterAnalyze?, if_neg (Ne.symm absent.1), ih absent.2]

theorem task_of_not_mem {arguments : List Text} (absent : analyzeOption ∉ arguments) :
    task arguments = .ok .serve := by
  simp only [task, afterAnalyze?_of_not_mem absent]

theorem Names.task_eq {arguments : List Text} {name : Text} (names : Names arguments name) :
    task arguments = if isSafe ⟨name⟩ then .ok (.analyze ⟨name⟩ (arguments.contains importsOnlyOption))
      else .error (.unsafePath ⟨name⟩) := by
  obtain ⟨before, options, behind, rfl, absent, skipped, named⟩ := names
  have skips : (options ++ name :: behind).dropWhile isOption = name :: behind := by
    rw [List.dropWhile_append_of_pos fun argument member => isOption_iff.mpr (skipped argument member),
      List.dropWhile_cons_of_neg (mt isOption_iff.mp named)]
  simp only [task, afterAnalyze?_append absent, skips]

theorem exists_names_or_usage {arguments : List Text} (asked : analyzeOption ∈ arguments) :
    (∃ name, Names arguments name) ∨ task arguments = .error .usage := by
  obtain ⟨before, rest, rfl, absent⟩ := List.eq_append_cons_of_mem asked
  cases left : rest.dropWhile isOption with
  | nil =>
    right
    simp only [task, afterAnalyze?_append absent, left]
  | cons name behind =>
    left
    have whole : rest.takeWhile isOption ++ name :: behind = rest := by rw [← left, List.takeWhile_append_dropWhile]
    have named := List.head?_dropWhile_not isOption rest
    rw [left, List.head?_cons] at named
    refine ⟨name, before, rest.takeWhile isOption, behind, by rw [whole], absent, ?_, ?_⟩
    · intro argument member
      exact isOption_iff.mp (List.all_eq_true.mp List.all_takeWhile argument member)
    · rw [← isOption_iff]
      exact Bool.eq_false_iff.mp named

theorem report?_eq_some_iff {disk : Disk} {arguments : List Text} {report : Report} :
    report? disk arguments = .ok (some report) ↔ ∃ name, Names arguments name ∧ isSafe ⟨name⟩ = true ∧
      Report.analyze disk .standard (arguments.contains importsOnlyOption) ⟨name⟩ = .ok report := by
  constructor
  · intro given
    by_cases asked : analyzeOption ∈ arguments
    · rcases exists_names_or_usage asked with ⟨name, names⟩ | usage
      · have next := names.task_eq
        split at next
        next safe =>
          refine ⟨name, names, safe, ?_⟩
          simp only [report?, next] at given
          split at given
          next found made =>
            cases given
            exact made
          next => cases given
        next => simp [report?, next] at given
      · simp [report?, usage] at given
    · simp [report?, task_of_not_mem asked] at given
  · intro named
    obtain ⟨name, names, safe, made⟩ := named
    simp only [report?, names.task_eq, if_pos safe, made]

theorem report?_of_refused {arguments : List Text} (asked : analyzeOption ∈ arguments)
    (refused : ∀ name, Names arguments name → isSafe ⟨name⟩ = false) :
    ∃ failure, task arguments = .error failure ∧ ∀ disk, report? disk arguments = .error failure := by
  have failing : ∀ failure, task arguments = .error failure → ∀ disk, report? disk arguments = .error failure := by
    intro failure next disk
    simp only [report?, next]
  rcases exists_names_or_usage asked with ⟨name, names⟩ | usage
  · have next := names.task_eq
    rw [refused name names, if_neg Bool.false_ne_true] at next
    exact ⟨_, next, failing _ next⟩
  · exact ⟨_, usage, failing _ usage⟩

/-- The file at a spot is read under a relative name: the name leads there, the file is read under the path of its
place, and the place is below the working folder. -/
structure ReadsBelow (disk : Disk) (name text : Text) (spot : Spot) : Prop where
  leads : disk.resolve ⟨name⟩ = .ok spot
  canonical : disk.canonical ⟨name⟩ = .ok (pathOf spot.place)
  read : disk.readText (pathOf spot.place) = .ok text
  holds : ∃ bytes content, spot.here = .file bytes ∧ String.fromUTF8? bytes = some content ∧ content.toList = text
  place : spot.place = Place.follow [] ((pathOf disk.workingFolder).join ⟨name⟩).components
  below : disk.workingFolder <+: spot.place ∧ disk.workingFolder ≠ spot.place

theorem readsBelow_of_analyze {disk : Disk} (ordinary : ∀ name ∈ disk.workingFolder, OrdinaryName name) {name : Text}
    (safe : SafeText name) {importsOnly : Bool} {report : Report}
    (made : Report.analyze disk .standard importsOnly ⟨name⟩ = .ok report) :
    ∃ text spot, ReadsBelow disk name text spot ∧ report.file = name ∧ report.imports = Header.scan text.lines := by
  obtain ⟨absolute, text, found, read, rfl⟩ := Report.analyze_eq_ok_iff.mp made
  cases leads : disk.resolve ⟨name⟩ with
  | error fault => simp [canonical, leads] at found
  | ok spot =>
    have canonical : disk.canonical ⟨name⟩ = .ok (pathOf spot.place) := by simp only [Disk.canonical, leads]
    cases canonical.symm.trans found
    obtain ⟨bytes, content, file, decoded, same⟩ := reads_same_file ordinary safe leads read
    have place := place_of_safe ordinary safe leads
    have further := names_ne_nil ordinary safe leads file
    refine ⟨text, spot, ⟨leads, canonical, read, ⟨bytes, content, file, decoded, same⟩, ?_, ?_⟩, rfl, rfl⟩
    · rw [follow_join_workingFolder ordinary safe, place]
    · rw [place]
      exact ⟨List.prefix_append _ _, fun nothing => further (List.self_eq_append_right.mp nothing)⟩

/-- A name is safe by its text alone, and the way along a safe name from any folder stays in that folder at every
step. A report is made exactly if a safe argument names a file that can be read; what is read then is this file,
and it is below the working folder. If no argument names a file, or an unsafe one does, there is an error that no disk
can change. -/
theorem report_reads_below_working_folder :
    (∀ path : Path, isSafe path = true ↔ SafeText path.text) ∧
      (∀ folder path : Path, isSafe path = true → ∀ front, folder.components <+: front →
        front <+: (folder.join path).components → Place.follow [] folder.components <+: Place.follow [] front) ∧
      (∀ (disk : Disk) arguments report, (∀ name ∈ disk.workingFolder, OrdinaryName name) →
        (report? disk arguments = .ok (some report) ↔
          ∃ name text spot, Names arguments name ∧ isSafe ⟨name⟩ = true ∧ ReadsBelow disk name text spot ∧
            report.file = name ∧ report.imports = Header.scan text.lines ∧
            Report.analyze disk .standard (arguments.contains importsOnlyOption) ⟨name⟩ = .ok report)) ∧
      ∀ arguments, analyzeOption ∈ arguments → (∀ name, Names arguments name → isSafe ⟨name⟩ = false) →
        ∃ failure, task arguments = .error failure ∧ ∀ disk, report? disk arguments = .error failure := by
  refine ⟨fun _ => isSafe_iff, ?_, ?_, fun _ => report?_of_refused⟩
  · intro folder path safe front past part
    exact (isSafe_iff.mp safe).follow_join past part
  · intro disk arguments report ordinary
    rw [report?_eq_some_iff]
    constructor
    · intro named
      obtain ⟨name, names, safe, made⟩ := named
      obtain ⟨text, spot, below, file, imports⟩ := readsBelow_of_analyze ordinary (isSafe_iff.mp safe) made
      exact ⟨name, text, spot, names, safe, below, file, imports, made⟩
    · intro named
      obtain ⟨name, _, _, names, safe, _, _, _, made⟩ := named
      exact ⟨name, names, safe, made⟩

/-- A name with a piece that means nothing, an empty one and two dots inside a name, behind an option that nobody
knows; and a name that goes up only after a piece that means nothing. -/
theorem report_reads_below_working_folder_of_dotted_names :
    let disk : Disk :=
      { Disk.empty.addFile ["w".toList, "a".toList, "b..c".toList] "<head>\nimport x\n</head>".toUTF8 with
        workingFolder := ["w".toList] }
    let name : Text := "./a//b..c".toList
    let arguments : List Text :=
      ["--imports-only".toList, analyzeOption, "--depth".toList, name, "../z".toList]
    (∃ spot, report? disk arguments = .ok (some ⟨name, [⟨"import x".toList, "x".toList, none, 1⟩], none⟩) ∧
      disk.resolve ⟨name⟩ = .ok spot ∧ ["w".toList] <+: spot.place ∧ ["w".toList] ≠ spot.place) ∧
      Place.follow [] [.root, .name "u".toList, .parent, .name "v".toList] <+: ["v".toList, "a".toList] ∧
      ∀ disk, report? disk [analyzeOption, "a/./..".toList, "b".toList] = .error (.unsafePath ⟨"a/./..".toList⟩) := by
  intro disk name arguments
  obtain ⟨_, stays, given, refused⟩ := report_reads_below_working_folder
  have ordinary : ∀ name ∈ disk.workingFolder, OrdinaryName name := by
    intro name member
    cases List.mem_singleton.mp member
    exact ⟨by decide, by decide, by decide, by decide⟩
  refine ⟨?_, ?_, ?_⟩
  · have made : report? disk arguments = .ok (some ⟨name, [⟨"import x".toList, "x".toList, none, 1⟩], none⟩) := rfl
    obtain ⟨_, _, spot, _, _, below, file, _⟩ := (given disk arguments _ ordinary).mp made
    cases file
    exact ⟨spot, made, below.leads, below.below⟩
  · exact stays ⟨"/u/../v".toList⟩ ⟨name⟩ (by decide +kernel)
      [.root, .name "u".toList, .parent, .name "v".toList, .name "a".toList] (by decide +kernel) (by decide +kernel)
  · have next : task [analyzeOption, "a/./..".toList, "b".toList] = .error (.unsafePath ⟨"a/./..".toList⟩) := rfl
    have upward : ∀ name, Names [analyzeOption, "a/./..".toList, "b".toList] name → isSafe ⟨name⟩ = false := by
      intro name names
      have again := names.task_eq.symm.trans next
      split at again
      · cases again
      next other => exact Bool.eq_false_iff.mpr other
    obtain ⟨failure, known, everywhere⟩ := refused _ (by decide) upward
    cases known.symm.trans next
    exact everywhere

end QueryNav.CommandLine
