import Mathlib.Data.List.TakeWhile
import QueryNav.Proofs.SettingsHistory
import QueryNav.Proofs.Trimming

/-! The layout that a session goes by. A name that the client sets has to hold something besides blanks, or else the
standard one is kept, and the dots at the front of an extension are taken away. The source folder is therefore always
named. The extension is looked at before its dots are gone, so that dots with nothing but blanks behind them pass for
a name and leave none; this is the only way in which a session comes to an extension that holds nothing. -/

namespace QueryNav.Text

/-- The text holds something besides blanks. -/
def Solid (text : Text) : Prop := ∃ c ∈ text, isBlank c = false

theorem solid_iff {text : Text} : Solid text ↔ ¬ AllBlank text := by
  simp [Solid, AllBlank]

theorem trim_eq_nil_iff {text : Text} : trim text = [] ↔ AllBlank text := by
  constructor
  · intro nothing
    obtain ⟨back, whole, blank⟩ := exists_trim_append text
    rw [nothing, List.nil_append] at whole
    rw [whole]
    intro c member
    rcases List.mem_append.mp member with early | late
    · exact List.mem_takeWhile_imp early
    · exact blank c late
  · intro blank
    have start : trimStart text = [] := List.dropWhile_eq_nil_iff.mpr blank
    rw [trim, start]
    rfl

end QueryNav.Text

namespace QueryNav.Settings

open Text

/-- Dots with nothing but blanks behind them. -/
def Hollow (name : Text) : Prop :=
  ∃ dots blanks, name = dots ++ blanks ∧ dots ≠ [] ∧ (∀ c ∈ dots, c = '.') ∧ AllBlank blanks

/-- What every layout of a session has. -/
structure Named (layout : Project.Layout) : Prop where
  sourceDir : Solid layout.sourceDir
  undotted : layout.extension.head? ≠ some '.'

/-- What a layout takes from a section: no blank name, and an extension without the dots in front of it. -/
structure Adopts (layout : Project.Layout) (sect : Section) : Prop where
  blankDir : ∀ name, sect.sourceDir? = some name → AllBlank name →
    layout.sourceDir = Project.Layout.standard.sourceDir
  blankExtension : ∀ name, sect.extension? = some name → AllBlank name →
    layout.extension = Project.Layout.standard.extension
  stripped : ∀ name, sect.extension? = some name → Solid name →
    ∃ dots, name = dots ++ layout.extension ∧ ∀ c ∈ dots, c = '.'

theorem named_standard : Named Project.Layout.standard :=
  ⟨⟨'s', by decide, by decide⟩, by decide⟩

theorem solid_standard_extension : Solid Project.Layout.standard.extension := ⟨'e', by decide, by decide⟩

theorem named?_eq_some_iff {name? : Option Text} {name : Text} :
    named? name? = some name ↔ name? = some name ∧ Solid name := by
  rw [named?, Option.filter_eq_some_iff, decide_eq_true_eq, Ne, trim_eq_nil_iff, solid_iff]

theorem named?_of_allBlank {name : Text} (blank : AllBlank name) : named? (some name) = none := by
  rw [Option.eq_none_iff_forall_ne_some]
  intro other found
  obtain ⟨same, solid⟩ := named?_eq_some_iff.mp found
  cases same
  exact solid_iff.mp solid blank

theorem eq_dot_of_mem_takeWhile {name : Text} {c : Char} (member : c ∈ name.takeWhile (· = '.')) : c = '.' := by
  simpa using List.mem_takeWhile_imp member

theorem head?_dropWhile_dots (name : Text) : (name.dropWhile (· = '.')).head? ≠ some '.' := by
  intro first
  have failing := List.head?_dropWhile_not (fun c : Char => decide (c = '.')) name
  rw [first] at failing
  simp at failing

theorem named_ofSection (sect : Section) : Named (ofSection sect).layout := by
  constructor
  · cases found : named? sect.sourceDir? with
    | none => simpa only [ofSection, found, Option.getD_none] using named_standard.sourceDir
    | some name => simpa only [ofSection, found, Option.getD_some] using (named?_eq_some_iff.mp found).2
  · cases found : named? sect.extension? with
    | none => simpa only [ofSection, found, Option.map_none, Option.getD_none] using named_standard.undotted
    | some name => simpa only [ofSection, found, Option.map_some, Option.getD_some] using head?_dropWhile_dots name

theorem extension_ofSection {sect : Section} {name : Text} (given : sect.extension? = some name) (solid : Solid name) :
    (ofSection sect).layout.extension = name.dropWhile (· = '.') := by
  have found : named? sect.extension? = some name := named?_eq_some_iff.mpr ⟨given, solid⟩
  simp only [ofSection, found, Option.map_some, Option.getD_some]

theorem adopts_ofSection (sect : Section) : Adopts (ofSection sect).layout sect := by
  refine ⟨?_, ?_, ?_⟩
  · intro name given blank
    simp only [ofSection, given, named?_of_allBlank blank, Option.getD_none]
  · intro name given blank
    simp only [ofSection, given, named?_of_allBlank blank, Option.map_none, Option.getD_none]
  · intro name given solid
    refine ⟨name.takeWhile (· = '.'), ?_, fun c => eq_dot_of_mem_takeWhile⟩
    rw [extension_ofSection given solid, List.takeWhile_append_dropWhile]

/-- Of a name that is not blank, taking the dots away leaves only blanks exactly if nothing else was behind them. -/
theorem allBlank_dropWhile_dots_iff {name : Text} (solid : Solid name) :
    AllBlank (name.dropWhile (· = '.')) ↔ Hollow name := by
  constructor
  · intro blank
    have whole : name = name.takeWhile (· = '.') ++ name.dropWhile (· = '.') := List.takeWhile_append_dropWhile.symm
    refine ⟨_, _, whole, ?_, fun c => eq_dot_of_mem_takeWhile, blank⟩
    intro none
    rw [none, List.nil_append] at whole
    rw [← whole] at blank
    exact solid_iff.mp solid blank
  · intro hollow
    obtain ⟨dots, blanks, rfl, _, dotted, blank⟩ := hollow
    rw [List.dropWhile_append_of_pos (by simpa using dotted)]
    intro c member
    exact blank c ((List.dropWhile_sublist _).subset member)

theorem Hollow.solid {name : Text} (hollow : Hollow name) : Solid name := by
  obtain ⟨dots, blanks, rfl, nonempty, dotted, _⟩ := hollow
  obtain ⟨c, dots, rfl⟩ := List.exists_cons_of_ne_nil nonempty
  refine ⟨c, by simp, ?_⟩
  rw [dotted c (by simp)]
  decide

theorem solid_extension_iff (sect : Section) :
    Solid (ofSection sect).layout.extension ↔ ¬ ∃ name, sect.extension? = some name ∧ Hollow name := by
  cases found : named? sect.extension? with
  | none =>
    have standard : (ofSection sect).layout.extension = Project.Layout.standard.extension := by
      simp only [ofSection, found, Option.map_none, Option.getD_none]
    rw [standard]
    refine iff_of_true solid_standard_extension ?_
    intro given
    obtain ⟨name, same, hollow⟩ := given
    cases found.symm.trans (named?_eq_some_iff.mpr ⟨same, hollow.solid⟩)
  | some name =>
    obtain ⟨given, solid⟩ := named?_eq_some_iff.mp found
    rw [extension_ofSection given solid, solid_iff, allBlank_dropWhile_dots_iff solid, given]
    simp

end QueryNav.Settings

namespace QueryNav.Server

open Text Settings

theorem layout_run (disk : Disk) (messages : List Message) :
    (State.fresh.run disk messages).settings.layout =
      match (sectionsIn messages).getLast? with
      | some sect => (ofSection sect).layout
      | none => Project.Layout.standard := by
  rw [settings_run]
  cases (sectionsIn messages).getLast? <;> rfl

/-- Whatever the client has answered, the source folder has a name and the extension does not start with a dot. The
extension holds something besides blanks unless the last section has set it to dots with nothing but blanks behind
them. -/
theorem layout_usable_iff (disk : Disk) (messages : List Message) :
    Solid (State.fresh.run disk messages).settings.layout.sourceDir ∧
      (State.fresh.run disk messages).settings.layout.extension.head? ≠ some '.' ∧
      (Solid (State.fresh.run disk messages).settings.layout.extension ↔
        ¬ ∃ sect name, (sectionsIn messages).getLast? = some sect ∧ sect.extension? = some name ∧ Hollow name) ∧
      ∀ sect, (sectionsIn messages).getLast? = some sect →
        Adopts (State.fresh.run disk messages).settings.layout sect := by
  rw [layout_run]
  cases (sectionsIn messages).getLast? with
  | none =>
    refine ⟨named_standard.sourceDir, named_standard.undotted, iff_of_true solid_standard_extension ?_, ?_⟩
    · simp
    · simp
  | some sect =>
    have named := named_ofSection sect
    refine ⟨named.sourceDir, named.undotted, ?_, ?_⟩
    · rw [solid_extension_iff]
      simp
    · intro last same
      cases same
      exact adopts_ofSection sect

/-- A blank name for the source folder is not taken; of the dots in an extension only those in front are. -/
theorem layout_usable_iff_of_blank_name :
    let sect : Json := .record [("project",
      .record [("sourceDir", .ofString " \t"), ("fileExtension", .ofString ".. .x")])]
    let messages : List Message :=
      [.request .setup, .notification (.initialized (.record [])), .answer 0 (some (.arr [sect]))]
    let layout := (State.fresh.run .empty messages).settings.layout
    (sectionsIn messages).getLast? = some ⟨none, none, some " \t".toList, some ".. .x".toList⟩ ∧
      layout.sourceDir = "src".toList ∧ (∃ dots, ".. .x".toList = dots ++ layout.extension ∧ ∀ c ∈ dots, c = '.') ∧
      layout = ⟨"src".toList, " .x".toList⟩ := by
  intro sect messages layout
  have last : (sectionsIn messages).getLast? = some ⟨none, none, some " \t".toList, some ".. .x".toList⟩ := by
    decide +kernel
  obtain ⟨_, _, _, adopts⟩ := layout_usable_iff .empty messages
  obtain ⟨blankDir, _, stripped⟩ := adopts _ last
  have blank : AllBlank " \t".toList := trim_eq_nil_iff.mp (by decide)
  have solid : Solid ".. .x".toList := ⟨'x', by decide, by decide⟩
  exact ⟨last, blankDir _ rfl blank, stripped _ rfl solid, by decide +kernel⟩

/-- Dots alone are taken for the name of an extension and leave an empty one. -/
theorem dots_alone_leave_no_extension :
    let sect : Json := .record [("project", .record [("fileExtension", .ofString "...")])]
    let messages : List Message :=
      [.request .setup, .notification (.initialized (.record [])), .answer 0 (some (.arr [sect]))]
    (State.fresh.run .empty messages).settings.layout = ⟨"src".toList, []⟩ ∧
      ¬ ∀ disk messages, Solid (State.fresh.run disk messages).settings.layout.sourceDir ∧
        Solid (State.fresh.run disk messages).settings.layout.extension ∧
        (State.fresh.run disk messages).settings.layout.extension.head? ≠ some '.' := by
  intro sect messages
  have layout : (State.fresh.run .empty messages).settings.layout = ⟨"src".toList, []⟩ := by decide +kernel
  refine ⟨layout, ?_⟩
  intro usable
  obtain ⟨_, ⟨c, member, _⟩, _⟩ := usable .empty messages
  rw [layout] at member
  cases member

end QueryNav.Server
