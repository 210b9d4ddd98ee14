import Mathlib.Data.List.Nodup
import QueryNav.Proofs.UsableLayout

/-! The ways to write a section. Each of its four values is absent, null or given, and the section and each of its
groups are written as an object, among whatever fields have other names and in any order, or as an array. An array
goes by positions, so a value that is absent has to be written as null there if a later one is given; a group can be
left out, but it is never null. All these ways are read as the same settings, which the four values tell. Conversely,
settings with a source folder that is not blank and an extension that is not blank and does not start with a dot are
read back from their own four values. -/

namespace QueryNav.Section

open Json (optional?)

inductive Leaf (α : Type) where
  | absent
  | null
  | given (value : α)

def Leaf.value? {α : Type} : Leaf α → Option α
  | .given value => some value
  | _ => none

/-- The member of a group as which a leaf is written. -/
inductive Leaf.Writes {α : Type} (write : α → Json) : Leaf α → Option Json → Prop where
  | absent : Writes write .absent none
  | skipped : Writes write .absent (some .null)
  | null : Writes write .null (some .null)
  | given (value : α) : Writes write (.given value) (some (write value))

structure Leaves where
  imports : Leaf Bool
  enabled : Leaf Bool
  sourceDir : Leaf Text
  extension : Leaf Text

def Leaves.values (leaves : Leaves) : Section :=
  ⟨leaves.imports.value?, leaves.enabled.value?, leaves.sourceDir.value?, leaves.extension.value?⟩

def Leaves.ofSettings (settings : Settings) : Leaves :=
  ⟨.given settings.importCompletion, .given settings.definitionEnabled, .given settings.layout.sourceDir,
    .given settings.layout.extension⟩

inductive Shape where
  | object
  | array

/-- The fields of the members that are there. -/
def present (entries : List (String × Option Json)) : List (Text × Json) :=
  entries.filterMap fun entry => entry.2.map fun json => (entry.1.toList, json)

/-- Named members written as one value. An object holds those that are there, among fields with other names and in
any order; an array holds them in their order, and only those at its end may be left out. -/
inductive Spells (entries : List (String × Option Json)) : Shape → Json → Prop where
  | object {fields extra : List (Text × Json)}
      (unknown : ∀ field ∈ extra, ∀ entry ∈ entries, field.1 ≠ entry.1.toList)
      (mixed : fields.Perm (present entries ++ extra)) : Spells entries .object (.obj fields)
  | array {items : List Json} {missing : Nat}
      (leading : entries.map Prod.snd = items.map some ++ List.replicate missing none) :
      Spells entries .array (.arr items)

/-- A group as a member of the section: it may be left out only if nothing is in it. -/
inductive SpellsGroup (entries : List (String × Option Json)) (shape : Shape) : Option Json → Prop where
  | leftOut (nothing : ∀ entry ∈ entries, entry.2 = none) : SpellsGroup entries shape none
  | spelled {json : Json} (spells : Spells entries shape json) : SpellsGroup entries shape (some json)

structure Shapes where
  whole : Shape
  completion : Shape
  definition : Shape
  project : Shape

/-- A section with these leaves, written in these shapes. -/
inductive Written (leaves : Leaves) (shapes : Shapes) : Json → Prop where
  | parts {imports enabled sourceDir extension completion definition project : Option Json} {json : Json}
      (importsWritten : leaves.imports.Writes .bool imports)
      (enabledWritten : leaves.enabled.Writes .bool enabled)
      (sourceDirWritten : leaves.sourceDir.Writes .str sourceDir)
      (extensionWritten : leaves.extension.Writes .str extension)
      (completionSpelled : SpellsGroup [("imports", imports)] shapes.completion completion)
      (definitionSpelled : SpellsGroup [("enabled", enabled)] shapes.definition definition)
      (projectSpelled : SpellsGroup [("sourceDir", sourceDir), ("fileExtension", extension)] shapes.project project)
      (spelled : Spells [("completion", completion), ("definition", definition), ("project", project)]
        shapes.whole json) : Written leaves shapes json

theorem member?_eq_of_only {fields : List (Text × Json)} {name : String} {found : Option Json}
    (only : ∀ field ∈ fields, field.1 = name.toList → found = some field.2)
    (listed : ∀ json, found = some json → (name.toList, json) ∈ fields) : Json.member? fields name = found := by
  cases search : Json.member? fields name with
  | none =>
    cases found with
    | none => rfl
    | some json =>
      have absent := List.lookup_eq_none_iff.mp search _ (List.mem_reverse.mpr (listed json rfl))
      simp at absent
  | some json =>
    obtain ⟨front, back, whole, _⟩ := List.lookup_eq_some_iff.mp search
    have inside : (name.toList, json) ∈ fields := List.mem_reverse.mp (whole ▸ by simp)
    exact (only _ inside rfl).symm

theorem mem_present_iff {entries : List (String × Option Json)} {field : Text × Json} :
    field ∈ present entries ↔ ∃ entry ∈ entries, entry.1.toList = field.1 ∧ entry.2 = some field.2 := by
  obtain ⟨name, json⟩ := field
  simp only [present, List.mem_filterMap, Option.map_eq_some_iff, Prod.mk.injEq]
  constructor
  · intro found
    obtain ⟨entry, member, value, given, same, rfl⟩ := found
    exact ⟨entry, member, same, given⟩
  · intro found
    obtain ⟨entry, member, same, given⟩ := found
    exact ⟨entry, member, json, given, same, rfl⟩

theorem members?_of_spells {entries : List (String × Option Json)} {shape : Shape} {json : Json}
    (distinct : (entries.map Prod.fst).Nodup) (spells : Spells entries shape json) :
    json.members? 0 (entries.map Prod.fst) = some (entries.map Prod.snd) := by
  cases spells with
  | object unknown mixed =>
    rw [Json.members?, List.map_map, Option.some.injEq]
    apply List.map_congr_left
    intro entry member
    apply member?_eq_of_only
    · intro field inside same
      rcases List.mem_append.mp (mixed.mem_iff.mp inside) with known | strange
      · obtain ⟨other, listed, named, given⟩ := mem_present_iff.mp known
        have equal : other = entry :=
          List.inj_on_of_nodup_map distinct listed member (String.toList_injective (named.trans same))
        rw [← equal, given]
      · exact absurd same (unknown field strange entry member)
    · intro value given
      exact mixed.mem_iff.mpr (List.mem_append_left _ (mem_present_iff.mpr ⟨entry, member, rfl, given⟩))
  | @array items missing leading =>
    have count : entries.length = items.length + missing := by simpa using congrArg List.length leading
    rw [Json.members?, if_pos (by simp [count]), Option.some.injEq, leading]
    apply List.ext_getElem?
    intro i
    rcases Nat.lt_or_ge i items.length with early | late
    · have inside : i < entries.length := by omega
      simp [List.getElem?_append_left, early, inside]
    · rw [List.getElem?_append_right (by simpa using late)]
      rcases Nat.lt_or_ge i entries.length with inside | outside
      · have left : i - items.length < missing := by omega
        simp [late, inside, left]
      · have right : missing ≤ i - items.length := by omega
        simp [outside, right]

theorem optional?_of_writes {α : Type} {write : α → Json} {read? : Json → Option α} {leaf : Leaf α}
    {member : Option Json} (writes : leaf.Writes write member) (reads : ∀ value, read? (write value) = some value)
    (solid : ∀ value, write value ≠ .null) : optional? read? member = some leaf.value? := by
  cases writes with
  | absent => rfl
  | skipped => rfl
  | null => rfl
  | given value =>
    rw [optional?, reads]
    · rfl
    · exact solid value

theorem flag?_of_writes {leaf : Leaf Bool} {member : Option Json} (writes : leaf.Writes .bool member) :
    optional? flag? member = some leaf.value? :=
  optional?_of_writes writes (fun _ => rfl) (fun _ => by simp)

theorem text?_of_writes {leaf : Leaf Text} {member : Option Json} (writes : leaf.Writes .str member) :
    optional? Json.text? member = some leaf.value? :=
  optional?_of_writes writes (fun _ => rfl) (fun _ => by simp)

theorem single?_of_spells {name : String} {leaf : Leaf Bool} {member group : Option Json} {shape : Shape}
    (writes : leaf.Writes .bool member) (spells : SpellsGroup [(name, member)] shape group) :
    single? name group = some leaf.value? := by
  have value := flag?_of_writes writes
  cases spells with
  | leftOut nothing =>
    obtain rfl : member = none := nothing (name, member) (by simp)
    exact value
  | spelled spells =>
    have found : Json.members? 0 [name] _ = some [member] := members?_of_spells (by simp) spells
    rw [single?, found]
    exact value

theorem project?_of_spells {sourceDir extension : Leaf Text} {first second group : Option Json} {shape : Shape}
    (writes : sourceDir.Writes .str first) (also : extension.Writes .str second)
    (spells : SpellsGroup [("sourceDir", first), ("fileExtension", second)] shape group) :
    project? group = some (sourceDir.value?, extension.value?) := by
  have folder := text?_of_writes writes
  have ending := text?_of_writes also
  cases spells with
  | leftOut nothing =>
    obtain rfl : first = none := nothing ("sourceDir", first) (by simp)
    obtain rfl : second = none := nothing ("fileExtension", second) (by simp)
    rw [← Option.some.inj folder, ← Option.some.inj ending]
    rfl
  | spelled spells =>
    have found : Json.members? 0 ["sourceDir", "fileExtension"] _ = some [first, second] :=
      members?_of_spells (by simp) spells
    simp only [project?, found, folder, ending, Option.bind_eq_bind, Option.bind_some]

theorem ofJson?_of_written {leaves : Leaves} {shapes : Shapes} {json : Json} (written : Written leaves shapes json) :
    ofJson? json = some leaves.values := by
  cases written with
  | @parts imports enabled sourceDir extension completion definition project _ importsWritten enabledWritten
      sourceDirWritten extensionWritten completionSpelled definitionSpelled projectSpelled spelled =>
    have found : json.members? 0 ["completion", "definition", "project"] = some [completion, definition, project] :=
      members?_of_spells (by simp) spelled
    simp only [ofJson?, found, single?_of_spells importsWritten completionSpelled,
      single?_of_spells enabledWritten definitionSpelled,
      project?_of_spells sourceDirWritten extensionWritten projectSpelled, Option.bind_eq_bind, Option.bind_some]
    rfl

theorem Leaf.exists_writes {α : Type} (write : α → Json) (leaf : Leaf α) :
    ∃ json, leaf.Writes write (some json) := by
  cases leaf with
  | absent => exact ⟨_, .skipped⟩
  | null => exact ⟨_, .null⟩
  | given value => exact ⟨_, .given value⟩

theorem exists_spells (fields : List (String × Json)) (shape : Shape) :
    ∃ json, Spells (fields.map fun field => (field.1, some field.2)) shape json := by
  cases shape with
  | object => exact ⟨_, @Spells.object _ _ [] (by simp) (List.Perm.refl _)⟩
  | array => exact ⟨_, @Spells.array _ (fields.map Prod.snd) 0 (by simp)⟩

theorem exists_written (leaves : Leaves) (shapes : Shapes) : ∃ json, Written leaves shapes json := by
  obtain ⟨imports, importsWritten⟩ := leaves.imports.exists_writes .bool
  obtain ⟨enabled, enabledWritten⟩ := leaves.enabled.exists_writes .bool
  obtain ⟨sourceDir, sourceDirWritten⟩ := leaves.sourceDir.exists_writes .str
  obtain ⟨extension, extensionWritten⟩ := leaves.extension.exists_writes .str
  obtain ⟨completion, completionSpelled⟩ := exists_spells [("imports", imports)] shapes.completion
  obtain ⟨definition, definitionSpelled⟩ := exists_spells [("enabled", enabled)] shapes.definition
  obtain ⟨project, projectSpelled⟩ :=
    exists_spells [("sourceDir", sourceDir), ("fileExtension", extension)] shapes.project
  obtain ⟨json, spelled⟩ :=
    exists_spells [("completion", completion), ("definition", definition), ("project", project)] shapes.whole
  exact ⟨json, .parts importsWritten enabledWritten sourceDirWritten extensionWritten (.spelled completionSpelled)
    (.spelled definitionSpelled) (.spelled projectSpelled) spelled⟩

end QueryNav.Section

namespace QueryNav.Settings

open Text Section

theorem ofSection_of_named (imports enabled : Bool) {layout : Project.Layout} (folder : Solid layout.sourceDir)
    (ending : Solid layout.extension) (undotted : layout.extension.head? ≠ some '.') :
    ofSection ⟨some imports, some enabled, some layout.sourceDir, some layout.extension⟩ =
      ⟨imports, enabled, layout⟩ := by
  have sourceDir : named? (some layout.sourceDir) = some layout.sourceDir := named?_eq_some_iff.mpr ⟨rfl, folder⟩
  have extension : named? (some layout.extension) = some layout.extension := named?_eq_some_iff.mpr ⟨rfl, ending⟩
  have kept : layout.extension.dropWhile (· = '.') = layout.extension := by
    cases first : layout.extension with
    | nil => rfl
    | cons c rest =>
      have other : c ≠ '.' := by simpa [first] using undotted
      simp [other]
  simp only [ofSection, sourceDir, extension, Option.getD_some, Option.map_some, kept]

/-- Every choice of leaves can be written in every choice of shapes, and all that is written for one choice of
leaves is read as the same settings. Settings with a usable layout are read back from their own values, with the
completer and the finder that these values describe. -/
theorem settings_read_back :
    (∀ leaves shapes, ∃ json, Written leaves shapes json) ∧
      (∀ leaves shapes json, Written leaves shapes json →
        (Section.ofJson? json).map ofSection = some (ofSection leaves.values)) ∧
      ∀ settings : Settings, Solid settings.layout.sourceDir → Solid settings.layout.extension →
        settings.layout.extension.head? ≠ some '.' →
        ∀ shapes json, Written (.ofSettings settings) shapes json →
          ∃ read, (Section.ofJson? json).map ofSection = some read ∧ read = settings ∧
            read.completer = ⟨settings.importCompletion⟩ ∧
            read.finder = ⟨⟨settings.layout.sourceDir, settings.layout.extension⟩⟩ := by
  refine ⟨exists_written, ?_, ?_⟩
  · intro leaves shapes json written
    rw [ofJson?_of_written written, Option.map_some]
  · intro settings folder ending undotted shapes json written
    refine ⟨settings, ?_, rfl, rfl, rfl⟩
    rw [ofJson?_of_written written, Option.map_some]
    exact congrArg some (ofSection_of_named _ _ folder ending undotted)

/-- A section as an array, with a group that is empty, an unknown name in front of a known one, and a null that only
keeps a place; and the settings that are read, written as objects in another order. -/
theorem settings_read_back_from_mixed_shapes :
    let json : Json := .arr [.record [("speed", .null), ("imports", .bool false)], .arr [],
      .arr [.null, .ofString ".x"]]
    let settings : Settings := ⟨false, true, ⟨"src".toList, "x".toList⟩⟩
    let other : Json := .record [("completion", .arr [.bool false]),
      ("project", .record [("fileExtension", .ofString "x"), ("sourceDir", .ofString "src")]),
      ("definition", .record [("enabled", .bool true)])]
    Written ⟨.given false, .absent, .absent, .given ".x".toList⟩ ⟨.array, .object, .array, .array⟩ json ∧
      (Section.ofJson? json).map ofSection = some settings ∧
      Written (.ofSettings settings) ⟨.object, .array, .object, .object⟩ other ∧
      (Section.ofJson? other).map ofSection = some settings ∧ settings.completer = ⟨false⟩ ∧
      settings.finder = ⟨⟨"src".toList, "x".toList⟩⟩ := by
  intro json settings other
  obtain ⟨_, told, back⟩ := settings_read_back
  have written : Written ⟨.given false, .absent, .absent, .given ".x".toList⟩
      ⟨.array, .object, .array, .array⟩ json := by
    refine .parts (.given _) .absent .skipped (.given _)
      (.spelled (@Spells.object _ _ [("speed".toList, .null)] (by decide) (List.Perm.swap _ _ _)))
      (.spelled (@Spells.array _ [] 1 rfl)) (.spelled (@Spells.array _ _ 0 rfl)) (@Spells.array _ _ 0 rfl)
  have also : Written (.ofSettings settings) ⟨.object, .array, .object, .object⟩ other := by
    refine .parts (.given _) (.given _) (.given _) (.given _) (.spelled (@Spells.array _ [.bool false] 0 rfl))
      (.spelled (@Spells.object _ _ [] (by simp) (List.Perm.refl _)))
      (.spelled (@Spells.object _ _ [] (by simp) (List.Perm.swap _ _ _))) ?_
    exact @Spells.object _ _ [] (by simp) (.cons _ (List.Perm.swap _ _ _))
  have folder : Solid "src".toList := ⟨'s', by decide, by decide⟩
  have ending : Solid "x".toList := ⟨'x', by decide, by decide⟩
  obtain ⟨read, found, rfl, completer, finder⟩ := back settings folder ending (by decide) _ other also
  exact ⟨written, (told _ _ json written).trans (by decide), also, found, completer, finder⟩

end QueryNav.Settings
