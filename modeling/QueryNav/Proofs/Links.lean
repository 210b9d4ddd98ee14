import QueryNav.Navigation
import QueryNav.Proofs.Addresses
import QueryNav.Proofs.ByteOffsets
import QueryNav.Proofs.Containment
import QueryNav.Proofs.Locality
import QueryNav.Proofs.Places
import QueryNav.Server.Reply

/-! The links of the editor. A link is there exactly if there is something to link: an import on the cursor's
line, a source folder above the document and the module's file in it; the address of the document and of the
file cannot fail on the way. A clause knows its path by bytes, the editor by UTF-16 units, and the buffer by
characters. All three count the text in front of the path on the same line, so that the columns of a link, read
as places in the buffer, select the path. -/

namespace QueryNav.Buffer

open Text

theorem exists_row {text line : Text} {number : Nat} (found : (Buffer.lines text)[number]? = some line) :
    ∃ row mark, (rows text)[number]? = some row ∧ row = line ++ mark := by
  rw [Buffer.lines, List.getElem?_map, Option.map_eq_some_iff] at found
  obtain ⟨row, listed, rfl⟩ := found
  obtain ⟨mark, whole, _⟩ := trimEndWhile_append isBreak row
  exact ⟨row, mark, listed, whole⟩

theorem offset_width16 {text row : Text} {number : Nat} (found : (rows text)[number]? = some row) {front back : Text}
    (cut : row = front ++ back) : offset text ⟨number, width16 front⟩ = lineStart text number + front.length := by
  have fits := charsBefore_width16 row front.length (by simp [cut])
  rw [cut, List.take_left] at fits
  rw [offset_of_row found, cut, fits]

theorem select_between {text front middle back : Text} {number : Nat}
    (found : (Buffer.lines text)[number]? = some (front ++ (middle ++ back))) :
    (text.take (offset text ⟨number, width16 (front ++ middle)⟩)).drop (offset text ⟨number, width16 front⟩) =
      middle := by
  obtain ⟨row, mark, listed, whole⟩ := exists_row found
  have first : row = front ++ (middle ++ (back ++ mark)) := by simp [whole]
  have last : row = (front ++ middle) ++ (back ++ mark) := by simp [whole]
  rw [offset_width16 listed first, offset_width16 listed last, drop_take_row listed (by simp [last]), last,
    List.take_left, List.drop_left]

end QueryNav.Buffer

namespace QueryNav.Path

theorem isAbsolute_parent? {path parent : Path} (absolute : path.isAbsolute = true)
    (found : path.parent? = some parent) : parent.isAbsolute = true := by
  obtain ⟨text⟩ := path
  obtain ⟨rest, rfl⟩ := isAbsolute_iff.mp absolute
  have front : (Path.mk ('/' :: rest)).lead = ['/'] := rfl
  simp only [parent?, front] at found
  split at found
  · simp at found
  · cases found
    rfl

theorem isAbsolute_join {left : Path} (absolute : left.isAbsolute = true) (right : Path) :
    (left.join right).isAbsolute = true := by
  obtain ⟨rest, text⟩ := isAbsolute_iff.mp absolute
  unfold join
  split
  next replaced => exact replaced
  next => split <;> simp [isAbsolute, text]

end QueryNav.Path

namespace QueryNav.Project

theorem isAbsolute_sourceRoot? {disk : Disk} {start root : Path} {sourceDir : Text} (absolute : start.isAbsolute = true)
    (found : sourceRoot? disk start sourceDir = some root) : root.isAbsolute = true := by
  fun_induction sourceRoot? disk start sourceDir with
  | case1 start parent above inside =>
    cases found
    exact Path.isAbsolute_join absolute _
  | case2 start parent above outside ih => exact ih (Path.isAbsolute_parent? absolute above) found
  | case3 => cases found

/-- There is a link exactly if all that it needs is there, and it leads from the clause to the file. -/
theorem resolve?_eq_some_iff {disk : Disk} {layout : Layout} {document : Path} {number : Nat} {text : Text}
    {link : Link} :
    resolve? disk layout document number text = some link ↔
      ∃ clause folder root, Header.clause? text = some clause ∧ document.parent? = some folder ∧
        sourceRoot? disk folder layout.sourceDir = some root ∧
        disk.isFile (root.join (moduleFile clause.path layout.extension)) = true ∧
        link = ⟨number, clause.start, clause.stop, root.join (moduleFile clause.path layout.extension)⟩ := by
  simp only [resolve?, Option.bind_eq_bind, Option.bind_eq_some_iff, Option.ite_none_right_eq_some, Option.some.injEq]
  constructor
  · intro found
    obtain ⟨clause, named, folder, above, root, source, there, rfl⟩ := found
    exact ⟨clause, folder, root, named, above, source, there, rfl⟩
  · intro found
    obtain ⟨clause, folder, root, named, above, source, there, rfl⟩ := found
    exact ⟨clause, named, folder, above, root, source, there, rfl⟩

end QueryNav.Project

namespace QueryNav.Header

open Text

theorem clause?_columns {line : Text} {clause : Clause} (found : clause? line = some clause)
    (small : width16 line < columnLimit) :
    ∃ front back, line = front ++ (clause.path ++ back) ∧ column16 line clause.start = width16 front ∧
      column16 line clause.stop = width16 (front ++ clause.path) := by
  obtain ⟨before, gap, rest, stands⟩ := clause?_eq_some_iff.mp found
  have cut : line = (before ++ (importWord ++ gap)) ++ (clause.path ++ rest) := by simp [stands.whole]
  have start := stands.start
  generalize before ++ (importWord ++ gap) = front at cut start
  have whole : line = (front ++ clause.path) ++ rest := by rw [cut, List.append_assoc]
  have stop : clause.stop = width8 (front ++ clause.path) := by rw [Clause.stop, start, width8_append]
  refine ⟨front, rest, cut, ?_, ?_⟩
  · rw [start, column16_width8 small ⟨_, cut.symm⟩]
  · rw [stop, column16_width8 small ⟨_, whole.symm⟩]

end QueryNav.Header

namespace QueryNav.Navigation

open Text

/-- All that a link on line `number` needs: the line, an import clause on it, a source folder above the
document, and the module's file there. -/
structure Leads (disk : Disk) (layout : Project.Layout) (document : Path) (text : Text) (number : Nat) (line : Text)
    (clause : Header.Clause) (root target : Path) : Prop where
  listed : (Buffer.lines text)[number]? = some line
  named : Header.clause? line = some clause
  source : ∃ folder, document.parent? = some folder ∧ Project.sourceRoot? disk folder layout.sourceDir = some root
  joined : target = root.join (Project.moduleFile clause.path layout.extension)
  there : disk.isFile target = true

section Link

variable {disk : Disk} {layout : Project.Layout} {document : Path} {text : Text}

section Leads

variable {number : Nat} {line : Text} {clause : Header.Clause} {root target : Path}
  (leads : Leads disk layout document text number line clause root target)

include leads

theorem Leads.exists_address (absolute : document.isAbsolute = true) :
    ∃ address path, Uri.ofPath? target = some address ∧ address.toPath? = some path ∧
      path.components = target.components := by
  obtain ⟨folder, above, source⟩ := leads.source
  have rooted := Project.isAbsolute_sourceRoot? (Path.isAbsolute_parent? absolute above) source
  have top : target.isAbsolute = true := by
    rw [leads.joined]
    exact Path.isAbsolute_join rooted _
  obtain ⟨address, given, back⟩ := Uri.ofPath?_of_isAbsolute top
  exact ⟨address, _, given, back, Path.components_pathOf_names top⟩

/-- The columns of the clause, as places in the buffer, select its path. -/
theorem Leads.selects (small : width16 line < columnLimit) :
    column16 line clause.start < column16 line clause.stop ∧
      (text.take (Buffer.offset text ⟨number, column16 line clause.stop⟩)).drop
        (Buffer.offset text ⟨number, column16 line clause.start⟩) = clause.path := by
  obtain ⟨front, back, cut, first, last⟩ := Header.clause?_columns leads.named small
  have found : (Buffer.lines text)[number]? = some (front ++ (clause.path ++ back)) := by rw [← cut, leads.listed]
  have positive := width16_pos (Project.clause_path_ne_nil leads.named)
  rw [first, last]
  refine ⟨?_, Buffer.select_between found⟩
  rw [width16_append]
  omega

end Leads

theorem at?_eq_some_iff {uri : Uri} (located : uri.toPath? = some document) {cursor : Position} {link : Navigation} :
    at? disk layout uri text cursor = some link ↔
      ∃ line clause root target address, Leads disk layout document text cursor.line line clause root target ∧
        Uri.ofPath? target = some address ∧
        link = ⟨cursor.line, column16 line clause.start, column16 line clause.stop, address⟩ := by
  simp only [at?, Option.bind_eq_bind, Option.bind_eq_some_iff, Project.definition?, Project.resolve?_eq_some_iff,
    Option.some.injEq]
  constructor
  · intro found
    obtain ⟨path, known, _, ⟨line, listed, clause, folder, root, named, above, source, there, rfl⟩, same, again,
      address, given, rfl⟩ := found
    cases known.symm.trans located
    cases again.symm.trans listed
    exact ⟨line, clause, root, _, address, ⟨listed, named, ⟨folder, above, source⟩, rfl, there⟩, given, rfl⟩
  · intro found
    obtain ⟨line, clause, root, target, address, leads, given, rfl⟩ := found
    obtain ⟨listed, named, ⟨folder, above, source⟩, rfl, there⟩ := leads
    exact ⟨document, located, _, ⟨line, listed, clause, folder, root, named, above, source, there, rfl⟩, line, listed,
      address, given, rfl⟩

end Link

/-- There is a link on the cursor's line exactly if there is an import on it, a source folder above the document,
and the module's file in it. It is then the only one; its range is on this line and selects the path of the
import, and its address is that of the file, which it leads to the start of. -/
theorem link_selects_import_path (disk : Disk) (layout : Project.Layout) (uri : Uri) (document : Path)
    (located : uri.toPath? = some document) (text : Text) (cursor : Position) :
    ((at? disk layout uri text cursor).isSome ↔
        ∃ line clause root target, Leads disk layout document text cursor.line line clause root target) ∧
      ∀ link, at? disk layout uri text cursor = some link →
        ∃ line clause root target, Leads disk layout document text cursor.line line clause root target ∧
          (width16 line < columnLimit → link.first < link.last ∧
            (text.take (Buffer.offset text ⟨cursor.line, link.last⟩)).drop
              (Buffer.offset text ⟨cursor.line, link.first⟩) = clause.path) ∧
          Uri.ofPath? target = some link.target ∧
          (∃ path, link.target.toPath? = some path ∧ path.components = target.components) ∧
          Server.linksJson (some link) = .arr [.record
            [("originSelectionRange", Server.rangeJson ⟨cursor.line, link.first⟩ ⟨cursor.line, link.last⟩),
              ("targetUri", .str link.target.text), ("targetRange", Server.rangeJson ⟨0, 0⟩ ⟨0, 0⟩),
              ("targetSelectionRange", Server.rangeJson ⟨0, 0⟩ ⟨0, 0⟩)]] := by
  have absolute := Uri.isAbsolute_toPath? located
  constructor
  · rw [Option.isSome_iff_exists]
    constructor
    · intro found
      obtain ⟨link, shown⟩ := found
      obtain ⟨line, clause, root, target, _, leads, _⟩ := (at?_eq_some_iff located).mp shown
      exact ⟨line, clause, root, target, leads⟩
    · intro found
      obtain ⟨line, clause, root, target, leads⟩ := found
      obtain ⟨address, _, given, _⟩ := leads.exists_address absolute
      exact ⟨_, (at?_eq_some_iff located).mpr ⟨line, clause, root, target, address, leads, given, rfl⟩⟩
  · intro link shown
    obtain ⟨line, clause, root, target, address, leads, given, rfl⟩ := (at?_eq_some_iff located).mp shown
    obtain ⟨known, path, found, back, same⟩ := leads.exists_address absolute
    cases found.symm.trans given
    exact ⟨line, clause, root, target, leads, leads.selects, given, ⟨path, back, same⟩, rfl⟩

/-- A document whose address is encoded, and a line behind a break of two characters with an import behind
characters of two to four bytes: the path starts at byte 17, in column 14 and at character 16 of the text. -/
theorem link_selects_import_path_behind_wide_characters :
    let disk := Disk.empty.addFile ["p".toList, "src".toList, "a".toList, "b.ezsql".toList] .empty
    let uri : Uri := ⟨"file".toList, some (.ofHost (.name [])), .segments ["p".toList, "q%20r".toList, "m".toList],
      none, none⟩
    let document : Path := ⟨"/p/q r/m".toList⟩
    let text : Text := "x\r\n-- 😀é import a.b as c\r".toList
    let target : Uri := ⟨"file".toList, some (.ofHost (.name [])),
      .segments ["p".toList, "src".toList, "a".toList, "b.ezsql".toList], none, none⟩
    uri.toPath? = some document ∧ at? disk .standard uri text ⟨1, 99⟩ = some ⟨1, 14, 17, target⟩ ∧
      ∃ line clause root file, Leads disk .standard document text 1 line clause root file ∧
        (text.take (Buffer.offset text ⟨1, 17⟩)).drop (Buffer.offset text ⟨1, 14⟩) = clause.path := by
  intro disk uri document text target
  have located : uri.toPath? = some document := by decide +kernel
  have shown : at? disk .standard uri text ⟨1, 99⟩ = some ⟨1, 14, 17, target⟩ := by decide +kernel
  obtain ⟨line, clause, root, file, leads, selects, _⟩ :=
    (link_selects_import_path disk .standard uri document located text ⟨1, 99⟩).2 _ shown
  have small : width16 line < columnLimit := by
    have listed : (Buffer.lines text)[1]? = some "-- 😀é import a.b as c".toList := by decide
    cases leads.listed.symm.trans listed
    decide
  exact ⟨located, shown, line, clause, root, file, leads, (selects small).2⟩

end QueryNav.Navigation
