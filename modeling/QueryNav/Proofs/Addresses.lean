import QueryNav.Proofs.Components
import QueryNav.Proofs.Grammar
import QueryNav.Uri.File

/-! Addresses of files. Every absolute path has an address, and reading the address gives the path again,
without the pieces that mean nothing. A name is percent-encoded byte by byte and comes back whole, since the
percent sign is always encoded; no byte of another character is a separator, so that the names are found again
where they were put together. -/

namespace QueryNav.Text

theorem glue_cons {α : Type} (separator : α) (piece : List α) (others : List (List α)) :
    glue separator (piece :: others) = piece ++ others.flatMap fun other => separator :: other := by
  induction others generalizing piece with
  | nil => simp [glue]
  | cons other others ih => rw [glue, ih, List.flatMap_cons, List.cons_append]

end QueryNav.Text

namespace QueryNav.Uri

open Text QueryNav.Path
open Header (bytes)

private theorem hexValue?_hexUpper {value : Nat} (small : value < 16) : hexValue? (hexUpper value) = some value := by
  have digits : ∀ digit : Fin 16, hexValue? (hexUpper digit) = some digit.val := by decide
  exact digits ⟨value, small⟩

theorem decode_encodeByte (byte : UInt8) (rest : Text) : decode (encodeByte byte ++ rest) = byte :: decode rest := by
  have high : byte.toNat / 16 < 16 := by have := byte.toNat_lt; omega
  have low : byte.toNat % 16 < 16 := by omega
  have whole : (byte.toNat / 16 * 16 + byte.toNat % 16).toUInt8 = byte := by
    rw [Nat.div_add_mod']
    exact UInt8.ofNat_toNat
  simp only [encodeByte, List.cons_append, List.nil_append, decode, byteOf?, hexValue?_hexUpper high,
    hexValue?_hexUpper low, Option.bind_eq_bind, Option.bind_some, whole]

theorem decode_encodeBytes (bytes : List UInt8) (rest : Text) :
    decode (bytes.flatMap encodeByte ++ rest) = bytes ++ decode rest := by
  induction bytes with
  | nil => rfl
  | cons byte bytes ih => rw [List.flatMap_cons, List.append_assoc, decode_encodeByte, ih, List.cons_append]

theorem decode_cons {c : Char} (plain : c ≠ '%') (rest : Text) :
    decode (c :: rest) = String.utf8EncodeChar c ++ decode rest := by
  rw [decode]
  intro high low behind percent
  exact absurd percent plain

theorem decode_encode {encoded : Char → Bool} (percent : encoded '%' = true) (text : Text) :
    decode (encode encoded text) = bytes text := by
  induction text with
  | nil => rfl
  | cons c text ih =>
    have split : encode encoded (c :: text) =
        (if encoded c then (String.utf8EncodeChar c).flatMap encodeByte else [c]) ++ encode encoded text := rfl
    rw [split, Header.bytes_cons]
    split
    · rw [decode_encodeBytes, ih]
    next unlike =>
      have plain : c ≠ '%' := by rintro rfl; exact unlike percent
      rw [List.singleton_append, decode_cons plain, ih]

theorem nameOf_bytes (text : Text) : nameOf (bytes text) = text := by
  simp only [nameOf, Header.fromUTF8?_bytes, String.toList_ofList]

private theorem large_of_mem_encodeChar {c : Char} (wide : 127 < c.val.toNat) :
    ∀ byte ∈ String.utf8EncodeChar c, 128 ≤ byte.toNat := by
  simp only [String.utf8EncodeChar, if_neg (Nat.not_le.mpr wide)]
  repeat' split
  all_goals
    simp only [List.mem_cons, List.not_mem_nil, forall_eq_or_imp, false_imp_iff, implies_true, and_true,
      UInt8.toNat_ofNat']
    omega

theorem ascii_not_mem_encodeChar {letter c : Char} (small : letter.val.toNat ≤ 127) (other : c ≠ letter) :
    letter.toUInt8 ∉ String.utf8EncodeChar c := by
  intro member
  have byte : letter.toUInt8.toNat = letter.val.toNat % 2 ^ 8 := UInt32.toNat_toUInt8 letter.val
  by_cases wide : 127 < c.val.toNat
  · have large := large_of_mem_encodeChar wide _ member
    omega
  · simp only [String.utf8EncodeChar, if_pos (Nat.le_of_not_lt wide), List.mem_singleton] at member
    rw [member, UInt8.toNat_ofNat'] at byte
    have same : c.val.toNat = letter.val.toNat := by omega
    exact other (Char.ext (UInt32.toNat_inj.mp same))

theorem separator_not_mem_bytes {text : Text} (clean : '/' ∉ text) : '/'.toUInt8 ∉ bytes text := by
  intro member
  obtain ⟨c, inside, found⟩ := List.mem_flatMap.mp member
  have other : c ≠ '/' := fun same => clean (same ▸ inside)
  exact ascii_not_mem_encodeChar (by decide) other found

end QueryNav.Uri

namespace QueryNav.Path

open Text

theorem isAbsolute_iff {path : Path} : path.isAbsolute = true ↔ ∃ rest, path.text = '/' :: rest := by
  rw [isAbsolute, decide_eq_true_iff, List.head?_eq_some_iff]

/-- The names and upward steps of a path, as they are written. -/
def names (path : Path) : List Text := path.body.filter fun piece => !isFiller piece

theorem components_of_isAbsolute {path : Path} (absolute : path.isAbsolute = true) :
    path.components = .root :: path.names.map componentOf := by
  obtain ⟨text⟩ := path
  obtain ⟨rest, rfl⟩ := isAbsolute_iff.mp absolute
  rfl

theorem separator_not_mem_names {path : Path} {name : Text} (member : name ∈ path.names) : '/' ∉ name :=
  not_mem_of_mem_pieces (List.mem_filter.mp member).1

theorem names_pathOf {names : List Text} (clean : ∀ name ∈ names, '/' ∉ name)
    (solid : ∀ name ∈ names, isFiller name = false) : (Disk.pathOf names).names = names := by
  have parts : (Disk.pathOf names).body = pieces '/' (glue '/' names) := rfl
  rw [Path.names, parts]
  by_cases empty : names = []
  · subst empty
    rfl
  · rw [pieces_glue empty clean]
    apply List.filter_eq_self.mpr
    intro name member
    simp [solid name member]

theorem isAbsolute_pathOf (names : List Text) : (Disk.pathOf names).isAbsolute = true := rfl

theorem components_pathOf_names {path : Path} (absolute : path.isAbsolute = true) :
    (Disk.pathOf path.names).components = path.components := by
  have solid : ∀ name ∈ path.names, isFiller name = false := by
    intro name member
    simpa using (List.mem_filter.mp member).2
  rw [components_of_isAbsolute (isAbsolute_pathOf _), components_of_isAbsolute absolute,
    names_pathOf (fun _ member => separator_not_mem_names member) solid]

end QueryNav.Path

namespace QueryNav.Uri

open Text QueryNav.Path
open Header (bytes)

theorem decode_segmentOf (piece : Text) : decode (segmentOf (componentOf piece)) = bytes piece := by
  unfold componentOf
  split
  next upward =>
    subst upward
    decide
  next => exact decode_encode (by decide) piece

private theorem nameOf_nil : nameOf [] = [] := nameOf_bytes []

theorem isAbsolute_toPath? {uri : Uri} {path : Path} (found : uri.toPath? = some path) : path.isAbsolute = true := by
  unfold toPath? at found
  split at found
  next name names route =>
    split at found
    · cases found
      obtain ⟨piece, others, cut⟩ := List.exists_cons_of_ne_nil (pieces_ne_nil '/'.toUInt8
        (decode name ++ names.flatMap fun segment => '/'.toUInt8 :: decode segment))
      rw [List.flatMap_cons, List.cons_append, pieces_separator, cut, List.map_cons, nameOf_nil]
      rfl
    · cases found
  · cases found

private theorem pieces_segments {names : List Text} (clean : ∀ name ∈ names, '/' ∉ name) :
    pieces '/'.toUInt8 ((names.map (segmentOf ∘ componentOf)).flatMap fun segment => '/'.toUInt8 :: decode segment) =
      [] :: names.map bytes := by
  have glued : ((names.map (segmentOf ∘ componentOf)).flatMap fun segment => '/'.toUInt8 :: decode segment) =
      glue '/'.toUInt8 ([] :: names.map bytes) := by
    rw [glue_cons, List.nil_append, List.flatMap_map, List.flatMap_map]
    simp only [Function.comp, decode_segmentOf]
  rw [glued, pieces_glue (List.cons_ne_nil _ _)]
  intro part member
  rcases List.mem_cons.mp member with rfl | later
  · simp
  · obtain ⟨name, listed, rfl⟩ := List.mem_map.mp later
    exact separator_not_mem_bytes (clean name listed)

private theorem toPath?_segments {segments : List Text} (nonempty : segments ≠ []) :
    (Uri.mk fileScheme (some (.ofHost (.name []))) (.segments segments) none none).toPath? =
      some ⟨glue '/' ((pieces '/'.toUInt8
        (segments.flatMap fun segment => '/'.toUInt8 :: decode segment)).map nameOf)⟩ := by
  obtain ⟨name, names, rfl⟩ := List.exists_cons_of_ne_nil nonempty
  rfl

theorem ofPath?_of_isAbsolute {path : Path} (absolute : path.isAbsolute = true) :
    ∃ uri, ofPath? path = some uri ∧ uri.toPath? = some (Disk.pathOf path.names) := by
  have clean : ∀ name ∈ path.names, '/' ∉ name := fun _ member => separator_not_mem_names member
  rw [ofPath?, components_of_isAbsolute absolute]
  refine ⟨_, rfl, ?_⟩
  by_cases empty : path.names = []
  · rw [if_pos (by simp [empty]), toPath?_segments (by simp), empty]
    have top : pieces '/'.toUInt8 ([[]].flatMap fun segment => '/'.toUInt8 :: decode segment) = [[], []] := by decide
    rw [top, List.map_cons, List.map_singleton, nameOf_nil]
    rfl
  · rw [if_neg (by simp [empty]), List.map_map, toPath?_segments (by simp [empty]), pieces_segments clean,
      List.map_cons, List.map_map, nameOf_nil]
    have back : path.names.map (nameOf ∘ bytes) = path.names := by
      simp only [Function.comp_def, nameOf_bytes, List.map_id']
    obtain ⟨name, names, listed⟩ := List.exists_cons_of_ne_nil empty
    rw [back, listed]
    rfl

end QueryNav.Uri
