/-! Texts are lists of Unicode scalar values. Everything the library reads, edits and prints is one
of them, so that lengths and offsets in this library count scalar values unless a name says
otherwise. This module holds the operations that know nothing about queries: taking a word off the
front, trimming the end, and cutting a list into pieces at a separator. Cutting and gluing undo each
other, and gluing fewer pieces never gives a longer list. -/

namespace QueryNav

/-- A text, as its scalar values in order. -/
abbrev Text := List Char

namespace Text

/-- What follows `word` in `text`, when the text starts with it. -/
def after? : (word text : Text) → Option Text
  | [], text => some text
  | _ :: _, [] => none
  | w :: word, c :: text => if w = c then after? word text else none

/-- Puts `new` in the place of every `old`. -/
def replace (old new : Char) (text : Text) : Text :=
  text.map fun c => if c = old then new else c

/-- An ASCII capital becomes its small letter; every other character stays as it is. -/
def lowerAscii (c : Char) : Char :=
  if 'A' ≤ c ∧ c ≤ 'Z' then Char.ofNat (c.toNat + 32) else c

/-- Whether `left` stands no later than `right` when texts are ordered by their first difference. -/
def inOrder : (left right : Text) → Bool
  | [], _ => true
  | _ :: _, [] => false
  | a :: left, b :: right => if a = b then inOrder left right else a.toNat < b.toNat

variable {α : Type}

/-- The list without the items at its end that satisfy `drop`. -/
def trimEndWhile (drop : α → Bool) (items : List α) : List α :=
  (items.reverse.dropWhile drop).reverse

/-- The pieces of a list between the occurrences of `separator`. A list without the separator is its
own only piece, so there is always at least one. -/
def pieces [DecidableEq α] (separator : α) : List α → List (List α)
  | [] => [[]]
  | c :: rest =>
    match pieces separator rest with
    | [] => [[c]]
    | piece :: others => if c = separator then [] :: piece :: others else (c :: piece) :: others

/-- The pieces put together again with `separator` between neighbours. -/
def glue (separator : α) : List (List α) → List α
  | [] => []
  | [piece] => piece
  | piece :: other :: others => piece ++ separator :: glue separator (other :: others)

theorem pieces_ne_nil [DecidableEq α] (separator : α) (items : List α) : pieces separator items ≠ [] := by
  cases items with
  | nil => simp [pieces]
  | cons c rest =>
    rw [pieces]
    split
    · simp
    · split <;> simp

/-- Cutting a list and gluing the pieces loses nothing. -/
theorem glue_pieces [DecidableEq α] (separator : α) (items : List α) :
    glue separator (pieces separator items) = items := by
  induction items with
  | nil => rfl
  | cons c rest ih =>
    cases cut : pieces separator rest with
    | nil => exact absurd cut (pieces_ne_nil separator rest)
    | cons piece others =>
      rw [cut] at ih
      by_cases same : c = separator
      · subst same
        simp [pieces, cut, glue, ih]
      · cases others with
        | nil => simp_all [pieces, glue]
        | cons other others => simp_all [pieces, glue]

/-- A last piece that is added makes the glued list longer by at least its own length. -/
theorem length_glue_concat (separator : α) (front : List (List α)) (piece : List α) :
    (glue separator front).length + piece.length ≤ (glue separator (front ++ [piece])).length := by
  induction front with
  | nil => simp [glue]
  | cons first rest ih =>
    cases rest with
    | nil => simp [glue]
    | cons second rest => simp [glue] at ih ⊢; omega

/-- Pieces that are added never make the glued list shorter. -/
theorem length_glue_le_append (separator : α) (front back : List (List α)) :
    (glue separator front).length ≤ (glue separator (front ++ back)).length := by
  induction back generalizing front with
  | nil => simp
  | cons piece back ih =>
    have first := length_glue_concat separator front piece
    have others := ih (front ++ [piece])
    simp only [List.append_assoc, List.singleton_append] at others
    omega

/-- What is trimmed off the end consists of items that satisfy the test. -/
theorem trimEndWhile_append (drop : α → Bool) (items : List α) :
    ∃ tail, items = trimEndWhile drop items ++ tail ∧ ∀ item ∈ tail, drop item = true := by
  refine ⟨(items.reverse.takeWhile drop).reverse, ?_, ?_⟩
  · rw [trimEndWhile, ← List.reverse_append, List.takeWhile_append_dropWhile, List.reverse_reverse]
  · intro item member
    exact List.all_eq_true.mp List.all_takeWhile item (List.mem_reverse.mp member)

/-- The last item that is left after trimming does not satisfy the test. -/
theorem getLast?_trimEndWhile (drop : α → Bool) (items : List α) {item : α}
    (last : (trimEndWhile drop items).getLast? = some item) : drop item = false := by
  rw [trimEndWhile, List.getLast?_reverse] at last
  cases kept : items.reverse.dropWhile drop with
  | nil => simp [kept] at last
  | cons first rest =>
    have failing := List.head?_dropWhile_not drop items.reverse
    rw [kept] at last failing
    simp at last failing
    exact last ▸ failing

end Text

end QueryNav
