import QueryNav.Json.Reader

/-! Strings and numbers as they are spelled in JSON, and how they are read. A grammar says what a string and a number
look like, without regard to a reader. The reader takes the codes of a string one piece at a time, so that a piece can
be followed by anything; a number is recognised as a whole, by what its parts begin with. -/

namespace QueryNav.Json

open Text

/-- The letters behind a backslash and the characters that they stand for. -/
def letters : List (Char × Char) :=
  [('"', '"'), ('\\', '\\'), ('/', '/'), ('n', '\n'), ('r', '\r'), ('t', '\t'), ('b', '\x08'), ('f', '\x0c')]

/-- The ways to spell one character of a string: as it is, by a letter, by its code in four hexadecimal digits, or by
the codes of the two halves of its surrogate pair. -/
inductive Spelling : (piece : Text) → Char → Prop where
  | plain {c : Char} (visible : 0x20 ≤ c.toNat) (notQuote : c ≠ '"') (notBackslash : c ≠ '\\') : Spelling [c] c
  | letter {letter c : Char} (known : (letter, c) ∈ letters) : Spelling ['\\', letter] c
  | code {a b c d char : Char} (unit : hex4? a b c d = some char.toNat) : Spelling ['\\', 'u', a, b, c, d] char
  | pair {a b c d e f g h char : Char} {high low : Nat} (first : hex4? a b c d = some high)
      (second : hex4? e f g h = some low) (isHigh : 0xD800 ≤ high ∧ high < 0xDC00)
      (isLow : 0xDC00 ≤ low ∧ low < 0xE000) (joined : char.toNat = 0x10000 + (high - 0xD800) * 0x400 + (low - 0xDC00)) :
      Spelling ['\\', 'u', a, b, c, d, '\\', 'u', e, f, g, h] char

/-- What stands between the quotes of a string. -/
inductive Quoted : (spelling text : Text) → Prop where
  | nil : Quoted [] []
  | cons {piece spelling text : Text} {c : Char} (first : Spelling piece c) (others : Quoted spelling text) :
      Quoted (piece ++ spelling) (c :: text)

def Digits (text : Text) : Prop := text ≠ [] ∧ ∀ c ∈ text, c.isDigit = true

/-- Digits without a zero in front of others. -/
def Natural (text : Text) : Prop := Digits text ∧ (text.length = 1 ∨ text.head? ≠ some '0')

def Fraction (text : Text) : Prop := text = [] ∨ ∃ digits, text = '.' :: digits ∧ Digits digits

def Exponent (text : Text) : Prop :=
  text = [] ∨ ∃ mark sign digits, text = mark :: (sign ++ digits) ∧ (mark = 'e' ∨ mark = 'E') ∧
    (sign = [] ∨ sign = ['+'] ∨ sign = ['-']) ∧ Digits digits

private theorem characters?_cons (c : Char) (others : List Nat) :
    characters? (c.toNat :: others) = (characters? others).map (c :: ·) := by
  have valid : c.toNat < 0xD800 ∨ 0xDFFF < c.toNat ∧ c.toNat < 0x110000 := c.valid
  have notHigh : ¬ (0xD800 ≤ c.toNat ∧ c.toNat < 0xDC00) := by omega
  have notLow : ¬ (0xDC00 ≤ c.toNat ∧ c.toNat < 0xE000) := by omega
  rw [characters?.eq_def]
  simp only [if_neg notHigh, if_neg notLow, Char.ofNat_toNat]

private theorem escapeCode?_of_mem {letter c : Char} (known : (letter, c) ∈ letters) :
    escapeCode? letter = some c.toNat ∧ letter ≠ 'u' := by
  have table : ∀ entry ∈ letters, escapeCode? entry.1 = some entry.2.toNat ∧ entry.1 ≠ 'u' := by decide
  exact table (letter, c) known

theorem Spelling.exists_codes {piece : Text} {c : Char} (spelling : Spelling piece c) :
    ∃ codes, (∀ text, codes? (piece ++ text) = (codes? text).map fun found => (codes ++ found.1, found.2)) ∧
      ∀ others, characters? (codes ++ others) = (characters? others).map (c :: ·) := by
  cases spelling with
  | plain visible notQuote notBackslash =>
    refine ⟨[c.toNat], ?_, characters?_cons c⟩
    intro text
    rw [List.singleton_append, codes?]
    · rw [if_neg (by simp [notBackslash]; omega)]
      cases codes? text <;> rfl
    · simp [notQuote]
    · simp [notBackslash]
    · simp [notBackslash]
  | @letter letter _ known =>
    obtain ⟨code, other⟩ := escapeCode?_of_mem known
    refine ⟨[c.toNat], ?_, characters?_cons c⟩
    intro text
    rw [List.cons_append, List.singleton_append, codes?]
    · rw [code]
      cases codes? text <;> rfl
    · simp [other]
  | code unit =>
    refine ⟨[c.toNat], ?_, characters?_cons c⟩
    intro text
    simp only [List.cons_append, List.nil_append, codes?, unit]
    cases codes? text <;> rfl
  | @pair _ _ _ _ _ _ _ _ _ high low first second isHigh isLow joined =>
    refine ⟨[high, low], ?_, ?_⟩
    · intro text
      simp only [List.cons_append, List.nil_append, codes?, first, second]
      cases codes? text <;> rfl
    · intro others
      rw [List.cons_append, List.singleton_append, characters?, if_pos isHigh]
      simp only [if_pos isLow, ← joined, Char.ofNat_toNat]

theorem readString?_of_quoted {spelling text : Text} (quoted : Quoted spelling text) (rest : Text) :
    readString? (spelling ++ '"' :: rest) = some (text, rest) := by
  have read : ∃ codes, codes? (spelling ++ '"' :: rest) = some (codes, rest) ∧ characters? codes = some text := by
    induction quoted with
    | nil => exact ⟨[], by simp [codes?], rfl⟩
    | cons first _ ih =>
      obtain ⟨codes, found, spelled⟩ := ih
      obtain ⟨piece, one, char⟩ := first.exists_codes
      refine ⟨piece ++ codes, ?_, ?_⟩
      · rw [List.append_assoc, one, found, Option.map_some]
      · rw [char, spelled, Option.map_some]
  obtain ⟨codes, found, spelled⟩ := read
  simp [readString?, found, spelled]

theorem isDigits_iff {text : Text} : isDigits text = true ↔ Digits text := by
  simp [isDigits, Digits]

theorem isNatural_iff {text : Text} : isNatural text = true ↔ Natural text := by
  simp [isNatural, Natural, isDigits_iff]

theorem Digits.ne {text : Text} (digits : Digits text) {c : Char} (member : c ∈ text) {other : Char}
    (outside : other.isDigit = false) : c ≠ other := by
  rintro rfl
  exact absurd (digits.2 c member) (by simp [outside])

theorem Natural.exists_cons {whole : Text} (natural : Natural whole) :
    ∃ c rest, whole = c :: rest ∧ c.isDigit = true := by
  obtain ⟨c, rest, rfl⟩ := List.exists_cons_of_ne_nil natural.1.1
  exact ⟨c, rest, rfl, natural.1.2 c (by simp)⟩

theorem number?_of_natural {digits : Text} (natural : Natural digits) :
    number? digits = some (.int (Nat.ofDigitChars 10 digits 0)) := by
  obtain ⟨c, rest, rfl, digit⟩ := natural.exists_cons
  have other : c ≠ '-' := natural.1.ne (by simp) (by decide)
  rw [number?]
  · rw [if_pos (isNatural_iff.mpr natural)]
  · simp [other]

theorem number?_of_negative {digits : Text} (natural : Natural digits) (nonzero : digits ≠ ['0']) :
    number? ('-' :: digits) = some (.int (-(Nat.ofDigitChars 10 digits 0 : Int))) := by
  rw [number?, if_pos ⟨isNatural_iff.mpr natural, nonzero⟩]

theorem takeWhile_append_of_stop {test : Char → Bool} {front back : Text} (inside : ∀ c ∈ front, test c = true)
    (stops : ∀ c, back.head? = some c → test c = false) :
    (front ++ back).takeWhile test = front ∧ (front ++ back).dropWhile test = back := by
  rw [List.takeWhile_append_of_pos inside, List.dropWhile_append_of_pos inside]
  cases back with
  | nil => simp
  | cons c back => simp [stops c rfl]

theorem Fraction.head? {fraction : Text} (isFraction : Fraction fraction) {c : Char}
    (first : fraction.head? = some c) : c = '.' := by
  obtain rfl | ⟨digits, rfl, _⟩ := isFraction
  · cases first
  · simpa using first.symm

theorem Exponent.head? {exponent : Text} (isExponent : Exponent exponent) {c : Char}
    (first : exponent.head? = some c) : c = 'e' ∨ c = 'E' := by
  obtain rfl | ⟨mark, sign, digits, rfl, marked, _⟩ := isExponent
  · cases first
  · obtain rfl : mark = c := by simpa using first
    exact marked

private theorem isExponent_of_signed {sign digits : Text} (signed : sign = [] ∨ sign = ['+'] ∨ sign = ['-'])
    (run : Digits digits) : isExponent (sign ++ digits) = true := by
  rcases signed with rfl | rfl | rfl
  · obtain ⟨c, rest, rfl⟩ := List.exists_cons_of_ne_nil run.1
    have notMinus : c ≠ '-' := run.ne (by simp) (by decide)
    have notPlus : c ≠ '+' := run.ne (by simp) (by decide)
    rw [List.nil_append, isExponent]
    · exact isDigits_iff.mpr run
    · simp [notMinus]
    · simp [notPlus]
  · exact isDigits_iff.mpr run
  · exact isDigits_iff.mpr run

private theorem Fraction.ne_mark {fraction : Text} (isFraction : Fraction fraction) {c : Char} (member : c ∈ fraction) :
    (c ≠ 'e' && c ≠ 'E') = true := by
  obtain rfl | ⟨digits, rfl, run⟩ := isFraction
  · cases member
  · rcases List.mem_cons.mp member with rfl | digit
    · decide
    · simp [run.ne digit]

theorem Digits.isNumberChar {text : Text} (digits : Digits text) {c : Char} (member : c ∈ text) :
    isNumberChar c = true := by
  simp [Json.isNumberChar, digits.2 c member]

private theorem Fraction.isNumberChar {fraction : Text} (isFraction : Fraction fraction) {c : Char}
    (member : c ∈ fraction) : isNumberChar c = true := by
  obtain rfl | ⟨digits, rfl, run⟩ := isFraction
  · cases member
  · rcases List.mem_cons.mp member with rfl | digit
    · decide
    · exact run.isNumberChar digit

private theorem Exponent.isNumberChar {exponent : Text} (isExponent : Exponent exponent) {c : Char}
    (member : c ∈ exponent) : isNumberChar c = true := by
  obtain rfl | ⟨mark, sign, digits, rfl, marked, signed, run⟩ := isExponent
  · cases member
  · rcases List.mem_cons.mp member with rfl | later
    · rcases marked with rfl | rfl <;> decide
    · rcases List.mem_append.mp later with early | digit
      · rcases signed with rfl | rfl | rfl
        · cases early
        · obtain rfl := List.mem_singleton.mp early
          decide
        · obtain rfl := List.mem_singleton.mp early
          decide
      · exact run.isNumberChar digit

theorem isNumberChar_of_parts {sign whole fraction exponent : Text} (signed : sign = [] ∨ sign = ['-'])
    (natural : Natural whole) (isFraction : Fraction fraction) (isExponent : Exponent exponent) {c : Char}
    (member : c ∈ sign ++ (whole ++ (fraction ++ exponent))) : isNumberChar c = true := by
  simp only [List.mem_append] at member
  rcases member with minus | digit | point | mark
  · rcases signed with rfl | rfl
    · cases minus
    · obtain rfl := List.mem_singleton.mp minus
      decide
  · exact natural.1.isNumberChar digit
  · exact isFraction.isNumberChar point
  · exact isExponent.isNumberChar mark

theorem isNumber_of_parts {sign whole fraction exponent : Text} (signed : sign = [] ∨ sign = ['-'])
    (natural : Natural whole) (isFraction : Fraction fraction) (isExponent : Exponent exponent) :
    isNumber (sign ++ (whole ++ (fraction ++ exponent))) = true := by
  have bare : unsigned (sign ++ (whole ++ (fraction ++ exponent))) = (whole ++ fraction) ++ exponent := by
    rcases signed with rfl | rfl
    · obtain ⟨c, rest, rfl, _⟩ := natural.exists_cons
      have other : c ≠ '-' := natural.1.ne (by simp) (by decide)
      simp [unsigned, other]
    · simp [unsigned]
  have beforeMark : ∀ c ∈ whole ++ fraction, (c ≠ 'e' && c ≠ 'E') = true := by
    intro c member
    rcases List.mem_append.mp member with early | late
    · simp [natural.1.ne early]
    · exact isFraction.ne_mark late
  have atMark : ∀ c, exponent.head? = some c → (c ≠ 'e' && c ≠ 'E') = false := by
    intro c first
    rcases isExponent.head? first with rfl | rfl <;> decide
  have beforePoint : ∀ c ∈ whole, decide (c ≠ '.') = true := fun c member => by simp [natural.1.ne member]
  have atPoint : ∀ c, fraction.head? = some c → decide (c ≠ '.') = false := fun c first => by
    simp [isFraction.head? first]
  obtain ⟨mantissa, behindMark⟩ := takeWhile_append_of_stop beforeMark atMark
  obtain ⟨front, behindPoint⟩ := takeWhile_append_of_stop beforePoint atPoint
  simp only [isNumber, bare, mantissa, behindMark, front, behindPoint, isNatural_iff.mpr natural, Bool.true_and,
    Bool.and_eq_true]
  constructor
  · obtain rfl | ⟨digits, rfl, run⟩ := isFraction
    · rfl
    · exact isDigits_iff.mpr run
  · obtain rfl | ⟨mark, sign, digits, rfl, _, signed, run⟩ := isExponent
    · rfl
    · exact isExponent_of_signed signed run

private theorem not_natural_append (whole : Text) {fraction exponent : Text} (isFraction : Fraction fraction)
    (isExponent : Exponent exponent) (longer : fraction ++ exponent ≠ []) :
    ¬ Natural (whole ++ (fraction ++ exponent)) := by
  intro natural
  obtain ⟨c, rest, same⟩ := List.exists_cons_of_ne_nil longer
  have digit : c.isDigit = true := natural.1.2 c (by simp [same])
  have first : (fraction ++ exponent).head? = some c := by rw [same, List.head?_cons]
  rw [List.head?_append] at first
  rcases Option.or_eq_some_iff.mp first with point | ⟨_, mark⟩
  · rw [isFraction.head? point] at digit
    exact absurd digit (by decide)
  · rcases isExponent.head? mark with rfl | rfl <;> exact absurd digit (by decide)

theorem number?_of_real {sign whole fraction exponent : Text} (signed : sign = [] ∨ sign = ['-'])
    (natural : Natural whole) (isFraction : Fraction fraction) (isExponent : Exponent exponent)
    (special : fraction ++ exponent ≠ [] ∨ sign = ['-'] ∧ whole ++ (fraction ++ exponent) = ['0']) :
    number? (sign ++ (whole ++ (fraction ++ exponent))) = some (.real (sign ++ (whole ++ (fraction ++ exponent)))) := by
  have number := isNumber_of_parts signed natural isFraction isExponent
  have unnatural : fraction ++ exponent ≠ [] → ¬ isNatural (whole ++ (fraction ++ exponent)) = true := by
    intro longer spelled
    exact not_natural_append whole isFraction isExponent longer (isNatural_iff.mp spelled)
  rcases signed with rfl | rfl
  · have longer : fraction ++ exponent ≠ [] := by simpa using special
    obtain ⟨c, rest, rfl, _⟩ := natural.exists_cons
    have other : c ≠ '-' := natural.1.ne (by simp) (by decide)
    rw [List.nil_append] at number ⊢
    rw [number?, if_neg (unnatural longer), if_pos number]
    simp [other]
  · have refused : ¬ (isNatural (whole ++ (fraction ++ exponent)) = true ∧ whole ++ (fraction ++ exponent) ≠ ['0']) := by
      intro taken
      rcases special with longer | zero
      · exact unnatural longer taken.1
      · exact taken.2 zero.2
    rw [List.singleton_append] at number ⊢
    rw [number?, if_neg refused, if_pos number]

end QueryNav.Json
