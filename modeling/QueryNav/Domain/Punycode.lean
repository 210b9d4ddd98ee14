import QueryNav.Domain.Span

/-! Punycode, a spelling in ASCII for labels in any script. The ASCII characters come first, with a
hyphen behind them if there are any. The other characters follow in the order of their code points,
and from left to right among equals. Each is written as a number: how many of the places where it could
have been inserted, code point by code point, were passed since the character before it. A number has
digits to base 36, the lowest first. A digit below the threshold of its place is the last one, and the
thresholds follow the sizes of the numbers so far. -/

namespace QueryNav.Domain.Punycode

open Text

def base : Nat := 36

/-- The digit of a number below `base`: the letters, then the decimal digits. -/
def digit (value : Nat) : Char :=
  if value < 26 then Char.ofNat (97 + value) else Char.ofNat (22 + value)

/-- The value of a digit in either case. -/
def digitValue? (c : Char) : Option Nat :=
  if 'a' ≤ c ∧ c ≤ 'z' then some (c.toNat - 97)
  else if 'A' ≤ c ∧ c ≤ 'Z' then some (c.toNat - 65)
  else if '0' ≤ c ∧ c ≤ '9' then some (c.toNat - 22)
  else none

/-- The threshold of a place, the first place being `base` and each further one `base` more. -/
def threshold (bias place : Nat) : Nat :=
  if place ≤ bias then 1 else if bias + 26 ≤ place then 26 else place - bias

/-- A place always has a last digit, so that a number grows shorter with each digit that is written. -/
theorem threshold_pos (bias place : Nat) : 0 < threshold bias place := by
  unfold threshold
  split
  · decide
  next high => split <;> omega

/-- The bias after a number whose scaled size is `size`. -/
def biasOf (size offset : Nat) : Nat :=
  if 455 < size then biasOf (size / 35) (offset + base) else offset + base * size / (size + 38)
termination_by size
decreasing_by exact Nat.div_lt_self (by omega) (by omega)

/-- The bias after `number`, with which the label has `count` characters. The first number is likely to
be much larger than those behind it. -/
def adapted (number count : Nat) (isFirst : Bool) : Nat :=
  let size := if isFirst then number / 700 else number / 2
  biasOf (size + size / count) 0

/-- The digits of a number from `place` on. -/
def writeNumber (bias place number : Nat) : Text :=
  let limit := threshold bias place
  if number < limit then [digit number]
  else digit (limit + (number - limit) % (base - limit)) ::
    writeNumber bias (place + base) ((number - limit) / (base - limit))
termination_by number
decreasing_by
  have positive := threshold_pos bias place
  exact Nat.lt_of_le_of_lt (Nat.div_le_self _ _) (by omega)

/-- What is known while a label is written: the places passed since the last insertion, the bias, the
number of characters that are written, and the digits so far. -/
structure Pen where
  passed : Nat
  bias : Nat
  count : Nat
  digits : Text
  deriving DecidableEq, Repr

/-- Passes a character of the label while those with code point `point` are inserted. -/
def Pen.pass (point basics : Nat) (pen : Pen) (c : Char) : Pen :=
  if c.toNat < point then { pen with passed := pen.passed + 1 }
  else if c.toNat = point then
    { passed := 0, bias := adapted pen.passed (pen.count + 1) (pen.count = basics), count := pen.count + 1,
      digits := pen.digits ++ writeNumber pen.bias base pen.passed }
  else pen

/-- Inserts the characters with the code points of a list, none of which is below `start`. -/
def Pen.insertAll (label : Text) (basics : Nat) : (start : Nat) → List Nat → Pen → Pen
  | _, [], pen => pen
  | start, point :: points, pen =>
    let moved := { pen with passed := pen.passed + (point - start) * (pen.count + 1) }
    let inserted := label.foldl (fun pen c => pen.pass point basics c) moved
    insertAll label basics (point + 1) points { inserted with passed := inserted.passed + 1 }

/-- Puts a number into a list that is in increasing order, unless it is there. -/
def insertOnce (value : Nat) : List Nat → List Nat
  | [] => [value]
  | first :: rest =>
    if value < first then value :: first :: rest
    else if value = first then first :: rest
    else first :: insertOnce value rest

def encode (label : Text) : Text :=
  let basic := label.filter isAscii
  let points := ((label.filter fun c => !isAscii c).map Char.toNat).foldr insertOnce []
  let pen := Pen.insertAll label basic.length 0x80 points ⟨0, 72, basic.length, []⟩
  basic ++ (if basic = [] then [] else ['-']) ++ pen.digits

/-- What is known while a spelling is read: the label so far, the code point and the place in the label
behind the last insertion, the bias, and the number that is being read with its place, the
weight of that place and the digits' total. -/
structure Scan where
  label : Text
  point : Nat
  start : Nat
  bias : Nat
  place : Nat
  weight : Nat
  total : Nat
  deriving DecidableEq, Repr

def Scan.initial (basic : Text) : Scan := ⟨basic, 0x80, 0, 72, base, 1, 0⟩

/-- Inserts a character after the last digit of a number. -/
def Scan.insert? (scan : Scan) (number : Nat) : Option Scan :=
  let count := scan.label.length + 1
  let passed := scan.start + number
  let point := scan.point + passed / count
  let start := passed % count
  if point < 0xD800 ∨ (0xE000 ≤ point ∧ point < 0x110000) then
    some ⟨scan.label.insertIdx start (Char.ofNat point), point, start + 1,
      adapted number count (scan.start = 0), base, 1, 0⟩
  else none

/-- Reads the digits. The last number has to be complete. -/
def Scan.read? (scan : Scan) : Text → Option Text
  | [] => if scan.place = base then some scan.label else none
  | c :: rest => do
    let value ← digitValue? c
    let total := scan.total + value * scan.weight
    let limit := threshold scan.bias scan.place
    if value < limit then (← scan.insert? total).read? rest
    else
      Scan.read? { scan with place := scan.place + base, weight := scan.weight * (base - limit), total } rest

/-- The text before the last hyphen and the text behind it. Without a hyphen nothing is before it. -/
def cutLast (code : Text) : Text × Text :=
  let digits := (code.reverse.takeWhile (· ≠ '-')).reverse
  (code.take (code.length - digits.length - 1), digits)

/-- The label that a spelling stands for. A spelling is all in ASCII. A hyphen at its front is not the
one behind the ASCII characters of the label, since there are none. -/
def decode? (code : Text) : Option Text :=
  match cutLast code with
  | (basic, digits) =>
    if !basic.all isAscii ∨ (basic = [] ∧ digits ≠ code) then none else (Scan.initial basic).read? digits

end QueryNav.Domain.Punycode
