import QueryNav.Text.Hex

/-! Addresses of machines. An address of version 4 is a number of 32 bits, written as four bytes in
decimal digits; it may also be read from fewer parts, the last of which then fills the bytes that are
missing, and from octal or hexadecimal digits. An address of version 6 is eight groups of 16 bits,
written in hexadecimal digits; two colons stand for groups that are zero, and when it is written they
stand for the first of the longest runs of at least two. -/

namespace QueryNav.Uri

open Text

/-- The number that digits to a base spell. No digits spell zero. -/
def numberOf? (base : Nat) (digits : Text) : Option Nat :=
  digits.foldlM (fun value c => ((hexValue? c).filter (· < base)).map (value * base + ·)) 0

namespace Ip4

/-- The parts of a written address. A dot at its end is ignored. -/
def parts (written : Text) : List Text :=
  let all := pieces '.' written
  if all.getLast? = some [] then all.dropLast else all

/-- The number that a part spells: octal behind a zero, hexadecimal behind a zero and an `x`. -/
def part? : Text → Option Nat
  | [] => none
  | '0' :: c :: rest => if c = 'x' ∨ c = 'X' then numberOf? 16 rest else numberOf? 8 (c :: rest)
  | digits => numberOf? 10 digits

/-- Whether a host has to be an address: its last part is a number, or would be one but for its
digits. -/
def isMeant (written : Text) : Bool :=
  (parts written).getLast?.any fun last => last ≠ [] && (last.all Char.isDigit || (part? last).isSome)

/-- How many values a number of bytes has. -/
def capacity : (bytes : Nat) → Nat
  | 0 => 1
  | bytes + 1 => 256 * capacity bytes

/-- The address of the numbers of its parts, which have `room` bytes: one byte each, and what is left
for the last. -/
def combine? : (room : Nat) → List Nat → Option Nat
  | 0, _ => none
  | _, [] => none
  | room + 1, [last] => if last < capacity (room + 1) then some last else none
  | room + 1, first :: rest =>
    if first < 256 then (combine? room rest).map (first * capacity room + ·) else none

def read? (written : Text) : Option Nat := do
  combine? 4 (← (parts written).mapM part?)

def text (address : Nat) : Text :=
  glue '.' ([3, 2, 1, 0].map fun place => Nat.toDigits 10 (address / capacity place % 256))

end Ip4

namespace Ip6

def size : Nat := 8

/-- The group that up to four digits spell. -/
def group? (digits : Text) : Option Nat :=
  if digits = [] ∨ 4 < digits.length then none else numberOf? 16 digits

/-- The byte that decimal digits spell, without a zero in front. -/
def byte? : Text → Option Nat
  | [] => none
  | '0' :: _ :: _ => none
  | digits => (numberOf? 10 digits).filter (· < 256)

/-- The two groups that an address of version 4 spells. -/
def dotted? (written : Text) : Option (List Nat) := do
  match ← (pieces '.' written).mapM byte? with
  | [a, b, c, d] => some [a * 256 + b, c * 256 + d]
  | _ => none

/-- The groups of some parts. The last part may be an address of version 4 if nothing follows it. -/
def groups? (isLast : Bool) : List Text → Option (List Nat)
  | [] => some []
  | [part] =>
    if isLast && part.contains '.' then dotted? part else (group? part).map fun group => [group]
  | part :: rest => do
    let group ← group? part
    let groups ← groups? isLast rest
    some (group :: groups)

/-- The groups of one side of the two colons, which may have none. -/
def side? (isLast : Bool) (written : Text) : Option (List Nat) :=
  if written = [] then some [] else groups? isLast (pieces ':' written)

/-- The texts before and behind the first two colons. -/
def cutColons? : Text → Option (Text × Text)
  | ':' :: ':' :: rest => some ([], rest)
  | c :: rest => (cutColons? rest).map fun (front, back) => (c :: front, back)
  | [] => none

/-- The address that a text spells. Two colons stand for at least one group. -/
def read? (written : Text) : Option (List Nat) :=
  match cutColons? written with
  | some (front, back) => do
    let first ← side? false front
    let last ← side? true back
    if first.length + last.length < size then
      some (first ++ List.replicate (size - first.length - last.length) 0 ++ last)
    else none
  | none => (side? true written).filter fun groups => groups.length = size

/-- Where the first of the longest runs of zeros starts, and its length. -/
def longestRun : List Nat → Nat × Nat
  | [] => (0, 0)
  | group :: rest =>
    let here := ((group :: rest).takeWhile (· = 0)).length
    let (start, length) := longestRun rest
    if length ≤ here then (0, here) else (start + 1, length)

/-- Groups with a colon between neighbours. -/
def groupsText (groups : List Nat) : Text := glue ':' (groups.map (Nat.toDigits 16))

def text (groups : List Nat) : Text :=
  match longestRun groups with
  | (start, length) =>
    if length < 2 then groupsText groups
    else groupsText (groups.take start) ++ ':' :: ':' :: groupsText (groups.drop (start + length))

end Ip6

end QueryNav.Uri
