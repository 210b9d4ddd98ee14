import QueryNav.Text.Hex

/-! Percent-encoding. A byte is written as a percent sign and its two hexadecimal digits, in upper case;
a character that may not stand for itself is written as the bytes of its UTF-8 form. Which characters
these are depends on the part of the address, and the sets below only grow from a fragment to a path
and from a path to one of its segments. Reading leaves a percent sign that is not followed by two digits
as it is. -/

namespace QueryNav.Uri

open Text

/-- Whether a character is a control character or lies outside ASCII. -/
def isControl (c : Char) : Bool := c.toNat < 0x20 || 0x7F ≤ c.toNat

def encodedInQuery (c : Char) : Bool := isControl c || [' ', '"', '#', '<', '>'].contains c

/-- The characters that are encoded in the query of a special address. -/
def encodedInSpecialQuery (c : Char) : Bool := encodedInQuery c || c.toNat = 0x27

def encodedInFragment (c : Char) : Bool := isControl c || [' ', '"', '<', '>', '\x60'].contains c

/-- The characters that are encoded in a path that is written as a whole. -/
def encodedInPath (c : Char) : Bool := encodedInFragment c || ['#', '?', '\x7b', '\x7d'].contains c

/-- The characters that are encoded in a single name of a path. -/
def encodedInSegment (c : Char) : Bool := encodedInPath c || ['/', '%', '\\'].contains c

def encodedInLogin (c : Char) : Bool :=
  encodedInPath c || ['/', ':', ';', '=', '@', '[', '\\', ']', '^', '|'].contains c

/-- A byte as a percent sign and two digits. -/
def encodeByte (byte : UInt8) : Text := ['%', hexUpper (byte.toNat / 16), hexUpper (byte.toNat % 16)]

/-- A text with the characters of `encoded` written as their bytes. -/
def encode (encoded : Char → Bool) (text : Text) : Text :=
  text.flatMap fun c => if encoded c then (String.utf8EncodeChar c).flatMap encodeByte else [c]

def byteOf? (high low : Char) : Option UInt8 := do
  let high ← hexValue? high
  let low ← hexValue? low
  some (high * 16 + low).toUInt8

/-- The bytes that a percent-encoded text stands for. -/
def decode : Text → List UInt8
  | [] => []
  | '%' :: high :: low :: rest =>
    match byteOf? high low with
    | some byte => byte :: decode rest
    | none => '%'.toUInt8 :: decode (high :: low :: rest)
  | c :: rest => String.utf8EncodeChar c ++ decode rest

end QueryNav.Uri
