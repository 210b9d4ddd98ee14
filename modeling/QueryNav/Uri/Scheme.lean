import QueryNav.Text.Basic

/-! Schemes. A few of them are special: in their addresses the path always starts with a slash, a
backslash is as good as a slash, and, `file` apart, there is a host. -/

namespace QueryNav.Uri

open Text

def isLetter (c : Char) : Bool := ('a' ≤ c && c ≤ 'z') || ('A' ≤ c && c ≤ 'Z')

def isSchemeChar (c : Char) : Bool := isLetter c || ('0' ≤ c && c ≤ '9') || c = '+' || c = '-' || c = '.'

/-- The special schemes other than `file`, with their usual ports. -/
def specialPorts : List (Text × Nat) :=
  [("http".toList, 80), ("https".toList, 443), ("ws".toList, 80), ("wss".toList, 443), ("ftp".toList, 21)]

def fileScheme : Text := "file".toList

def isSpecial (scheme : Text) : Bool := scheme = fileScheme || (specialPorts.lookup scheme).isSome

/-- A separator of segments. -/
def isSlash (special : Bool) (c : Char) : Bool := c = '/' || (special && c = '\\')

/-- The text before the first `mark` and, if there is one, the text behind it. -/
def cutAt (mark : Char) (text : Text) : Text × Option Text :=
  match text.dropWhile (· ≠ mark) with
  | _ :: rest => (text.takeWhile (· ≠ mark), some rest)
  | [] => (text, none)

/-- Tabs and line breaks, which are ignored wherever they stand. -/
def isIgnored (c : Char) : Bool := c = '\t' || c = '\n' || c = '\r'

def unbroken (text : Text) : Text := text.filter fun c => !isIgnored c

end QueryNav.Uri
