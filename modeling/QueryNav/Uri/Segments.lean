import QueryNav.Uri.Percent
import QueryNav.Uri.Scheme

/-! The segments of a path. A segment that is a dot is dropped and one that is two dots takes the segment
before it away, also when the dots are percent-encoded; a drive letter is never taken away. In the path
of a file a drive letter at the front is written with a colon, and what a tab or a line break divides
from it is a segment of its own. Every segment is percent-encoded where it has to be, and what is encoded
already stays as it is. -/

namespace QueryNav.Uri

open Text

/-- Whether a segment is a drive letter and its colon or bar. -/
def isDrive (segment : Text) : Bool :=
  match segment with
  | [letter, mark] => isLetter letter && (mark = ':' || mark = '|')
  | _ => false

/-- A segment with every percent-encoded dot written as a dot. -/
def plainDots : Text → Text
  | '%' :: '2' :: 'e' :: rest => '.' :: plainDots rest
  | '%' :: '2' :: 'E' :: rest => '.' :: plainDots rest
  | c :: rest => c :: plainDots rest
  | [] => []

/-- The segments without the last one, unless it is a drive letter, alone or before a backslash. -/
def shorten (done : List Text) : List Text :=
  match done.getLast? with
  | some last => if isDrive (last.takeWhile (· ≠ '\\')) then done else done.dropLast
  | none => []

/-- The segments that are read so far, and whether a drive letter has stood at their front. -/
structure Trail where
  names : List Text
  hasDrive : Bool
  deriving DecidableEq, Repr

def Trail.empty : Trail := ⟨[], false⟩

/-- A drive letter and its colon, and the text that an ignored character divides from them. -/
def dividedDrive? (piece : Text) : Option (Text × Text) :=
  match piece.dropWhile isIgnored with
  | letter :: rest =>
    match rest.dropWhile isIgnored with
    | ':' :: rest =>
      if isLetter letter && rest.head?.any isIgnored && unbroken rest ≠ [] then
        some ([letter, ':'], unbroken rest)
      else none
    | _ => none
  | [] => none

/-- Puts a piece of the path that is not made of dots at the end of a trail. -/
def Trail.push (isFile : Bool) (trail : Trail) (piece : Text) : Trail :=
  let name := unbroken piece
  if isFile && trail.names = [] then
    if isDrive name then ⟨[name.take 1 ++ [':']], true⟩
    else
      match dividedDrive? piece with
      | some (drive, rest) => { trail with names := [drive, encode encodedInPath rest] }
      | none => { trail with names := [encode encodedInPath name] }
  else { trail with names := trail.names ++ [encode encodedInPath name] }

/-- Puts the pieces of a path at the end of a trail. A path that ends in dots ends in a slash. -/
def Trail.extend (isFile : Bool) (trail : Trail) : List Text → Trail
  | [] => trail
  | piece :: rest =>
    let dots := plainDots (unbroken piece)
    let last := if rest = [] then [[]] else []
    if dots = ['.', '.'] then extend isFile { trail with names := shorten trail.names ++ last } rest
    else if dots = ['.'] then extend isFile { trail with names := trail.names ++ last } rest
    else extend isFile (trail.push isFile piece) rest

/-- The trail of a path, without the slash at its front. -/
def Trail.ofPath (special isFile : Bool) (path : Text) : Trail :=
  Trail.empty.extend isFile (pieces '/' (if special then replace '\\' '/' path else path))

/-- The segments without the empty ones at the front, one of which stays if there is nothing else. -/
def dropEmpty : List Text → List Text
  | [] :: name :: rest => dropEmpty (name :: rest)
  | names => names

end QueryNav.Uri
