import QueryNav.Path
import QueryNav.Text.Width

/-! A file tree as the program sees it at one moment. A path is followed piece by piece by a `Spot`, which
keeps the folders it came down through: every piece needs a folder to be looked up in, a piece that
means nothing stays where it is, and one that leads upward goes back to the folder above, the top being
its own. Whatever stops the walk is a `Fault`; a question that only has yes and no for an answer takes
every fault for a no. Following a path takes one look-up for each of its pieces. -/

namespace QueryNav

open Text

/-- Why a path cannot be followed or a file cannot be read. -/
inductive Fault where
  /-- The path holds a NUL, which no name can. -/
  | nulInName
  | missing
  /-- Something that is not a folder stands where a folder is needed. -/
  | notFolder
  /-- A folder stands where a file is to be read. -/
  | isFolder
  /-- A name, or the path as a whole, has more bytes than allowed. -/
  | nameTooLong
  /-- The bytes of the file are no text. -/
  | notText
  deriving DecidableEq, Repr

def Fault.message : Fault → String
  | .nulInName => "file name contained an unexpected NUL byte"
  | .missing => "No such file or directory (os error 2)"
  | .notFolder => "Not a directory (os error 20)"
  | .isFolder => "Is a directory (os error 21)"
  | .nameTooLong => "File name too long (os error 36)"
  | .notText => "stream did not contain valid UTF-8"

/-- What stands at one place of a file tree, with everything below it. -/
inductive Tree where
  | file (bytes : ByteArray)
  | folder (entries : List (Text × Tree))

/-- What a folder holds, by name. -/
abbrev Entries := List (Text × Tree)

/-- A place, as the names on the way to it from the top. -/
abbrev Place := List Text

namespace Tree

/-- What is held by the folder that may stand somewhere. A file holds nothing. -/
def inside : Option Tree → Entries
  | some (.folder entries) => entries
  | _ => []

/-- The entries with `tree` under a name, in the place of any other. -/
def put (entries : Entries) (name : Text) (tree : Tree) : Entries :=
  (name, tree) :: entries.filter fun entry => entry.1 ≠ name

/-- The entries of a folder with `change` made at a place below it, in folders made for it where needed.
The folder itself stays. -/
def alter (change : Option Tree → Tree) : Place → Entries → Entries
  | [], entries => entries
  | [name], entries => put entries name (change (entries.lookup name))
  | name :: rest, entries => put entries name (.folder (alter change rest (inside (entries.lookup name))))

end Tree

/-- A point that is reached on a walk through a file tree. -/
structure Spot where
  here : Tree
  /-- The folders above, the nearest first, each with the name under which the walk went on. -/
  above : List (Text × Tree)

namespace Spot

def nameLimit : Nat := 255

def place (spot : Spot) : Place := (spot.above.map Prod.fst).reverse

/-- The folder above. The top is above itself. -/
def up (spot : Spot) : Spot :=
  match spot.above with
  | [] => spot
  | (_, folder) :: rest => ⟨folder, rest⟩

def step (spot : Spot) (piece : Text) : Except Fault Spot :=
  match spot.here with
  | .file _ => .error .notFolder
  | .folder entries =>
    if Path.isFiller piece then .ok spot
    else if piece = ['.', '.'] then .ok spot.up
    else if nameLimit < width8 piece then .error .nameTooLong
    else
      match entries.lookup piece with
      | some tree => .ok ⟨tree, (piece, spot.here) :: spot.above⟩
      | none => .error .missing

def walk (spot : Spot) : List Text → Except Fault Spot
  | [] => .ok spot
  | piece :: rest =>
    match spot.step piece with
    | .ok next => next.walk rest
    | .error fault => .error fault

end Spot

/-- A file tree and the folder from which relative paths start. -/
structure Disk where
  /-- What the top holds, which is always a folder. -/
  entries : Entries
  workingFolder : Place

namespace Disk

/-- The number of bytes from which on a path as a whole is too long. -/
def pathLimit : Nat := 4096

/-- The tree that holds nothing, with the top for a working folder. -/
def empty : Disk := ⟨[], []⟩

/-- The tree with a folder at `place` and at every place above it. A folder that is there already keeps
what it holds. -/
def addFolder (disk : Disk) (place : Place) : Disk :=
  { disk with entries := Tree.alter (fun tree? => .folder (Tree.inside tree?)) place disk.entries }

def addFile (disk : Disk) (place : Place) (bytes : ByteArray) : Disk :=
  { disk with entries := Tree.alter (fun _ => .file bytes) place disk.entries }

def top (disk : Disk) : Spot := ⟨.folder disk.entries, []⟩

/-- The spot a path leads to, however long the path is. The empty path leads nowhere. -/
def resolve (disk : Disk) (path : Path) : Except Fault Spot :=
  if path.text.contains (Char.ofNat 0) then .error .nulInName
  else if path.text = [] then .error .missing
  else disk.top.walk ((if path.isAbsolute then [] else disk.workingFolder) ++ pieces '/' path.text)

/-- The spot of a path that is handed over as a whole, and so must not be too long. -/
def locate (disk : Disk) (path : Path) : Except Fault Spot :=
  if path.text.contains (Char.ofNat 0) then .error .nulInName
  else if pathLimit ≤ width8 path.text then .error .nameTooLong
  else disk.resolve path

def find? (disk : Disk) (path : Path) : Option Tree :=
  match disk.locate path with
  | .ok spot => some spot.here
  | .error _ => none

def isFolder (disk : Disk) (path : Path) : Bool :=
  match disk.find? path with
  | some (.folder _) => true
  | _ => false

def isFile (disk : Disk) (path : Path) : Bool :=
  match disk.find? path with
  | some (.file _) => true
  | _ => false

def pathOf (place : Place) : Path := ⟨'/' :: glue '/' place⟩

/-- The absolute path without detours that leads where `path` leads. -/
def canonical (disk : Disk) (path : Path) : Except Fault Path :=
  match disk.resolve path with
  | .ok spot => .ok (pathOf spot.place)
  | .error fault => .error fault

def readText (disk : Disk) (path : Path) : Except Fault Text :=
  match disk.locate path with
  | .error fault => .error fault
  | .ok spot =>
    match spot.here with
    | .folder _ => .error .isFolder
    | .file bytes =>
      match String.fromUTF8? bytes with
      | some text => .ok text.toList
      | none => .error .notText

end Disk

end QueryNav
