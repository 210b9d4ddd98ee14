import QueryNav.Path
import QueryNav.Uri.Parser

/-! Addresses and paths. The path of an address is read from its segments whatever the scheme is, as
long as the document is on this machine: the host is missing or `localhost`. The address of an absolute
path has the scheme of files and one segment for each component. -/

namespace QueryNav.Uri

open Text

/-- The name that some bytes spell. Bytes that are no text become a name that no entry of a folder can
have. -/
def nameOf (bytes : List UInt8) : Text :=
  match String.fromUTF8? ⟨bytes.toArray⟩ with
  | some name => name.toList
  | none => [Char.ofNat 0]

/-- Whether an authority is this machine. -/
def isLocal : Option Authority → Bool
  | some authority => authority.host = .name [] || authority.host = .name "localhost".toList
  | none => true

/-- The path of a document on this machine. -/
def toPath? (uri : Uri) : Option Path :=
  match uri.route with
  | .segments (name :: names) =>
    if isLocal uri.authority? then
      let bytes := (name :: names).flatMap fun segment => '/'.toUInt8 :: decode segment
      some ⟨glue '/' ((pieces '/'.toUInt8 bytes).map nameOf)⟩
    else none
  | _ => none

/-- The segment of an address for a component of a path. -/
def segmentOf : Path.Component → Text
  | .root => []
  | .current => ['.']
  | .parent => ['.', '.']
  | .name text => encode encodedInSegment text

def ofPath? (path : Path) : Option Uri :=
  match path.components with
  | .root :: rest =>
    some { scheme := fileScheme, authority? := some (.ofHost (.name [])),
           route := .segments (if rest = [] then [[]] else rest.map segmentOf),
           query? := none, fragment? := none }
  | _ => none

end QueryNav.Uri
