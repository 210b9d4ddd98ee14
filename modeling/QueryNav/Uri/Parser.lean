import QueryNav.Uri.Authority
import QueryNav.Uri.Segments

/-! Reading an address. Blanks and control characters around it are dropped, and so are tabs and line
breaks inside it. There has to be a scheme. Every part is percent-encoded where it has to be, and what is
encoded already stays as it is. -/

namespace QueryNav.Uri

open Text

/-- An address without the blanks and control characters around it. -/
def clean (source : Text) : Text :=
  trimEndWhile (fun c => c.toNat ≤ 0x20) (source.dropWhile fun c => c.toNat ≤ 0x20)

/-- The text behind a slash in front, if there is one. -/
def behindSlash? (special : Bool) (text : Text) : Option Text :=
  match text.dropWhile isIgnored with
  | c :: rest => if isSlash special c then some rest else none
  | [] => none

/-- The host and the path of a file's address, from the text behind the scheme. The machine itself has
no name. The slash in front of the path is kept behind two slashes and no host: it is an empty segment,
so that a drive letter behind it is not at the front. -/
def fileHost? (front : Text) : Option (Host × Text) :=
  match behindSlash? true front with
  | none => some (.name [], front)
  | some rest =>
    match behindSlash? true rest with
    | none => some (.name [], rest)
    | some behind =>
      let name := unbroken (behind.takeWhile fun c => !isSlash true c)
      let path := behind.dropWhile fun c => !isSlash true c
      if isDrive name then some (.name [], behind)
      else if name = [] then some (.name [], path)
      else do
        let host ← specialHost? name
        if host = .name "localhost".toList then some (.name [], path)
        else some (host, (behindSlash? true path).getD path)

/-- The authority and the path of a file's address. A host in front of a drive letter is left out. -/
def fileParts? (front : Text) : Option (Option Authority × Route) := do
  let (host, path) ← fileHost? front
  let trail := Trail.ofPath true true path
  some (some (.ofHost (if trail.hasDrive then .name [] else host)), .segments (dropEmpty trail.names))

/-- The authority and the path of any other address, from the text behind the scheme. -/
def parts? (scheme : Text) (isEnd : Bool) (front : Text) : Option (Option Authority × Route) :=
  let special := isSpecial scheme
  let segmentsOf path := (Trail.ofPath special false ((behindSlash? special path).getD path)).names
  let behind? := if special then some (front.dropWhile (isSlash true)) else after? ['/', '/'] front
  match behind? with
  | some behind => do
    let (authority, path) ← readAuthority? scheme isEnd behind
    some (some authority, .segments (if path = [] && !special then [] else segmentsOf path))
  | none =>
    match front with
    | '/' :: _ => some (none, .segments (segmentsOf front))
    | _ => some (none, .bare (encode isControl front))

def parse? (source : Text) : Option Uri := do
  let (written, rest?) := cutAt ':' (clean source)
  let rest ← rest?
  let scheme := (unbroken written).map lowerAscii
  if !(scheme.head?.any isLetter) || !scheme.all isSchemeChar then none
  else
    let (beforeFragment, fragment?) := cutAt '#' rest
    let (front, query?) := cutAt '?' beforeFragment
    let isEnd := query?.isNone && fragment?.isNone
    let (authority?, route) ←
      if scheme = fileScheme then fileParts? front else parts? scheme isEnd (unbroken front)
    let queryEncoded := if isSpecial scheme then encodedInSpecialQuery else encodedInQuery
    some { scheme, authority?, route, query? := query?.map fun text => encode queryEncoded (unbroken text),
           fragment? := fragment?.map fun text => encode encodedInFragment (unbroken text) }

end QueryNav.Uri
