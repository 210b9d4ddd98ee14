import QueryNav.Uri.Host
import QueryNav.Uri.Scheme

/-! Reading an authority. Everything before the last `@` is the login, whose first colon divides the
name from the secret. A colon outside of brackets ends the host, and a port may follow it. -/

namespace QueryNav.Uri

open Text

/-- The login in front of the host, if there is an `@`, and the text behind it. -/
def cutLogin (written : Text) : Option Text × Text :=
  let host := (written.reverse.takeWhile (· ≠ '@')).reverse
  if host = written then (none, written) else (some (written.take (written.length - host.length - 1)), host)

def Login.ofText (written : Text) : Login :=
  match cutAt ':' written with
  | (name, secret?) => ⟨encode encodedInLogin name, encode encodedInLogin (secret?.getD [])⟩

def cutHost (isInside : Bool) : Text → Text × Text
  | [] => ([], [])
  | c :: rest =>
    if c = ':' && !isInside then ([], c :: rest)
    else
      match cutHost (c = '[' || (isInside && c ≠ ']')) rest with
      | (host, behind) => (c :: host, behind)

/-- The port that digits spell, none if there are no digits or it is the usual one of its scheme. -/
def readPort? (scheme digits : Text) : Option (Option Nat) :=
  let port := Nat.ofDigitChars 10 digits 0
  if digits = [] ∨ specialPorts.lookup scheme = some port then some none
  else if port < 0x10000 then some (some port)
  else none

/-- The port and what is left behind it, from the text behind the host. Only a path can follow. -/
def cutPort? (scheme : Text) : Text → Option (Option Nat × Text)
  | ':' :: rest =>
    let behind := rest.dropWhile Char.isDigit
    if behind.head?.all (isSlash true) then do
      let port? ← readPort? scheme (rest.takeWhile Char.isDigit)
      some (port?, behind)
    else none
  | rest => if rest = [] then some (none, []) else none

/-- The authority of an address that is not a file's, and its path, from the text behind the two
slashes. Behind an `@` there has to be a host, unless nothing else is written around the `@`;
`isEnd` tells whether the address ends with the path. -/
def readAuthority? (scheme : Text) (isEnd : Bool) (written : Text) : Option (Authority × Text) := do
  let special := isSpecial scheme
  let path := written.dropWhile fun c => !isSlash special c
  let (login?, rest) := cutLogin (written.takeWhile fun c => !isSlash special c)
  let login := Login.ofText (login?.getD [])
  let (name, behind) := cutHost false rest
  let host ← if special then specialHost? name else plainHost? name
  let lacksHost := login ≠ .anyone || behind ≠ [] || (login? = some [] && !(path = [] && isEnd))
  if host = .name [] && lacksHost then none
  else
    let (port?, left) ← cutPort? scheme behind
    some (⟨login, host, port?⟩, left ++ path)

end QueryNav.Uri
