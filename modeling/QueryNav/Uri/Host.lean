import QueryNav.Domain.Name
import QueryNav.Uri.Basic
import QueryNav.Uri.Percent

/-! Reading a host. In brackets it is an address of version 6. Otherwise the host of a special address is
a domain name, which may be percent-encoded, or, when it ends in a number, an address of version 4; any
other host is a text that is only percent-encoded. -/

namespace QueryNav.Uri

open Text

/-- The text that some bytes spell in UTF-8. -/
def utf8? (bytes : List UInt8) : Option Text :=
  if bytes.all (· < 0x80) then some (bytes.map fun byte => Char.ofNat byte.toNat)
  else (String.fromUTF8? ⟨bytes.toArray⟩).map String.toList

/-- The characters that no host holds. -/
def forbiddenInHost (c : Char) : Bool :=
  c.toNat = 0 || [' ', '#', '/', ':', '<', '>', '?', '@', '[', '\\', ']', '^', '|'].contains c

/-- The host behind an opening bracket. -/
def bracketed? (written : Text) : Option Host :=
  if written.getLast? = some ']' then (Ip6.read? written.dropLast).map .v6 else none

/-- The host of a special address, which is never empty. -/
def specialHost? : (written : Text) → Option Host
  | '[' :: rest => bracketed? rest
  | written => do
    let name ← Domain.toAscii? (← utf8? (decode written))
    if name = [] then none
    else if Ip4.isMeant name then (Ip4.read? name).map .v4
    else some (.name name)

/-- The host of any other address. -/
def plainHost? : (written : Text) → Option Host
  | '[' :: rest => bracketed? rest
  | written => if written.any forbiddenInHost then none else some (.name (encode isControl written))

end QueryNav.Uri
