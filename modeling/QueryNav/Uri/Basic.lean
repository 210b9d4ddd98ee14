import QueryNav.Uri.Ip

/-! Document addresses. An address has a scheme, possibly an authority behind two slashes, a path, and
possibly a query and a fragment. A path that starts with a slash is a list of segments; one that does
not is only a text. The text of an address is its one spelling, and two addresses are the same document
exactly if their texts are equal. -/

namespace QueryNav

/-- Who asks for a document. Either part may be empty. -/
structure Uri.Login where
  name : Text
  secret : Text
  deriving DecidableEq, Repr

/-- The machine that holds a document. -/
inductive Uri.Host where
  /-- A name, which is empty if no machine is named. -/
  | name (text : Text)
  | v4 (address : Nat)
  | v6 (groups : List Nat)
  deriving DecidableEq, Repr

/-- The part of an address behind the two slashes. The port is left out if it is the usual one. -/
structure Uri.Authority where
  login : Uri.Login
  host : Uri.Host
  port? : Option Nat
  deriving DecidableEq, Repr

inductive Uri.Route where
  /-- A path without a slash in front, which has no segments. -/
  | bare (text : Text)
  /-- The segments of a path, each with a slash in front of it. -/
  | segments (names : List Text)
  deriving DecidableEq, Repr

/-- The address of a document. Its parts are kept as they are written, percent-encoded. -/
structure Uri where
  scheme : Text
  authority? : Option Uri.Authority
  route : Uri.Route
  query? : Option Text
  fragment? : Option Text
  deriving DecidableEq, Repr

namespace Uri

def Login.anyone : Login := ⟨[], []⟩

/-- The text of a login, with the sign behind it if there is anything in front of that sign. -/
def Login.text (login : Login) : Text :=
  if login = .anyone then []
  else login.name ++ (if login.secret = [] then [] else ':' :: login.secret) ++ ['@']

def Host.text : Host → Text
  | .name text => text
  | .v4 address => Ip4.text address
  | .v6 groups => '[' :: Ip6.text groups ++ [']']

def Authority.ofHost (host : Host) : Authority := ⟨.anyone, host, none⟩

/-- The text of an authority, the two slashes included. -/
def Authority.text (authority : Authority) : Text :=
  '/' :: '/' :: authority.login.text ++ authority.host.text ++
    match authority.port? with
    | some port => ':' :: Nat.toDigits 10 port
    | none => []

def Route.text : Route → Text
  | .bare text => text
  | .segments names => names.flatMap fun name => '/' :: name

/-- What keeps a path that starts with two slashes from being read as an authority. -/
def shield (authority? : Option Authority) (route : Route) : Text :=
  match authority?, route with
  | none, .segments ([] :: _ :: _) => ['/', '.']
  | _, _ => []

/-- A part of an address behind its mark, if it is there. -/
def marked (mark : Char) : Option Text → Text
  | some text => mark :: text
  | none => []

def text (uri : Uri) : Text :=
  uri.scheme ++ ':' :: (uri.authority?.map Authority.text).getD [] ++ shield uri.authority? uri.route ++
    uri.route.text ++ marked '?' uri.query? ++ marked '#' uri.fragment?

end Uri

end QueryNav
