import TokenChain.Text.FormEncoded

/-! # Addresses of endpoints

A `Url` in its parts, each of them already in the form in which it is written. The path of a
hierarchical address is a list of segments, as in `/a/b/` with the segments `a`, `b` and an empty
one; an opaque path, as in `mailto:someone`, is a text of its own and has nothing to resolve a
reference against. -/

namespace TokenChain

/-- The path of an address. -/
inductive Url.Path where
  | opaque_ (text : String)
  | segments (names : List String)
deriving DecidableEq, Repr, Inhabited

/-- An address. -/
structure Url where
  scheme : String
  username : String
  password : String
  host : Option String
  port : Option Nat
  path : Url.Path
  query : Option String
  fragment : Option String
deriving DecidableEq, Repr, Inhabited

/-- Why a text is no address. -/
inductive UrlError where
  | emptyHost
  | invalidDomainName
  | invalidPort
  | invalidIpv4
  | invalidIpv6
  | invalidDomainCharacter
  | relativeWithoutBase
  | relativeWithOpaqueBase
deriving DecidableEq, Repr, Inhabited

/-- The text of an error. -/
def UrlError.message : UrlError → String
  | emptyHost => "empty host"
  | invalidDomainName => "invalid international domain name"
  | invalidPort => "invalid port number"
  | invalidIpv4 => "invalid IPv4 address"
  | invalidIpv6 => "invalid IPv6 address"
  | invalidDomainCharacter => "invalid domain character"
  | relativeWithoutBase => "relative URL without a base"
  | relativeWithOpaqueBase => "relative URL with a cannot-be-a-base base"

namespace Url

/-- The schemes whose addresses always have a host and a path. -/
def isSpecial (scheme : String) : Bool :=
  scheme == "http" || scheme == "https" || scheme == "ws" || scheme == "wss" || scheme == "ftp"
    || scheme == "file"

/-- The port that a scheme takes if none is written. -/
def defaultPort? (scheme : String) : Option Nat :=
  if scheme == "http" || scheme == "ws" then some 80
  else if scheme == "https" || scheme == "wss" then some 443
  else if scheme == "ftp" then some 21
  else none

/-- User name and password in front of the host. -/
def userinfo (u : Url) : String :=
  if u.username.isEmpty && u.password.isEmpty then ""
  else u.username ++ (if u.password.isEmpty then "" else ":" ++ u.password) ++ "@"

/-- Host and port, with what introduces them. -/
def authority (u : Url) : String :=
  match u.host with
  | none => ""
  | some host => "//" ++ u.userinfo ++ host ++ ((u.port.map fun p => ":" ++ toString p).getD "")

/-- The path as it is written. A path without a host must not look like one. -/
def pathText (u : Url) : String :=
  match u.path with
  | .opaque_ text => text
  | .segments names =>
    let text := String.join (names.map ("/" ++ ·))
    if u.host.isNone && names.length > 1 && names.head? == some "" then "/." ++ text else text

/-- The address as it is written. -/
def text (u : Url) : String :=
  u.scheme ++ ":" ++ u.authority ++ u.pathText ++ ((u.query.map ("?" ++ ·)).getD "") ++
    ((u.fragment.map ("#" ++ ·)).getD "")

/-- The address with more pairs behind those of its query. -/
def addPairs (u : Url) (pairs : List (String × String)) : Url :=
  let more := Text.FormEncoded.encodePairs pairs
  let old := u.query.getD ""
  let query := if old.isEmpty || more.isEmpty then old ++ more else old ++ "&" ++ more
  { u with query := if query.isEmpty then none else some query }

end Url

end TokenChain
