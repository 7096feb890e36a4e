import RestGateway.Form

/-!
# URLs

The parts of a URL, in their encoded form, and the text they make together. Two URLs lead to the
same server when they agree on the scheme and the authority.
-/
namespace RestGateway

namespace Url

/-- Who is asked: a host, with the name and the password of a user and a port where they are given
and the port is not the usual one of the scheme. -/
structure Authority where
  username : List Char
  password : List Char
  host : List Char
  port : Option Nat
  deriving DecidableEq, Repr

/-- What is asked for: a list of segments, each of them after a slash, or a text without
structure. -/
inductive Path where
  | segments (segments : List (List Char))
  | rootless (text : List Char)
  deriving DecidableEq, Repr

inductive Error where
  | noScheme
  | emptyHost
  | invalidPort
  | invalidIpv4
  | invalidIpv6
  | invalidDomain
  | invalidHostCharacter
  deriving DecidableEq, Repr

def Error.message : Error → String
  | noScheme => "relative URL without a base"
  | emptyHost => "empty host"
  | invalidPort => "invalid port number"
  | invalidIpv4 => "invalid IPv4 address"
  | invalidIpv6 => "invalid IPv6 address"
  | invalidDomain => "invalid international domain name"
  | invalidHostCharacter => "invalid domain character"

def Error.shown : Error → String
  | noScheme => "RelativeUrlWithoutBase"
  | emptyHost => "EmptyHost"
  | invalidPort => "InvalidPort"
  | invalidIpv4 => "InvalidIpv4Address"
  | invalidIpv6 => "InvalidIpv6Address"
  | invalidDomain => "IdnaError"
  | invalidHostCharacter => "InvalidDomainCharacter"

namespace Authority

def hasUser (a : Authority) : Bool := !a.username.isEmpty || !a.password.isEmpty

def userText (a : Authority) : List Char :=
  if a.hasUser then
    a.username ++ (if a.password.isEmpty then [] else ':' :: a.password) ++ ['@']
  else []

def portText (a : Authority) : List Char :=
  match a.port with
  | some port => ':' :: Nat.toDigits 10 port
  | none => []

def text (a : Authority) : List Char := a.userText ++ a.host ++ a.portText

end Authority

def Path.text : Path → List Char
  | segments parts => parts.flatMap ('/' :: ·)
  | rootless text => text

end Url

structure Url where
  scheme : List Char
  authority : Option Url.Authority
  path : Url.Path
  query : Option (List Char)
  fragment : Option (List Char)
  deriving DecidableEq, Repr

namespace Url

def optionText (mark : Char) : Option (List Char) → List Char
  | some part => mark :: part
  | none => []

/-- What stands between the scheme and the path. Without an authority a path that starts with two
slashes needs a mark in front of it. -/
def authorityText (u : Url) : List Char :=
  match u.authority with
  | some a => '/' :: '/' :: a.text
  | none => if ['/', '/'].isPrefixOf u.path.text then ['/', '.'] else []

def chars (u : Url) : List Char :=
  u.scheme ++ ':' :: (u.authorityText ++ u.path.text ++ optionText '?' u.query ++
    optionText '#' u.fragment)

def text (u : Url) : String := String.ofList u.chars

def pathText (u : Url) : String := String.ofList u.path.text

def withPairs (u : Url) (pairs : List (String × String)) : Url :=
  if pairs.isEmpty then u
  else
    match u.query with
    | none => { u with query := some (Form.query pairs) }
    | some [] => { u with query := some (Form.query pairs) }
    | some query => { u with query := some (query ++ '&' :: Form.query pairs) }

def withoutUser (u : Url) : Url :=
  { u with authority := u.authority.map fun a => { a with username := [], password := [] } }

end Url

end RestGateway
