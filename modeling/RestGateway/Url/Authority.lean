import RestGateway.Url.Host

/-!
# Reading the authority of a URL

The text between the two slashes and the path: the part before its last at sign names a user, and
the part behind the first colon outside of brackets is a port. An authority is accepted only when
its own text is read as the same authority again, so that it survives being written out.
-/
namespace RestGateway.Url
open Text

def usualPort? (scheme : List Char) : Option Nat :=
  [("http".toList, 80), ("https".toList, 443), ("ws".toList, 80), ("wss".toList, 443),
    ("ftp".toList, 21)].lookup scheme

def isWebScheme (scheme : List Char) : Bool := (usualPort? scheme).isSome

def isUserChar (c : Char) : Bool :=
  0x20 < c.toNat && c.toNat < 0x7F &&
    !(['"', '<', '>', '\x60', '#', '?', '\x7b', '\x7d', '/', ':', ';', '=', '@', '[', '\\', ']',
      '^', '|'].contains c)

def splitUser (cs : List Char) : Option (List Char) × List Char :=
  let host := (cs.reverse.takeWhile (· != '@')).reverse
  if cs.contains '@' then (some (cs.take (cs.length - host.length - 1)), host) else (none, cs)

/-- The host and what follows it, from the first colon outside of brackets on. -/
def splitHost : (bracket : Bool) → List Char → List Char × List Char
  | _, [] => ([], [])
  | bracket, c :: rest =>
    if c = ':' ∧ ¬bracket then ([], c :: rest)
    else
      let bracket := c = '[' || (c != ']' && bracket)
      let (host, port) := splitHost bracket rest
      (c :: host, port)

/-- The port, if it is given and not the usual one, and what is left of the text. -/
def readPort (scheme : List Char) : List Char → Except Error (Option Nat × List Char)
  | ':' :: rest =>
    let digits := rest.takeWhile isDigit
    let left := rest.dropWhile isDigit
    let port := decimalValue digits
    if 65535 < port then .error .invalidPort
    else if left.isEmpty || (left.head? == some '\\' && !isWebScheme scheme) then
      .ok (if digits.isEmpty || usualPort? scheme == some port then none else some port, left)
    else .error .invalidPort
  | rest => .ok (none, rest)

def interpretAuthority (scheme : List Char) (atEnd : Bool) (cs : List Char) :
    Except Error (Authority × List Char) := do
  let (user, hostAndPort) := splitUser cs
  if user = some [] ∧ hostAndPort = [] ∧ ¬atEnd then throw .emptyHost
  let user := user.getD []
  let username := Percent.encode isUserChar (user.takeWhile (· != ':'))
  let password := Percent.encode isUserChar ((user.dropWhile (· != ':')).drop 1)
  let (host, portText) := splitHost false hostAndPort
  if isWebScheme scheme ∧ host = [] then throw .emptyHost
  let host ← if isWebScheme scheme then webHost host else plainHost host
  if host = [] ∧ ¬(portText = [] ∧ username = [] ∧ password = []) then throw .emptyHost
  let (port, left) ← readPort scheme portText
  return (⟨username, password, host, port⟩, left)

def endsAuthority (scheme : List Char) (c : Char) : Bool :=
  c = '/' || c = '?' || c = '#' || (c = '\\' && isWebScheme scheme)

/-- Whether the text of an authority is read as the same authority. -/
def isStable (scheme : List Char) (a : Authority) : Bool :=
  a.text.all (fun c => 0x20 < c.toNat && !endsAuthority scheme c) &&
    match interpretAuthority scheme true a.text with
    | .ok (again, left) => again = a && left.isEmpty
    | .error _ => false

def readAuthority (scheme : List Char) (cs : List Char) : Except Error (Authority × List Char) := do
  let rest := cs.dropWhile (! endsAuthority scheme ·)
  let (a, left) ← interpretAuthority scheme rest.isEmpty (cs.takeWhile (! endsAuthority scheme ·))
  if isStable scheme a then return (a, left ++ rest) else throw .invalidDomain

end RestGateway.Url
