import Invalidation.Target

/-!
# Redirects

A path with slashes behind the path of a page is redirected to the page. The redirect names the host
and port of its target and keeps the query, and whoever follows it has to be able to read it as a
target. A fragment is carried along by an absolute target.

Source: the redirect of a path with slashes behind it, as a `TestClient` follows it.
-/

set_option autoImplicit false

namespace Invalidation.Target

/-- The value of a port, which is a number in the decimal digits of any script. -/
def portNumber (port : List Char) : Int :=
  let cs := Text.trim port
  let size := (cs.filterMap Text.digit?).foldl (fun (n : Nat) digit => 10 * n + digit) 0
  if cs.head? == some '-' then -(size : Int) else size

/-- The port of a scheme, unless another one is named. -/
def usualPort (scheme : List Char) : Int := if scheme == "https".toList then 443 else 80

def hostForm (host : List Char) : List Char :=
  if isInBrackets host then host
  else if isAscii host then hostText host
  else (HostName.ascii? host).getD host

/-- The host of a target that is not absolute. -/
def homeHost : List Char := "testserver".toList

/-- Scheme, host and port as a redirect of a target names them. -/
def origin (target : Target) : List Char :=
  if target.isAbsolute then
    let port :=
      if target.port.isEmpty || portNumber target.port == usualPort target.scheme then []
      else ':' :: (toString (portNumber target.port)).toList
    target.scheme ++ "://".toList ++ hostForm target.host ++ port
  else "http://".toList ++ homeHost

def queryText (target : Target) : List Char :=
  Text.escape (fun c => c.toNat < 0x80 && !queryEscapes.contains c) target.query

/-- Whether a character is written as it is in a redirect. -/
def isKeptInRedirect (c : Char) : Bool := c.isAlphanum || "_.-~:/%#?=@[]!$&\x27()*+,;".contains c

/-- Where a target with slashes behind its path is redirected to. -/
def redirection (target : Target) : String :=
  let query := target.queryText
  String.ofList <| Text.escape isKeptInRedirect <|
    target.origin ++ (withoutSlashes target.lookupPath).toList ++
      if query.isEmpty then [] else '?' :: query

/-- What keeps a redirect of a target from being followed, if anything does. -/
def redirectDefect? (target : Target) : Option TargetDefect :=
  match read target.redirection with
  | .error defect => some (.badLocation defect)
  | .ok _ =>
    if target.isAbsolute then
      (control? (Text.unescape target.fragment)).map fun (c, position) =>
        .fragmentControl c position
    else none

end Invalidation.Target
