import Invalidation.HostName
import Invalidation.Target.Address
import Invalidation.Text.Digit

/-!
# Request targets

A target is taken apart into scheme, authority, path, query and fragment; what query and fragment
say only matters to a redirect. A target that names both a scheme and a host is absolute, and its
scheme and host must be ones that are served. Of any other target only path and query count, without
the slashes in front. The path that is looked up starts with a slash, has its segments `.` and `..`
resolved and its percent escapes decoded.

Source: the requests for `/health` and `/cache/journal`, as a `TestClient` sends them. Schemes of
web sockets are not modelled.
-/

set_option autoImplicit false

namespace Invalidation

structure Target where
  scheme : List Char
  /-- What stands in front of the last `@` of the authority. -/
  user : List Char
  host : List Char
  /-- What follows the host. -/
  port : List Char
  path : List Char
  query : List Char
  fragment : List Char
  deriving DecidableEq, Repr

inductive TargetDefect where
  | tooLong
  /-- A control character of ASCII stands at the position. -/
  | control (c : Char) (position : Nat)
  /-- A host looks like a dotted address and is none. -/
  | notDotted (host : String)
  /-- A host stands in brackets and is no address of groups. -/
  | notBracketed (host : String)
  | notPort (port : String)
  | startsWithSlashes
  | startsWithColon
  /-- A host beyond ASCII cannot be written in ASCII. -/
  | notName (host : String)
  /-- The path of a target that is not absolute is too long once it is escaped. -/
  | pathTooLong
  | queryTooLong
  /-- The zone of an absolute target's host has characters beyond ASCII, the first of them at the
  position. -/
  | notAscii (row : List Nat) (position : Nat)
  /-- An absolute target has a scheme that is not served. -/
  | notServed (scheme : String)
  /-- The host of an absolute target starts with a coded form and has a defect. -/
  | badHost (defect : HostName.Defect)
  /-- The brackets of an absolute target's host are closed too early, in front of something that is
  no port. -/
  | closedEarly
  /-- What the brackets of an absolute target's host hold, up to the first that closes, is no
  address. -/
  | notAddress (host : String)
  /-- A redirect leads to a target with a defect. -/
  | badLocation (defect : TargetDefect)
  /-- A redirect keeps a fragment with a control character of ASCII at the position. -/
  | fragmentControl (c : Char) (position : Nat)
  deriving DecidableEq, Repr

namespace TargetDefect

def rowText (row : List Nat) (position : Nat) : String :=
  match row with
  | [point] =>
    "character '" ++ String.ofList (Text.codeEscape point) ++ "' in position " ++ toString position
  | _ =>
    "characters in position " ++ toString position ++ "-" ++ toString (position + row.length - 1)

def controlText (place : String) (c : Char) (position : Nat) : String :=
  "Invalid non-printable ASCII character in " ++ place ++ ", " ++ Text.quoted c.toString ++
    " at position " ++ toString position ++ "."

def message : TargetDefect → String
  | tooLong => "URL too long"
  | control c position => controlText "URL" c position
  | notDotted host => "Invalid IPv4 address: " ++ Text.quoted host
  | notBracketed host => "Invalid IPv6 address: " ++ Text.quoted host
  | notPort port => "Invalid port: " ++ Text.quoted port
  | startsWithSlashes => "Relative URLs cannot have a path starting with '//'"
  | startsWithColon => "Relative URLs cannot have a path starting with ':'"
  | notName host => "Invalid IDNA hostname: " ++ Text.quoted host
  | pathTooLong => "URL component 'path' too long"
  | queryTooLong => "URL component 'query' too long"
  | notAscii row position =>
    "'ascii' codec can't encode " ++ rowText row position ++ ": ordinal not in range(128)"
  | notServed scheme => "scheme is not served: " ++ Text.quoted scheme
  | badHost defect => defect.message
  | closedEarly => "Invalid IPv6 URL"
  | notAddress host => Text.quoted host ++ " does not appear to be an IPv4 or IPv6 address"
  | badLocation defect => "Invalid URL in location header: " ++ defect.message ++ "."
  | fragmentControl c position => controlText "URL fragment component" c position

end TargetDefect

namespace Target

def lengthLimit : Nat := 65536

def isControl (c : Char) : Bool := c.toNat < 0x20 || c.toNat == 0x7F

def control? (cs : List Char) : Option (Char × Nat) :=
  (cs.find? isControl).map fun c => (c, (cs.takeWhile fun c => !isControl c).length)

def isSchemeChar (c : Char) : Bool :=
  c.isAlphanum || c == '+' || c == '-' || c == '.'

/-- A scheme and what follows its colon. A scheme starts with a letter, if it is not empty. -/
def splitScheme (cs : List Char) : List Char × List Char :=
  let name := cs.takeWhile isSchemeChar
  match cs.dropWhile isSchemeChar with
  | ':' :: rest => if name.head?.all Char.isAlpha then (name, rest) else ([], cs)
  | _ => ([], cs)

def endsAuthority (c : Char) : Bool := c == '/' || c == '?' || c == '#'

/-- An authority, which two slashes introduce, and what follows it. -/
def splitAuthority : List Char → List Char × List Char
  | '/' :: '/' :: rest =>
    (rest.takeWhile fun c => !endsAuthority c, rest.dropWhile fun c => !endsAuthority c)
  | cs => ([], cs)

/-- The text up to the last occurrence of a character and the text behind it, if it occurs. -/
def splitLast? (c : Char) (cs : List Char) : Option (List Char × List Char) :=
  if cs.contains c then
    let behind := (cs.reverse.takeWhile (· != c)).reverse
    some (cs.take (cs.length - behind.length - 1), behind)
  else none

/-- A host and what follows it. Brackets reach up to the last one, and any other host up to a
colon. -/
def splitHost (cs : List Char) : List Char × List Char :=
  match cs.head? == some '[', splitLast? ']' cs with
  | true, some (front, behind) => (front ++ [']'], behind)
  | _, _ => (cs.takeWhile (· != ':'), cs.dropWhile (· != ':'))

def ofChars (cs : List Char) : Target :=
  let (scheme, rest) := splitScheme cs
  let (authority, rest) := splitAuthority rest
  let (user, rest') := (splitLast? '@' authority).getD ([], authority)
  let (host, port) := splitHost rest'
  let main := rest.takeWhile (· != '#')
  { scheme := scheme.map Char.toLower
    user := user
    host := host
    port := if port.head? == some ':' then port.tail else port
    path := main.takeWhile (· != '?')
    query := (main.dropWhile (· != '?')).tail
    fragment := (rest.dropWhile (· != '#')).tail }

/-- Whether a text is a port: a number in the decimal digits of any script, perhaps with blanks
around it, a sign in front and underscores between its digits. -/
def isPort (port : List Char) : Bool :=
  let cs := Text.trim port
  let digits := if cs.head? == some '-' || cs.head? == some '+' then cs.tail else cs
  let row := digits.filter (· != '_')
  Text.spaced digits && row.all (fun c => (Text.digit? c).isSome) &&
    row.length ≤ Text.numeralLimit

def isInBrackets (host : List Char) : Bool :=
  host.head? == some '[' && 1 < host.length && host.getLast? == some ']'

def isAscii (cs : List Char) : Bool := cs.all fun c => c.toNat < 0x80

def hostDefect? (host : List Char) : Option TargetDefect :=
  if looksDotted host then
    if isDotted host then none else some (.notDotted (String.ofList host))
  else if isInBrackets host then
    if isBracketed host.tail.dropLast then none else some (.notBracketed (String.ofList host))
  else if isAscii host || (HostName.ascii? host).isSome then none
  else some (.notName (String.ofList host))

def standsAlone (target : Target) : Bool :=
  target.scheme.isEmpty && target.user.isEmpty && target.host.isEmpty && target.port.isEmpty

def isAbsolute (target : Target) : Bool := !target.scheme.isEmpty && !target.host.isEmpty

def pathDefect? : List Char → Option TargetDefect
  | '/' :: '/' :: _ => some .startsWithSlashes
  | ':' :: _ => some .startsWithColon
  | _ => none

/-- The characters of ASCII that are escaped in a query. -/
def queryEscapes : List Char := [' ', '"', '#', '<', '>']

/-- The characters of ASCII that are escaped in a path. -/
def pathEscapes : List Char := queryEscapes ++ ['?', '\x60', '\x7b', '\x7d']

/-- How long a text is once the characters and those beyond ASCII are escaped, three for each
byte. -/
def escapedLength (escapes : List Char) (cs : List Char) : Nat :=
  let size := fun c : Char =>
    if c.toNat < 0x80 && !escapes.contains c then 1 else 3 * c.utf8Size
  cs.foldl (fun length c => length + size c) 0

def defect? (target : Target) : Option TargetDefect :=
  (hostDefect? target.host)
    |>.or (if target.port.isEmpty || isPort target.port then none
      else some (.notPort (String.ofList target.port)))
    |>.or (if target.standsAlone then pathDefect? target.path else none)

/-- Resolves the segments `.` and `..`; the list of segments kept so far is given last first. -/
def resolveFrom (kept : List (List Char)) : List (List Char) → List (List Char)
  | [] => kept.reverse
  | ['.'] :: rest => resolveFrom kept rest
  | ['.', '.'] :: rest => resolveFrom (if kept = [[]] then kept else kept.tail) rest
  | segment :: rest => resolveFrom (segment :: kept) rest

def resolve (path : List Char) : List Char := ['/'].intercalate (resolveFrom [] (path.splitOn '/'))

/-- The path of a target that is not absolute, without the slashes in front. One that does not stand
alone is resolved before they go. -/
def relativePath (target : Target) : List Char :=
  (if target.standsAlone then target.path else resolve target.path).dropWhile (· == '/')

/-- The path of a target, with its escapes as they are. -/
def location (target : Target) : List Char :=
  if target.isAbsolute then resolve target.path else resolve ('/' :: target.relativePath)

/-- What is too long in a target that is not absolute, if anything is. -/
def excess? (target : Target) : Option TargetDefect :=
  if target.isAbsolute then none
  else if lengthLimit ≤ escapedLength pathEscapes target.relativePath then some .pathTooLong
  else if lengthLimit < escapedLength queryEscapes target.query then some .queryTooLong
  else none

def read (text : String) : Except TargetDefect Target :=
  let cs := text.toList
  if lengthLimit < cs.length then .error .tooLong
  else
    match control? cs with
    | some (c, position) => .error (.control c position)
    | none =>
      let target := ofChars cs
      match target.defect?.or target.excess? with
      | some defect => .error defect
      | none => .ok target

def servedSchemes : List String := ["http", "https"]

/-- The characters of ASCII that are escaped in a host. -/
def hostEscapes : List Char := [' ', '<', '>', '[', ']', '^']

/-- A host in ASCII as it is looked at: in lower case, and with its escapes. -/
def hostText (host : List Char) : List Char :=
  host.flatMap fun c =>
    if hostEscapes.contains c then '%' :: Text.hex 2 c.toNat else [c.toLower]

/-- The first row of characters beyond ASCII in a text, as a defect. -/
def asciiDefect? (cs : List Char) : Option TargetDefect :=
  let front := cs.takeWhile fun c => c.toNat < 0x80
  let row := (cs.drop front.length).takeWhile fun c => !(c.toNat < 0x80)
  if row.isEmpty then none else some (.notAscii (row.map Char.toNat) front.length)

/-- What is wrong with a host in brackets where the first bracket that closes counts. -/
def bracketDefect? (host : List Char) : Option TargetDefect :=
  let inside := host.tail.takeWhile (· != ']')
  let behind := (host.tail.dropWhile (· != ']')).tail
  if behind.head?.any (· != ':') then some .closedEarly
  else if isBracketed inside then none
  else some (.notAddress (String.ofList inside))

/-- What keeps an absolute target from being served, if anything does. -/
def absoluteDefect? (target : Target) : Option TargetDefect :=
  (if isInBrackets target.host then asciiDefect? target.host else none)
    |>.or (if isAscii target.host then
      (HostName.codedDefect? (hostText target.host)).map .badHost else none)
    |>.or (if servedSchemes.contains (String.ofList target.scheme) then none
      else some (.notServed (String.ofList target.scheme)))
    |>.or (if isInBrackets target.host then bracketDefect? target.host else none)

/-- Whether a target is served; only an absolute one may not be. -/
def ensureServed (target : Target) : Except TargetDefect Unit :=
  match if target.isAbsolute then target.absoluteDefect? else none with
  | some defect => .error defect
  | none => .ok ()

/-- The path that is looked up for a target. Escapes are decoded twice: once where the target is
taken apart and once where the path is looked up. -/
def lookupPath (target : Target) : String :=
  let location := target.location
  String.ofList (Text.unescape (Text.unescape (if location.isEmpty then ['/'] else location)))

def withoutSlashes (path : String) : String :=
  String.ofList (path.toList.reverse.dropWhile (· == '/')).reverse

/-- A path without the line break at its end, if there is one. -/
def withoutBreak (path : String) : String :=
  if path.toList.getLast? == some '\n' then String.ofList path.toList.dropLast else path

end Target

end Invalidation
