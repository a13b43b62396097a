import SchemaLint.Http.HostName
import SchemaLint.Number.Spelled
import SchemaLint.Text.Quoted
import SchemaLint.Uri.Basic
import SchemaLint.Uri.Percent

/-!
# Addresses

An address is what a request is sent to: a URL whose parts have one canonical spelling.  Scheme and host are in lower
case, the usual port of a scheme is left out, dots in the path are carried out, and every character that a part may not
hold is escaped.  Two spellings of one place thus become one address, while an escape that is there already is kept as
it is written.
-/

namespace SchemaLint

namespace Http

/-- The parts of an address. -/
structure Address where
  scheme : List Char
  user : List Char
  host : List Char
  port : Option Int
  path : List Char
  query : Option (List Char)
  fragment : Option (List Char)
  deriving DecidableEq

/-- Why a text is no address. -/
inductive AddressFault
  | tooLong
  | unprintable (c : Char) (offset : Nat)
  | badAddress4 (host : List Char)
  | badAddress6 (host : List Char)
  | badHost (host : List Char)
  | badPort (port : List Char)
  | unrootedPath
  | doubleSlash
  | leadingColon
  deriving DecidableEq

namespace AddressFault

def message : AddressFault → String
  | tooLong => "URL too long"
  | unprintable c offset =>
    let shown := quoted (String.singleton c)
    s!"Invalid non-printable ASCII character in URL, {shown} at position {offset}."
  | badAddress4 host =>
    let shown := quoted (String.ofList host)
    s!"Invalid IPv4 address: {shown}"
  | badAddress6 host =>
    let shown := quoted (String.ofList host)
    s!"Invalid IPv6 address: {shown}"
  | badHost host =>
    let shown := quoted (String.ofList host)
    s!"Invalid IDNA hostname: {shown}"
  | badPort port =>
    let shown := quoted (String.ofList port)
    s!"Invalid port: {shown}"
  | unrootedPath => "For absolute URLs, path must be empty or begin with '/'"
  | doubleSlash => "Relative URLs cannot have a path starting with '//'"
  | leadingColon => "Relative URLs cannot have a path starting with ':'"

end AddressFault

namespace Address

/-- The number of characters that an address may have. -/
def lengthLimit : Nat := 65536

/-! ## Escaping -/

/-- The printable ASCII characters. -/
def isPrintable (c : Char) : Bool :=
  0x20 ≤ c.toNat && c.toNat < 0x7F

/-- The characters that stay as they are in a fragment. -/
def fitsFragment (c : Char) : Bool :=
  isPrintable c && !(" \"<>`".toList.contains c)

/-- The characters that stay as they are in a query. -/
def fitsQuery (c : Char) : Bool :=
  isPrintable c && !(" \"#<>".toList.contains c)

/-- The characters that stay as they are in a path. -/
def fitsPath (c : Char) : Bool :=
  fitsQuery c && !("?`\x7b\x7d".toList.contains c)

/-- The characters that stay as they are in front of a host. -/
def fitsUser (c : Char) : Bool :=
  fitsPath c && !("/;=@[\\]^|".toList.contains c)

/-- The characters that stay as they are in a host. -/
def fitsHost (c : Char) : Bool :=
  c.isAlphanum || "-._~!$&'()*+,;=\"`\x7b\x7d%|\\".toList.contains c

/-- A text in which every character that does not fit is escaped byte by byte. -/
def escaped (fits : Char → Bool) (cs : List Char) : List Char :=
  cs.flatMap fun c => if fits c then [c] else (String.utf8EncodeChar c).flatMap Percent.escape

/-! ## Reading -/

/-- A text without its part behind the last place of a character, if it stands anywhere, and that part. -/
def cutLast? (c : Char) (cs : List Char) : Option (List Char × List Char) :=
  (Uri.cutAt? c cs.reverse).map fun (tail, head) => (head.reverse, tail.reverse)

/-- The host at the start of an authority: it is in brackets or ends before a colon. -/
def cutHost (cs : List Char) : List Char × List Char :=
  let plain := (cs.takeWhile (· != ':'), cs.dropWhile (· != ':'))
  match cs with
  | '[' :: _ =>
    match cutLast? ']' cs with
    | some (host, rest) => (host ++ [']'], rest)
    | none => plain
  | _ => plain

/-- Whether a host is a row of numbers with a character of any kind between each two of them. -/
def isNumbers : Nat → List Char → Bool
  | 0, cs => !cs.isEmpty && cs.all Char.isDigit
  | n + 1, cs =>
    (List.range cs.length).any fun k =>
      0 < k && (cs.take k).all Char.isDigit && isNumbers n (cs.drop (k + 1))

/-- The canonical spelling of a host. -/
def hostOf (host : List Char) : Except AddressFault (List Char) :=
  if host.isEmpty then .ok []
  else if isNumbers 3 host then
    if Uri.isAddress4 host then .ok host else .error (.badAddress4 host)
  else if host.head? = some '[' && host.getLast? = some ']' then
    let inner := (host.drop 1).dropLast
    if Uri.isAddress6 inner then .ok inner else .error (.badAddress6 host)
  else if host.all HostName.isAscii then .ok (escaped fitsHost (host.map Char.toLower))
  else
    match HostName.sent? host with
    | some sent => .ok sent
    | none => .error (.badHost host)

def usualPort? (scheme : String) : Option Int :=
  [("ftp", 21), ("http", 80), ("https", 443), ("ws", 80), ("wss", 443)].lookup scheme

/-- The port of an address, unless it is the one that the scheme has anyway. -/
def portOf (scheme port : List Char) : Except AddressFault (Option Int) :=
  if port.isEmpty then .ok none
  else
    match Spelled.integer? port with
    | none => .error (.badPort port)
    | some n => .ok (if usualPort? (String.ofList scheme) = some n then none else some n)

/-- Segments with dots carried out; two dots at the root stay there. -/
def resolveDots (seen : List (List Char)) : List (List Char) → List (List Char)
  | [] => seen.reverse
  | s :: rest =>
    if s = ['.'] then resolveDots seen rest
    else if s = ['.', '.'] then resolveDots (if seen = [[]] then seen else seen.tail) rest
    else resolveDots (s :: seen) rest

/-- A path with dots carried out. -/
def pathOf (path : List Char) : List Char :=
  let segments := splitChars '/' path
  if segments.contains ['.'] || segments.contains ['.', '.'] then Uri.joinSegments (resolveDots [] segments) else path

/-- What is wrong with a path behind what stands before it. -/
def pathFault? (hasScheme hasAuthority : Bool) (path : List Char) : Option AddressFault :=
  if hasAuthority then
    if !path.isEmpty && path.head? != some '/' then some .unrootedPath else none
  else if hasScheme then none
  else if ['/', '/'].isPrefixOf path then some .doubleSlash
  else if path.head? = some ':' then some .leadingColon
  else none

/-- Cut a scheme off, which begins with a letter and ends at a colon. -/
def cutScheme (cs : List Char) : List Char × List Char :=
  match Uri.cutAt? ':' cs with
  | some ([], rest) => ([], rest)
  | some (c :: scheme, rest) =>
    if c.isAlpha && scheme.all Uri.isSchemeChar then (c :: scheme, rest) else ([], cs)
  | none => ([], cs)

/-- An address from its parts as they are written. -/
def ofParts (scheme authority path : List Char) (query fragment : Option (List Char)) :
    Except AddressFault Address := do
  let (user, rest) := (cutLast? '@' authority).getD ([], authority)
  let (written, rest) := cutHost rest
  let port := if rest.head? = some ':' then rest.tail else rest
  let user := escaped fitsUser user
  let host ← hostOf written
  let port ← portOf scheme port
  let hasScheme := !scheme.isEmpty
  let hasAuthority := !user.isEmpty || !host.isEmpty || port.isSome
  match pathFault? hasScheme hasAuthority path with
  | some fault => throw fault
  | none =>
    let path := if hasScheme || hasAuthority then pathOf path else path
    return { scheme := scheme.map Char.toLower, user, host, port, path := escaped fitsPath path
             query := query.map (escaped fitsQuery), fragment := fragment.map (escaped fitsFragment) }

/-- The part of a text before a character, and what follows it, if it stands anywhere. -/
def cutOptional (c : Char) (cs : List Char) : List Char × Option (List Char) :=
  match Uri.cutAt? c cs with
  | some (head, tail) => (head, some tail)
  | none => (cs, none)

/-- The first control character of a text, with its place. -/
def control? (cs : List Char) : Option (Char × Nat) :=
  (cs.zipIdx).find? fun (c, _) => c.toNat < 0x20 || c.toNat = 0x7F

def read (cs : List Char) : Except AddressFault Address :=
  if lengthLimit < cs.length then .error .tooLong
  else
    match control? cs with
    | some (c, offset) => .error (.unprintable c offset)
    | none =>
      let (scheme, rest) := cutScheme cs
      let (authority, rest) := Uri.cutAuthority rest
      let (rest, fragment) := cutOptional '#' rest
      let (path, query) := cutOptional '?' rest
      ofParts scheme authority path query fragment

/-! ## Writing -/

/-- What stands between the two slashes and the path. -/
def authority (a : Address) : List Char :=
  let user := if a.user.isEmpty then [] else a.user ++ ['@']
  let host := if a.host.contains ':' then '[' :: a.host ++ [']'] else a.host
  let port := (a.port.map fun n => ':' :: (toString n).toList).getD []
  user ++ host ++ port

def chars (a : Address) : List Char :=
  let scheme := if a.scheme.isEmpty then [] else a.scheme ++ [':']
  let authority := if a.authority.isEmpty then [] else '/' :: '/' :: a.authority
  let query := (a.query.map fun q => '?' :: q).getD []
  let fragment := (a.fragment.map fun f => '#' :: f).getD []
  scheme ++ authority ++ a.path ++ query ++ fragment

def text (a : Address) : String :=
  String.ofList a.chars

/-! ## Where a request goes -/

/-- Whether an address says by itself where it is. -/
def isAbsolute (a : Address) : Bool :=
  !a.scheme.isEmpty && !a.host.isEmpty

/-- The address of a request: one that does not say where it is loses all but its path and query. -/
def ofRequest (url : String) : Except AddressFault Address := do
  let a ← read url.toList
  if a.isAbsolute then return a
  ofParts [] [] ('/' :: a.path.dropWhile (· = '/')) a.query none

def withHost (a : Address) (host : List Char) : Except AddressFault Address :=
  let host := if host.contains ':' then '[' :: host ++ [']'] else host
  let user := if a.user.isEmpty then [] else a.user ++ ['@']
  let port := (a.port.map fun n => ':' :: (toString n).toList).getD []
  ofParts a.scheme (user ++ host ++ port) a.path a.query a.fragment

/-- The address that one answered from an address leads to. -/
def follow (a : Address) (location : Address) : Except AddressFault Address := do
  let next ←
    if !location.scheme.isEmpty && location.host.isEmpty then location.withHost a.host else pure location
  let next ←
    if next.isAbsolute then pure next
    else read ((Uri.join? a.chars next.chars).getD next.chars)
  match a.fragment with
  | some (c :: fragment) =>
    if (next.fragment.getD []).isEmpty then return { next with fragment := some (c :: fragment) } else return next
  | _ => return next

end Address

end Http

end SchemaLint
