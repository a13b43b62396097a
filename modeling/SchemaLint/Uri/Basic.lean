import SchemaLint.Text.Range
import SchemaLint.Text.Split

/-!
# URI references

A reference is cut into scheme, authority, path, parameters, query and fragment, can be put together again, and can be
joined to a base.  Cutting fails only for an authority that cannot be one: unbalanced or wrong brackets, or characters
that normalise to delimiters.
-/

namespace SchemaLint

/-- The parts of a reference. -/
structure Uri where
  scheme : List Char
  authority : List Char
  path : List Char
  params : List Char
  query : List Char
  fragment : List Char
  deriving DecidableEq

namespace Uri

/-! ## Cutting -/

/-- Cut at the first place where a character stands; none if it stands nowhere. -/
def cutAt? (c : Char) (cs : List Char) : Option (List Char × List Char) :=
  match cs.dropWhile (· != c) with
  | [] => none
  | _ :: rest => some (cs.takeWhile (· != c), rest)

/-- Control characters and the blank, which may not begin a reference. -/
def isControl (c : Char) : Bool :=
  c.toNat ≤ 0x20

/-- A reference without control characters at its start, tabs and line breaks. -/
def clean (cs : List Char) : List Char :=
  (cs.dropWhile isControl).filter fun c => c != '\t' && c != '\r' && c != '\n'

def isSchemeChar (c : Char) : Bool :=
  c.isAlphanum || c = '+' || c = '-' || c = '.'

/-- The scheme of a reference in lower case, and what follows its colon. -/
def cutScheme (cs : List Char) : List Char × List Char :=
  match cutAt? ':' cs with
  | some (c :: scheme, rest) =>
    if c.isAlpha && scheme.all isSchemeChar then ((c :: scheme).map Char.toLower, rest) else ([], cs)
  | _ => ([], cs)

/-- Cut off an authority, which stands behind two slashes and ends before a slash, a question mark or a hash. -/
def cutAuthority (cs : List Char) : List Char × List Char :=
  match cs with
  | '/' :: '/' :: rest =>
    let inside (c : Char) : Bool := c != '/' && c != '?' && c != '#'
    (rest.takeWhile inside, rest.dropWhile inside)
  | _ => ([], cs)

/-! ## Authorities -/

def isHex (c : Char) : Bool :=
  c.isDigit || ('a' ≤ c && c ≤ 'f') || ('A' ≤ c && c ≤ 'F')

/-- A decimal octet without a leading zero. -/
def isOctet (cs : List Char) : Bool :=
  match cs with
  | [] => false
  | ['0'] => true
  | '0' :: _ => false
  | _ => cs.length ≤ 3 && cs.all Char.isDigit && (cs.foldl (fun n c => n * 10 + (c.toNat - 48)) 0) ≤ 255

/-- An address of four octets. -/
def isAddress4 (cs : List Char) : Bool :=
  let parts := splitChars '.' cs
  parts.length = 4 && parts.all isOctet

/-- One to four hexadecimal digits. -/
def isGroup (cs : List Char) : Bool :=
  !cs.isEmpty && cs.length ≤ 4 && cs.all isHex

/-- An address of eight groups, some of which two colons may stand for. -/
def isAddress6 (cs : List Char) : Bool :=
  let (address, scopeFits) :=
    match cutAt? '%' cs with
    | some (address, scope) => (address, !scope.isEmpty && !scope.contains '%')
    | none => (cs, true)
  let written := splitChars ':' address
  let last := written.getLast?.getD []
  let lastFits := !last.contains '.' || isAddress4 last
  let parts := if last.contains '.' then written.dropLast ++ [['0'], ['0']] else written
  let inner := (parts.drop 1).dropLast
  let gaps := inner.countP List.isEmpty
  let firstEmpty := (parts.head?.getD []).isEmpty
  let lastEmpty := (parts.getLast?.getD []).isEmpty
  scopeFits && !address.contains '/' && 3 ≤ written.length && lastFits && parts.length ≤ 9 &&
    (parts.filter fun p => !p.isEmpty).all isGroup &&
    (if gaps = 0 then parts.length = 8 && !firstEmpty && !lastEmpty
     else
       let high := inner.findIdx List.isEmpty + 1
       let low := parts.length - high - 1
       let high := if firstEmpty then high - 1 else high
       let low := if lastEmpty then low - 1 else low
       gaps = 1 && (!firstEmpty || high = 0) && (!lastEmpty || low = 0) && high + low < 8)

/-- A host in brackets: an address of eight groups, or one of a later version. -/
def isBracketedHost (cs : List Char) : Bool :=
  match cs with
  | 'v' :: rest =>
    match cutAt? '.' rest with
    | some (version, address) =>
      !version.isEmpty && version.all isHex && !address.isEmpty && !address.contains '\n'
    | none => false
  | _ => isAddress6 cs

/-- The characters whose compatibility form contains a delimiter. -/
def disguises : Ranges :=
  [(0x2047, 0x2049), (0x2100, 0x2101), (0x2105, 0x2106), (0x2A74, 0x2A74), (0xFE13, 0xFE13), (0xFE16, 0xFE16),
    (0xFE55, 0xFE56), (0xFE5F, 0xFE5F), (0xFE6B, 0xFE6B), (0xFF03, 0xFF03), (0xFF0F, 0xFF0F), (0xFF1A, 0xFF1A),
    (0xFF1F, 0xFF20)]

def isAuthority (cs : List Char) : Bool :=
  (cs.contains '[') == (cs.contains ']') &&
    (!cs.contains '[' ||
      isBracketedHost (((cs.dropWhile (· != '[')).drop 1).takeWhile (· != ']'))) &&
    cs.all fun c => !disguises.contains c.toNat

/-! ## Whole references -/

/-- The schemes whose references have parameters behind the last segment of the path. -/
def withParams : List String :=
  ["", "ftp", "hdl", "prospero", "http", "imap", "https", "shttp", "rtsp", "rtspu", "sip", "sips", "mms", "sftp", "tel"]

/-- The schemes whose references have an authority. -/
def withAuthority : List String :=
  ["", "ftp", "http", "gopher", "nntp", "telnet", "imap", "wais", "file", "mms", "https", "shttp", "snews", "prospero",
    "rtsp", "rtspu", "rsync", "svn", "svn+ssh", "sftp", "nfs", "git", "git+ssh", "ws", "wss"]

/-- The schemes whose references may be relative. -/
def withRelative : List String :=
  ["", "ftp", "http", "gopher", "nntp", "imap", "wais", "file", "https", "shttp", "mms", "prospero", "rtsp", "rtspu",
    "sftp", "svn", "svn+ssh", "ws", "wss"]

/-- Cut the parameters off a path: they begin at a semicolon in its last segment. -/
def cutParams (path : List Char) : List Char × List Char :=
  let segment := (path.reverse.takeWhile (· != '/')).reverse
  match cutAt? ';' segment with
  | some (before, params) => (path.take (path.length - segment.length) ++ before, params)
  | none => (path, [])

/-- Cut a reference into its parts, given the scheme it has when it names none; parameters stay in the path. -/
def splitWhole? (scheme : List Char) (cs : List Char) : Option Uri :=
  let cs := clean cs
  let (named, rest) := cutScheme cs
  let scheme := if named.isEmpty then scheme else named
  let (authority, rest) := cutAuthority rest
  let (rest, fragment) := (cutAt? '#' rest).getD (rest, [])
  let (path, query) := (cutAt? '?' rest).getD (rest, [])
  if isAuthority authority then some { scheme, authority, path, params := [], query, fragment } else none

/-- The parameters of a reference as a part of their own, if its scheme has them. -/
def withParamsCut (u : Uri) : Uri :=
  if withParams.contains (String.ofList u.scheme) then
    let (path, params) := cutParams u.path
    { u with path, params }
  else u

/-- Cut a reference into its parts, given the scheme it has when it names none. -/
def splitWith? (scheme : List Char) (cs : List Char) : Option Uri :=
  (splitWhole? scheme cs).map withParamsCut

def split? (cs : List Char) : Option Uri :=
  splitWith? [] cs

/-- Put the parts together again.  An empty authority is written only where the scheme asks for one and the path does not
begin with two slashes, which then stand for it. -/
def render (u : Uri) : List Char :=
  let path := if u.params.isEmpty then u.path else u.path ++ ';' :: u.params
  let asked := !u.scheme.isEmpty && withAuthority.contains (String.ofList u.scheme)
  let path :=
    if !u.authority.isEmpty || (asked && !(['/', '/'].isPrefixOf path)) then
      let rooted := if !path.isEmpty && path.head? != some '/' then '/' :: path else path
      '/' :: '/' :: (u.authority ++ rooted)
    else path
  let path := if u.scheme.isEmpty then path else u.scheme ++ ':' :: path
  let path := if u.query.isEmpty then path else path ++ '?' :: u.query
  if u.fragment.isEmpty then path else path ++ '#' :: u.fragment

/-- The form of a reference under which references that differ only in how they are written are the same. -/
def normal? (cs : List Char) : Option (List Char) :=
  (splitWhole? [] cs).map render

/-- Segments with those that name the same place or the one above carried out. -/
def resolveDots : List (List Char) → List (List Char) → List (List Char)
  | seen, [] => seen.reverse
  | seen, s :: rest =>
    if s = ['.', '.'] then resolveDots (seen.drop 1) rest
    else if s = ['.'] then resolveDots seen rest
    else resolveDots (s :: seen) rest

def joinSegments : List (List Char) → List Char
  | [] => []
  | [s] => s
  | s :: rest => s ++ '/' :: joinSegments rest

/-- The path that a relative path means behind a base path. -/
def joinPath (base path : List Char) : List Char :=
  let parts := splitChars '/' base
  let parts := if (parts.getLast?.getD []).isEmpty then parts else parts.dropLast
  let segments :=
    if path.head? = some '/' then splitChars '/' path
    else
      let all := parts ++ splitChars '/' path
      all.take 1 ++ ((all.drop 1).dropLast.filter fun s => !s.isEmpty) ++
        (if 1 < all.length then all.drop (all.length - 1) else [])
  let resolved := resolveDots [] segments
  let last := segments.getLast?.getD []
  let resolved := if last = ['.'] || last = ['.', '.'] then resolved ++ [[]] else resolved
  let joined := joinSegments resolved
  if joined.isEmpty then ['/'] else joined

/-- The reference that a reference means behind a base; none if either cannot be cut. -/
def join? (base ref : List Char) : Option (List Char) :=
  if base.isEmpty then some ref
  else if ref.isEmpty then some base
  else do
    let b ← split? base
    let r ← splitWith? b.scheme ref
    if r.scheme != b.scheme || !withRelative.contains (String.ofList r.scheme) then return ref
    let authorised := withAuthority.contains (String.ofList r.scheme)
    if authorised && !r.authority.isEmpty then return r.render
    let r := if authorised then { r with authority := b.authority } else r
    if r.path.isEmpty && r.params.isEmpty then
      return render { r with path := b.path, params := b.params, query := if r.query.isEmpty then b.query else r.query }
    return render { r with path := joinPath b.path r.path }

/-- A reference without its fragment, and the fragment. -/
def defragment? (ref : List Char) : Option (List Char × List Char) :=
  if ref.contains '#' then do
    let r ← split? ref
    return (render { r with fragment := [] }, r.fragment)
  else some (ref, [])

end Uri

end SchemaLint
