import SchemaLint.Schema.Registry
import SchemaLint.Files.Disk
import SchemaLint.Json.Reader
import SchemaLint.Text.Base64
import SchemaLint.Text.Blank

/-!
# Retrieving resources

A reference may name a resource that no schema at hand holds.  Two kinds of names say where its contents are: one spells
them out itself, the other names a file of the disk.  Every other name would need a network and leads nowhere, and so
does a name whose contents are not JSON.
-/

namespace SchemaLint

namespace Schema

open Json (Value)

namespace Retrieval

/-- The JSON value in bytes, in any of the encodings that JSON may be written in. -/
def valueOf? (bytes : Bytes) : Option Value :=
  match Encoding.decodeDetected bytes with
  | .ok t => (Json.readDecoded .lenient t).toOption
  | .error _ => none

/-- A name without blanks around it, the marks that may enclose it, and its fragment. -/
def bare (name : List Char) : List Char :=
  let name := strip name
  let name :=
    if name.head? = some '<' && name.getLast? = some '>' && 1 < name.length then strip ((name.drop 1).dropLast) else name
  let name := if "URL:".toList.isPrefixOf name then strip (name.drop 4) else name
  match Uri.cutAt? '#' name.reverse with
  | some (_, before) => before.reverse
  | none => name

/-- The scheme of a name in lower case, and what follows its colon. -/
def cutScheme? (name : List Char) : Option (String × List Char) :=
  match Uri.cutAt? ':' name with
  | some (scheme, rest) =>
    if scheme.isEmpty || scheme.contains '/' then none else some (String.ofList (scheme.map Char.toLower), rest)
  | none => none

/-! ## Names that spell out their contents -/

/-- What a kind of content ends with if the contents are written in base 64. -/
def base64Mark : List Char := ";base64".toList

/-- The bytes that a name spells out behind its scheme: after a comma, in front of which stands the kind of content. -/
def spelledOut? (rest : List Char) : Option Bytes :=
  match Uri.cutAt? ',' rest with
  | none => none
  | some (kind, contents) =>
    let bytes := Percent.bytes contents
    if base64Mark.isSuffixOf kind then Base64.readBytes bytes else some bytes

/-! ## Names of files -/

/-- Whether a host is the one that the disk belongs to; a colon without a port may follow it. -/
def isOwnHost (host : List Char) : Bool :=
  let name := if host.getLast? = some ':' then host.dropLast else host
  name.isEmpty || ["localhost", "127.0.0.1"].contains (String.ofList (name.map Char.toLower))

/-- The path of a file that a name stands for behind its scheme, if the file is on the disk. -/
def filePath? (rest : List Char) : Option String :=
  let (host, path) := Uri.cutAuthority rest
  let host := Percent.decode host
  let path := if ['/', '/'].isPrefixOf rest && !path.isEmpty && path.head? != some '/' then '/' :: path else path
  let twofold := ['/', '/'].isPrefixOf path && path[2]? != some '/'
  if twofold && !host.isEmpty && host != "localhost".toList then none
  else if isOwnHost host then some (String.ofList (Percent.decode path))
  else none

/-- Retrieve without a network, from names and from the files of a disk. -/
def ofDisk (d : Disk) : Retrieval := fun name =>
  match cutScheme? (bare name) with
  | some ("data", rest) => (spelledOut? rest).bind valueOf?
  | some ("file", rest) => (filePath? rest).bind fun path => (d.readFile path).toOption.bind valueOf?
  | _ => none

end Retrieval

end Schema

end SchemaLint
