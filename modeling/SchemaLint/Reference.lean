import SchemaLint.LintError
import SchemaLint.Files.Path
import SchemaLint.Uri.Basic
import SchemaLint.Uri.Percent

/-!
# References to schemas

A schema is named by a reference.  A reference with a scheme and a host is remote; every other one is a path, of which
a leading tilde stands for a home folder, or a file URI, whose escapes are decoded.
-/

namespace SchemaLint

/-- Where people are at home. -/
structure Homes where
  own : String
  others : List (String × String)

namespace Homes

/-- The home that a name behind a tilde stands for. -/
def home? (h : Homes) (name : String) : Option String :=
  if name.isEmpty then some h.own else h.others.lookup name

/-- A path in which a leading tilde is replaced; a name that nobody has or can have is a crash. -/
def expand (h : Homes) (p : Path) : Except Crash Path :=
  match p.start, p.parts with
  | .here, first :: rest =>
    match first.toList with
    | '~' :: name =>
      if name.contains '\x00' then .error .value
      else
        match h.home? (String.ofList name) with
        | some home =>
          if home.toList.head? = some '~' then .error .runtime
          else
            let home := Path.ofString (if home.isEmpty then "/" else home)
            .ok { home with parts := home.parts ++ rest }
        | none => .error .runtime
    | _ => .ok p
  | _, _ => .ok p

end Homes

namespace Reference

/-- The parts of a reference; one that cannot be cut into parts is a crash. -/
def parts (reference : String) : Except Crash Uri :=
  match Uri.split? reference.toList with
  | some uri => .ok uri
  | none => .error .value

/-- Whether a reference has a scheme and a host. -/
def isRemote (reference : String) : Except Crash Bool := do
  let uri ← parts reference
  return !uri.scheme.isEmpty && !uri.authority.isEmpty

def localPath (homes : Homes) (reference : String) : Except Crash Path := do
  let uri ← parts reference
  if uri.scheme = "file".toList then return .ofChars (Percent.decode uri.path)
  homes.expand (.ofString reference)

end Reference

end SchemaLint
