import SchemaLint.Text.CodePoint

/-!
# Tokens

A YAML text is a sequence of tokens.  Indentation has become brackets of its own: a block begins with a token that says
what it holds and ends with one that closes it.
-/

namespace SchemaLint

namespace Yaml

/-- Why a text is not YAML, or what reading it crashes with. -/
inductive Fault
  | malformed
  /-- The text goes on, but no more of it can be read. -/
  | cut
  /-- A number or a date that cannot be. -/
  | value
  | overflow
  /-- A word that was to be a truth value. -/
  | unknownWord
  | noCharacters
  /-- Something that was to be a point in time. -/
  | noTime
  | tooDeep
  deriving DecidableEq

/-- A line in front of a document. -/
inductive Directive
  | version (major : Nat)
  | handle (name start : String)
  | other
  deriving DecidableEq

/-- The kind of a node as it is written: with a handle that stands for the beginning of a name, or in full. -/
structure TagMark where
  handle : Option String
  name : String
  deriving DecidableEq

/-- A token. -/
inductive Token
  | directive (d : Directive)
  | documentStart
  | documentEnd
  | blockSequence
  | blockMapping
  | blockEnd
  | flowSequence
  | flowSequenceEnd
  | flowMapping
  | flowMappingEnd
  | blockEntry
  | flowEntry
  | key
  | value
  | alias (name : String)
  | anchor (name : String)
  | tag (t : TagMark)
  | scalar (text : Text) (plain : Bool)
  deriving DecidableEq

end Yaml

end SchemaLint
