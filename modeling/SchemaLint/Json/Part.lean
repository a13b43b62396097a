import SchemaLint.Json.Layout
import SchemaLint.Json.Token

/-!
# The parts of a text

A text is made of string literals and of what lies between them.  Where a literal ends is for the reader of literals to
say, so that the parts tell what the text means and not what the pretty printer takes it for.
-/

namespace SchemaLint

namespace Json

/-- A part of a text. -/
inductive Part
  | between (c : CodePoint)
  | literal (body : Text)
  /-- A literal without an end, up to the end of the text. -/
  | unclosed (rest : Text)
  deriving DecidableEq

namespace Part

/-- Whether each code point of a part leaves the text inside a literal. -/
def insides : Part -> List Bool
  | between _ => [false]
  | literal body => true :: (body.map (fun _ => true) ++ [false])
  | unclosed rest => true :: rest.map fun _ => true

def isBlank : Part -> Bool
  | between c => Token.isBlank c
  | literal _ | unclosed _ => false

end Part

/-- The parts of a text; `skip` counts the code points of the last literal that are still to be passed over. -/
def partsFrom : Nat -> Text -> List Part
  | _, [] => []
  | skip + 1, _ :: rest => partsFrom skip rest
  | 0, c :: rest =>
    if c = '"' then
      match Token.readString 0 [] 0 0 rest with
      | .closed _ _ length => .literal (rest.take (length - 1)) :: partsFrom length rest
      | .fault _ _ => [.unclosed rest]
    else .between c :: partsFrom 0 rest

def parts (t : Text) : List Part :=
  partsFrom 0 t

/-- Whether the text is inside a string literal behind each of its code points. -/
def insides (t : Text) : List Bool :=
  (parts t).flatMap Part.insides

/-- What is left of a text without the whitespace between its tokens. -/
def ink (t : Text) : List Part :=
  (parts t).filter fun p => !p.isBlank

/-- No string literal has a backslash right before its closing quote. -/
def EndsPlainly (t : Text) : Prop :=
  forall body, Part.literal body ∈ parts t -> body.getLast? ≠ some (.scalar '\\')

namespace Layout

/-- Whether the pretty printer takes the text to be inside a string literal behind each of its code points. -/
def flags (s : State) : Text -> List Bool
  | [] => []
  | c :: rest => (next s c).inString :: flags (next s c) rest

end Layout

end Json

end SchemaLint
