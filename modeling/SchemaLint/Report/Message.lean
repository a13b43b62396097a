import SchemaLint.Failure
import SchemaLint.Json.Escaped

/-!
# Messages

Each kept failure is told in one sentence.  Ten rules have sentences of their own; all others share one, which shows
the limit as data.
-/

namespace SchemaLint

open Json

namespace Failure

/-- The type that a field must have; several are separated by commas. -/
def typeText : Value → String
  | .array types => String.intercalate "," (types.map Value.display)
  | type => type.display

/-- The limit of a rule as data: a number as it is printed, everything else as JSON. -/
def limitText : Value → String
  | .int n => toString n
  | .float x => x.text
  | v => v.escaped

/-- A rule with a sentence of its own: what it says behind the field. -/
def sentence? (f : Failure) : Option String :=
  let rule := Text.toString f.rule
  let limit := f.limit.display
  match rule with
  | "type" => some s!"must be of type \"{typeText f.limit}\""
  | "minLength" => some s!"must be at least \"{limit}\" characters"
  | "maxLength" => some s!"may be at most \"{limit}\" characters"
  | "minProperties" => some s!"must hold at least \"{limit}\" properties"
  | "maxProperties" => some s!"may hold at most \"{limit}\" properties"
  | "patternProperties" => some s!"must hold \"{limit}\" properties"
  | "minItems" => some s!"must have at least \"{limit}\" items"
  | "maxItems" => some s!"may have at most \"{limit}\" items"
  | "required" => some s!"is {rule} but unset"
  | "additional" => some s!"is not allowed as {rule} key"
  | _ => none

def otherSentence (f : Failure) : String :=
  s!"does not meet rule \"{Text.toString f.rule}={limitText f.limit}\" - {f.description}"

def message (f : Failure) : String :=
  let sentence := f.sentence?.getD f.otherSentence
  s!"\"{Text.toString f.field}\" {sentence}"

end Failure

def Findings.messages (findings : Findings) : List String :=
  findings.toList.map Failure.message

/-- A line that names the document and the schema, and a line for each message that says something. -/
def report (label uri : String) (messages : List String) : String :=
  let header := s!"\"{label}\" fails against schema \"{uri}\""
  String.intercalate "\n" (header :: (messages.filter fun m => !m.isEmpty).map fun m => "\t" ++ m)

end SchemaLint
